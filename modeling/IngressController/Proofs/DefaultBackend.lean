import IngressController.DefaultBackend
import IngressController.Proofs.Text.Fields
import IngressController.Proofs.Text.Map

/-!
# `IngressController.Proofs.DefaultBackend`: a bad value affects its own field only

A config map is gone through entry by entry, and all of it would count for nothing if a field were
given twice. No two entries of a map have the same key, and no two fields are given under the same
key, so this never happens: every field is what its own entry makes it, and an entry that cannot be
read leaves what is built in. For this the value that a field is read with, to fall back on, has to
be the one that is built in.

* `Slots.visitAll_eq`: what has been read after some entries, each under its own key.
* `Reader.FallsBackTo`: a reader falls back to a value, and `fallsBackTo_builtIn`: the reader of a
  field falls back to the built-in value of that field.
* `FieldByField`: each field depends on the value of its own key alone, and `fieldByField_ofData`:
  this is so for every config map.
-/

set_option autoImplicit false

namespace IngressController.DefaultBackend

/-! ### Fields by their keys -/

/-- The value of a field. -/
def get (backend : DefaultBackend) : (f : Field) → f.Value
  | .proxyBodySize => backend.proxyBodySize
  | .proxyConnectTimeout => backend.proxyConnectTimeout
  | .proxySendTimeout => backend.proxySendTimeout
  | .proxyReadTimeout => backend.proxyReadTimeout
  | .proxyBufferSize => backend.proxyBufferSize
  | .proxyCookiePath => backend.proxyCookiePath
  | .proxyCookieDomain => backend.proxyCookieDomain
  | .proxyNextServer => backend.proxyNextServer
  | .proxyPassParams => backend.proxyPassParams
  | .proxyRequestBuffering => backend.proxyRequestBuffering
  | .sslRedirect => backend.sslRedirect
  | .usePortInRedirects => backend.usePortInRedirects
  | .whitelistSourceRange => backend.whitelistSourceRange
  | .healthCheckUri => backend.healthCheckUri
  | .healthCheckAddr => backend.healthCheckAddr
  | .healthCheckPort => backend.healthCheckPort
  | .healthCheckInterval => backend.healthCheckInterval
  | .healthCheckRiseCount => backend.healthCheckRiseCount
  | .healthCheckFallCount => backend.healthCheckFallCount

/-- A default backend is determined by its fields. -/
theorem ext_get {backend backend' : DefaultBackend} (h : ∀ f, backend.get f = backend'.get f) :
    backend = backend' := by
  obtain ⟨⟩ := backend
  obtain ⟨⟩ := backend'
  rw [DefaultBackend.mk.injEq]
  exact ⟨h .proxyBodySize, h .proxyConnectTimeout, h .proxySendTimeout, h .proxyReadTimeout,
    h .proxyBufferSize, h .proxyCookiePath, h .proxyCookieDomain, h .proxyNextServer,
    h .proxyPassParams, h .proxyRequestBuffering, h .sslRedirect, h .usePortInRedirects,
    h .whitelistSourceRange, h .healthCheckUri, h .healthCheckAddr, h .healthCheckPort,
    h .healthCheckInterval, h .healthCheckRiseCount, h .healthCheckFallCount⟩

/-- A key names the field that is given under it. -/
theorem Field.ofKey?_eq_some_iff {key : String} {f : Field} :
    Field.ofKey? key = some f ↔ f.key = key := by
  constructor
  · intro h
    simpa using List.find?_some h
  · rintro rfl
    cases f <;> decide

/-- No two fields are given under the same key. -/
theorem Field.key_inj {f g : Field} : f.key = g.key ↔ f = g := by
  constructor
  · intro h
    have hf : Field.ofKey? f.key = some g := Field.ofKey?_eq_some_iff.mpr h.symm
    rw [Field.ofKey?_eq_some_iff.mpr rfl] at hf
    exact Option.some.inj hf
  · rintro rfl
    rfl

/-! ### Going through the entries -/

namespace Slots

variable {slots : Slots} {f g : Field}

@[simp] theorem set_self (value : f.Value) : slots.set f value f = some value := by
  rw [set, dif_pos rfl]

theorem set_of_ne (h : f ≠ g) (value : f.Value) : slots.set f value g = slots g := by
  rw [set, dif_neg h]

/-- The fields of a default backend that has been filled in. -/
theorem get_fill (slots : Slots) (backend : DefaultBackend) (f : Field) :
    (slots.fill backend).get f = (slots f).getD (backend.get f) := by
  cases f <;> rfl

/-- The values that have been given, with those that some entries give to the other fields. -/
def along (slots : Slots) (entries : List (String × String)) : Slots :=
  fun f => (slots f).or ((TextMap.lookup f.key entries).map fun text => (f.reader.read text).value)

/-- What is reported of some entries, in their order. -/
def notesOf (entries : List (String × String)) : List Note :=
  entries.flatMap fun (key, text) =>
    match Field.ofKey? key with
    | some f => (f.reader.read text).notes
    | none => []

/-- An entry whose key names no field changes nothing. -/
theorem along_cons_of_none {key : String} (h : Field.ofKey? key = none) (text : String)
    (slots : Slots) (rest : List (String × String)) :
    slots.along ((key, text) :: rest) = slots.along rest := by
  funext f
  have hne : key ≠ f.key := fun heq => by
    rw [Field.ofKey?_eq_some_iff.mpr heq.symm] at h
    cases h
  rw [along, along, TextMap.lookup, if_neg hne]

/-- An entry for a field that has not been given gives it. -/
theorem along_cons_of_some (hfree : slots f = none) (text : String)
    (rest : List (String × String)) :
    slots.along ((f.key, text) :: rest) = (slots.set f (f.reader.read text).value).along rest := by
  funext g
  rw [along, along, TextMap.lookup]
  by_cases h : f = g
  · subst h
    rw [if_pos rfl, set_self, hfree]
    rfl
  · rw [if_neg (mt Field.key_inj.mp h), set_of_ne h]

/-- Entries under keys of their own, for fields that have not been given, are all taken in, and
what is reported is what is reported of each of them. -/
theorem visitAll_eq {entries : List (String × String)} (hkeys : (entries.map Prod.fst).Nodup)
    (hfree : ∀ f : Field, f.key ∈ entries.map Prod.fst → slots f = none) :
    slots.visitAll entries = ⟨.ok (slots.along entries), notesOf entries⟩ := by
  induction entries generalizing slots with
  | nil =>
      have hsame : slots.along [] = slots := funext fun f => Option.or_none
      rw [hsame]
      rfl
  | cons entry rest ih =>
      obtain ⟨key, text⟩ := entry
      obtain ⟨hnew, hrest⟩ := List.nodup_cons.mp hkeys
      have hlater : ∀ g : Field, g.key ∈ rest.map Prod.fst → slots g = none :=
        fun g hg => hfree g (List.mem_cons_of_mem _ hg)
      rw [visitAll, visit]
      cases hkey : Field.ofKey? key with
      | none =>
          rw [along_cons_of_none hkey]
          have hnotes : notesOf ((key, text) :: rest) = notesOf rest := by
            simp [notesOf, hkey]
          rw [hnotes, ← ih hrest hlater]
          rfl
      | some f =>
          obtain rfl := Field.ofKey?_eq_some_iff.mp hkey
          have hnone : slots f = none := hfree f (List.mem_cons_self ..)
          -- The field is not given again, so the later ones are as free as before.
          have hlater' : ∀ g : Field, g.key ∈ rest.map Prod.fst →
              slots.set f (f.reader.read text).value g = none := by
            intro g hg
            have hne : f ≠ g := by
              rintro rfl
              exact hnew hg
            rw [set_of_ne hne]
            exact hlater g hg
          have hnotes : notesOf ((f.key, text) :: rest)
              = (f.reader.read text).notes ++ notesOf rest := by
            simp [notesOf, hkey]
          rw [along_cons_of_some hnone, hnotes]
          simp only [hnone, bind_assoc, pure_bind]
          show Reported.mk (visitAll _ rest).value ((f.reader.read text).notes
            ++ (visitAll _ rest).notes) = _
          rw [ih hrest hlater']

end Slots

/-! ### What is read with and what is built in -/

/-- The built-in default backend. -/
def builtIn : DefaultBackend := {}

namespace Reader

/-- A reader falls back to a value, if there is anything that it cannot read. -/
def FallsBackTo : (r : Reader) → r.Value → Prop
  | .text, _ => True
  | .int fallback, value => fallback = value
  | .bool fallback, value => fallback = value
  | .list, _ => True

/-- Whether a text can be read. -/
def canRead : Reader → String → Bool
  | .text, _ => true
  | .int _, raw => (Text.readSigned? 32 raw).isSome
  | .bool _, raw => (Annotations.parseBool? raw).isSome
  | .list, _ => true

/-- What a text says that has no blanks around it: itself, a number, a truth value or a list. What
cannot be read leaves what is built in. -/
def meaning : (r : Reader) → r.Value → String → r.Value
  | .text, _, raw => raw
  | .int _, builtIn, raw => (Text.readSigned? 32 raw).getD builtIn
  | .bool _, builtIn, raw => (Annotations.parseBool? raw).getD builtIn
  | .list, _, raw => commaList raw

/-- What is reported of a text that cannot be read. -/
def ignoring : Note :=
  .log .warn "ignoring invalid default backend value"

/-- What has been read, or what to fall back on. -/
theorem lenient_eq {α : Type} (fallback : α) (read? : Option α) :
    lenient fallback read? = ⟨read?.getD fallback, if read?.isSome then [] else [ignoring]⟩ := by
  cases read? <;> rfl

/-- A reader gives what a text says, and reports one that it cannot read. -/
theorem read_eq {r : Reader} {builtIn : r.Value} (h : r.FallsBackTo builtIn) {raw : String}
    (hraw : Text.trim raw = raw) :
    r.read raw = ⟨r.meaning builtIn raw, if r.canRead raw then [] else [ignoring]⟩ := by
  cases r with
  | text => rfl
  | int fallback =>
      obtain rfl : fallback = builtIn := h
      rw [read, hraw, lenient_eq]
      rfl
  | bool fallback =>
      obtain rfl : fallback = builtIn := h
      rw [read, hraw, lenient_eq]
      rfl
  | list => rfl

end Reader

/-- What the reader of a field falls back to is the built-in value of the field. -/
theorem fallsBackTo_builtIn (f : Field) : f.reader.FallsBackTo (builtIn.get f) := by
  cases f <;> trivial

/-! ### A whole config map -/

/-- An entry that names a field and cannot be read. -/
def IsBad (entry : String × String) : Prop :=
  ∃ f : Field, f.key = entry.1 ∧ f.reader.canRead (Text.trim entry.2) = false

instance (entry : String × String) : Decidable (IsBad entry) :=
  decidable_of_iff
    ((Field.ofKey? entry.1).any fun f => !f.reader.canRead (Text.trim entry.2)) <| by
    simp only [Option.any_eq_true, Field.ofKey?_eq_some_iff, Bool.not_eq_true', IsBad]

/-- Each field of a default backend is what the value of its own key makes it, whatever else is in
the config map. -/
structure FieldByField (data : TextMap String) : Prop where
  /-- The entries are never discarded as a whole. -/
  taken : ∃ slots, (Slots.empty.visitAll (trimmedEntries data)).value = .ok slots
  /-- A field is as it is built in if its key is not there. -/
  absent : ∀ f : Field, data.get? f.key = none → (ofData data).value.get f = builtIn.get f
  /-- Else it is what the value says without the blanks around it; a number or a truth value that
  cannot be read leaves what is built in. -/
  given : ∀ (f : Field) (value : String), data.get? f.key = some value →
    (ofData data).value.get f = f.reader.meaning (builtIn.get f) (Text.trim value)
  /-- The key of a field is that of no other one. -/
  own : ∀ f g : Field, f.key = g.key → f = g
  /-- Other config maps that agree on the key of a field give the field the same value. -/
  alone : ∀ (f : Field) (data' : TextMap String), data'.get? f.key = data.get? f.key →
    (ofData data').value.get f = (ofData data).value.get f
  /-- Keys that name no field make no difference. -/
  unknown : ∀ data' : TextMap String, (∀ f : Field, data'.get? f.key = data.get? f.key) →
    (ofData data').value = (ofData data).value
  /-- Each entry that cannot be read is reported once, and nothing else is. -/
  reported : (ofData data).notes
    = (data.entries.filter fun entry => IsBad entry).map fun _ => Reader.ignoring

section Data

variable (data : TextMap String)

/-- The keys of a map stay its keys when the values are trimmed. -/
theorem map_fst_trimmedEntries : (trimmedEntries data).map Prod.fst = data.keys := by
  rw [trimmedEntries, List.map_map]
  rfl

/-- A look-up among the trimmed entries. -/
theorem lookup_trimmedEntries (key : String) :
    TextMap.lookup key (trimmedEntries data) = (data.get? key).map Text.trim := by
  rw [trimmedEntries, TextMap.get?]
  induction data.entries with
  | nil => rfl
  | cons entry rest ih =>
      rw [List.map_cons, TextMap.lookup, TextMap.lookup, ih]
      by_cases hkey : entry.1 = key
      · rw [if_pos hkey, if_pos hkey]
        rfl
      · rw [if_neg hkey, if_neg hkey]

/-- All entries of a map are taken in. -/
theorem visitAll_trimmedEntries :
    Slots.empty.visitAll (trimmedEntries data)
      = ⟨.ok (Slots.empty.along (trimmedEntries data)), Slots.notesOf (trimmedEntries data)⟩ := by
  refine Slots.visitAll_eq ?_ fun _ _ => rfl
  rw [map_fst_trimmedEntries]
  exact data.nodup_keys

/-- The default backend of a config map is the built-in one with the fields that have been given,
and nothing is reported but of entries. -/
theorem ofData_eq :
    ofData data = ⟨(Slots.empty.along (trimmedEntries data)).fill builtIn,
      Slots.notesOf (trimmedEntries data)⟩ := by
  rw [ofData, visitAll_trimmedEntries]
  show Reported.mk _ (_ ++ []) = _
  rw [List.append_nil]
  rfl

/-- A field of the default backend of a config map. -/
theorem get_ofData (f : Field) :
    (ofData data).value.get f
      = ((data.get? f.key).map fun value =>
          f.reader.meaning (builtIn.get f) (Text.trim value)).getD (builtIn.get f) := by
  have hread : ∀ value, (f.reader.read (Text.trim value)).value
      = f.reader.meaning (builtIn.get f) (Text.trim value) := fun value => by
    rw [Reader.read_eq (fallsBackTo_builtIn f) (Text.trim_trim value)]
  rw [ofData_eq, Slots.get_fill, Slots.along, lookup_trimmedEntries]
  cases data.get? f.key with
  | none => rfl
  | some value => exact hread value

/-- What is reported of a config map. -/
theorem notes_ofData :
    (ofData data).notes
      = (data.entries.filter fun entry => IsBad entry).map fun _ => Reader.ignoring := by
  have hnotes : (ofData data).notes = Slots.notesOf (trimmedEntries data) := by rw [ofData_eq]
  rw [hnotes, Slots.notesOf, trimmedEntries, List.flatMap_map]
  induction data.entries with
  | nil => rfl
  | cons entry rest ih =>
      rw [List.flatMap_cons, ih, List.filter_cons]
      cases hkey : Field.ofKey? entry.1 with
      | none =>
          have hfine : ¬ IsBad entry := by
            rintro ⟨f, hf, -⟩
            rw [Field.ofKey?_eq_some_iff.mpr hf] at hkey
            cases hkey
          simp [hkey, hfine]
      | some f =>
          have hbad : IsBad entry ↔ f.reader.canRead (Text.trim entry.2) = false := by
            constructor
            · rintro ⟨g, hg, h⟩
              rw [Field.ofKey?_eq_some_iff.mpr hg, Option.some.injEq] at hkey
              rwa [← hkey]
            · exact fun h => ⟨f, Field.ofKey?_eq_some_iff.mp hkey, h⟩
          simp only [hkey, hbad]
          rw [Reader.read_eq (fallsBackTo_builtIn f) (Text.trim_trim entry.2)]
          cases f.reader.canRead (Text.trim entry.2) <;> simp

/-- The list under a key of a config map. -/
def listSetting (data : TextMap String) (key : String) : List String :=
  match data.get? key with
  | some value => commaList value
  | none => []

/-- To trim a list with commas makes no difference to its parts. -/
theorem commaList_trim (value : String) : commaList (Text.trim value) = commaList value := by
  rw [commaList, commaList, Text.map_trim_splitOn_trim (by decide)]

/-- The list of a config map is the list of its default backend. -/
theorem whitelistSourceRange_ofData :
    (ofData data).value.whitelistSourceRange = listSetting data "whitelist-source-range" := by
  have hget := get_ofData data .whitelistSourceRange
  rw [show Field.key .whitelistSourceRange = "whitelist-source-range" from rfl] at hget
  rw [listSetting]
  generalize (ofData data).value = backend at hget ⊢
  cases hvalue : data.get? "whitelist-source-range" with
  | none =>
      rw [hvalue] at hget
      exact hget
  | some value =>
      rw [hvalue, Option.map_some, Option.getD_some] at hget
      have hparts : backend.whitelistSourceRange = commaList (Text.trim value) := hget
      exact hparts.trans (commaList_trim value)

end Data

/-- Every config map describes a default backend field by field. -/
theorem fieldByField_ofData (data : TextMap String) : FieldByField data where
  taken := ⟨_, congrArg Reported.value (visitAll_trimmedEntries data)⟩
  absent f hnone := by
    rw [get_ofData, hnone]
    rfl
  given f value hvalue := by
    rw [get_ofData, hvalue]
    rfl
  own _ _ := Field.key_inj.mp
  alone f data' hsame := by
    rw [get_ofData, get_ofData, hsame]
  unknown data' hsame := ext_get fun f => by
    rw [get_ofData, get_ofData, hsame]
  reported := notes_ofData data

/-- A number and a truth value that cannot be read leave the fields beside them alone. -/
example :
    (ofData (TextMap.ofList [("proxy-connect-timeout", "ten"), ("proxy-send-timeout", " 15 "),
        ("ssl-redirect", "nah"), ("use-port-in-redirects", "true"), ("unknown", "42")])).value
      = { proxySendTimeout := 15, usePortInRedirects := true } := by decide +kernel

end IngressController.DefaultBackend
