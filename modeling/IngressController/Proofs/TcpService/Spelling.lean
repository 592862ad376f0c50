import IngressController.Proofs.TcpService.Directive
import IngressController.Proofs.TcpService.Verdict

/-!
# `IngressController.Proofs.TcpService.Spelling`: the texts that spell out a directive

A directive is spelled out by its five fields with colons between them. The third and the fourth of
them are markers for the proxy protocol, and there are two markers for its second version. Empty
fields at the end can be left out with their colons, and every field can have blanks around it.
Beside the numeral of its public port, each of these texts is read as the directive again, and no
other text that is well-formed is.

* `Writable`: the directives that can be spelled out at all.
* `DecodeText` and `EncodeText`: the markers for the proxy protocol, as they are written.
* `Spells`: the texts that spell out a directive.
* `ReadBack`: a directive is read from the texts that spell it out and from no others, and
  `readBack_of_writable`: every directive that can be spelled out is.
-/

set_option autoImplicit false

namespace IngressController.TcpService.Directive

/-! ### Spellings -/

/-- A directive can be spelled out: its public port is a number of sixteen bits, and what it refers
to can stand between colons. The name of the Service cannot be missing. -/
structure Writable (d : Directive) : Prop where
  publicPort : d.publicPort ≤ 65535
  service : IsField d.service ∧ d.service ≠ ""
  port : IsField d.port
  secret : IsField d.secret

/-- What the third field says about a header that is to be expected. -/
inductive DecodeText : Bool → String → Prop
  | plain : DecodeText false ""
  | proxy : DecodeText true "proxy"

/-- What the fourth field says about a header that is to be sent on. -/
inductive EncodeText : Option ProxyVersion → String → Prop
  | plain : EncodeText none ""
  | v1 : EncodeText (some .v1) "proxy-v1"
  | v2 : EncodeText (some .v2) "proxy-v2"
  /-- Without a number it is the second version. -/
  | proxy : EncodeText (some .v2) "proxy"

/-- The five fields of a directive. -/
inductive FieldsOf (d : Directive) : List String → Prop
  | intro {decode encode : String} (hdecode : DecodeText d.proxy.decode decode)
      (hencode : EncodeText d.proxy.encode encode) :
      FieldsOf d [d.service, d.port, decode, encode, d.secret]

/-- A text spells out a directive: it consists of the fields up to some that are empty, with colons
between them and maybe blanks around each. -/
def Spells (d : Directive) (text : String) : Prop :=
  ∃ (kept parts : List String) (empties : Nat), FieldsOf d (kept ++ List.replicate empties "")
    ∧ List.Forall₂ Text.Padded kept parts
    ∧ text = (String.singleton ':').intercalate parts

/-- A directive is read back from what is written for it. -/
structure ReadBack (d : Directive) : Prop where
  /-- It is read from its five fields with colons between them. -/
  full : ∀ decode encode,
    DecodeText d.proxy.decode decode → EncodeText d.proxy.encode encode →
    parse (Text.decimal d.publicPort)
      (d.service ++ ":" ++ d.port ++ ":" ++ decode ++ ":" ++ encode ++ ":" ++ d.secret) = .ok d
  /-- So it is from every text that spells it out, and from no other well-formed one. -/
  spelled : ∀ text, Spells d text
    ↔ WellFormed text ∧ parse (Text.decimal d.publicPort) text = .ok d

/-! ### Markers -/

section Markers

variable {decode : Bool} {encode : Option ProxyVersion} {text : String}

/-- A text in the third field is one of its markers, and says what is read from it. -/
theorem decodeText_iff :
    DecodeText decode text ↔ text ∈ decodeMarkers ∧ isDecodeMarker text = decode := by
  constructor
  · intro h
    cases h <;> decide
  · rintro ⟨hmem, rfl⟩
    simp only [decodeMarkers, List.mem_cons, List.not_mem_nil, or_false] at hmem
    rcases hmem with rfl | rfl
    · exact .plain
    · exact .proxy

/-- A text in the fourth field is one of its markers, and says what is read from it. -/
theorem encodeText_iff :
    EncodeText encode text ↔ text ∈ encodeMarkers ∧ encodeMarker? text = encode := by
  constructor
  · intro h
    cases h <;> decide
  · rintro ⟨hmem, rfl⟩
    simp only [encodeMarkers, List.mem_cons, List.not_mem_nil, or_false] at hmem
    rcases hmem with rfl | rfl | rfl | rfl
    · exact .plain
    · exact .proxy
    · exact .v1
    · exact .v2

/-- The markers of the third field can stand between colons. -/
theorem DecodeText.isField (h : DecodeText decode text) : IsField text := by
  cases h <;> exact ⟨by decide, by decide⟩

/-- So can those of the fourth. -/
theorem EncodeText.isField (h : EncodeText encode text) : IsField text := by
  cases h <;> exact ⟨by decide, by decide⟩

end Markers

/-! ### Fields that are left out -/

/-- At every place stands the same field, whether or not empty ones at the end are left out. -/
theorem getD_append_replicate (kept : List String) (empties i : Nat) :
    (kept ++ List.replicate empties "").getD i "" = kept.getD i "" := by
  rcases Nat.lt_or_ge i kept.length with hi | hi
  · rw [List.getD_append _ _ _ _ hi]
  · rw [List.getD_append_right _ _ _ _ hi, List.getD_eq_default _ _ hi,
      List.getD_eq_getElem?_getD, List.getElem?_getD_replicate_default_eq]

/-- Up to five fields are those that are read, but for empty ones at the end. -/
theorem fields_append_replicate {text : String} (h : (fields text).length ≤ 5) :
    fields text ++ List.replicate (5 - (fields text).length) ""
      = [field text 0, field text 1, field text 2, field text 3, field text 4] := by
  rw [field_eq text (show 0 < 5 by decide), field_eq text (show 1 < 5 by decide),
    field_eq text (show 2 < 5 by decide), field_eq text (show 3 < 5 by decide),
    field_eq text (show 4 < 5 by decide)]
  -- One case for each number of fields, since the empty ones that are added differ in number.
  match fields text, h with
  | [], _ => rfl
  | [_], _ => rfl
  | [_, _], _ => rfl
  | [_, _, _], _ => rfl
  | [_, _, _, _], _ => rfl
  | [_, _, _, _, _], _ => rfl

section Spelled

variable {d : Directive} {kept parts : List String} {empties : Nat} {text : String}

/-- The fields of a directive that can be spelled out can stand between colons. -/
theorem FieldsOf.isField (hd : d.Writable) (h : FieldsOf d kept) :
    ∀ field ∈ kept, IsField field := by
  obtain ⟨hdecode, hencode⟩ := h
  simp only [List.forall_mem_cons]
  exact ⟨hd.service.1, hd.port, hdecode.isField, hencode.isField, hd.secret,
    fun _ hmem => absurd hmem List.not_mem_nil⟩

/-- Blanks bring no colons. -/
theorem colon_notMem_of_padded {field part : String} (hfield : IsField field)
    (h : Text.Padded field part) : ':' ∉ part.toList := by
  obtain ⟨before, after, rfl, hbefore, hafter⟩ := h
  have hblank : ∀ cs : List Char, (∀ c ∈ cs, Text.isBlank c = true) → ':' ∉ cs :=
    fun _ hcs hmem => absurd (hcs _ hmem) (by decide)
  simp only [String.toList_append, List.mem_append, not_or]
  exact ⟨⟨hblank _ hbefore, hfield.1⟩, hblank _ hafter⟩

/-- Parts have blanks around fields exactly if they are trimmed to them. -/
theorem forall₂_padded_iff (h : ∀ field ∈ kept, Text.trim field = field) :
    List.Forall₂ Text.Padded kept parts ↔ parts.map Text.trim = kept := by
  constructor
  · intro hpadded
    induction hpadded with
    | nil => rfl
    | cons hpart _ ih =>
        obtain ⟨hfield, hfields⟩ := List.forall_mem_cons.mp h
        rw [List.map_cons, (Text.padded_iff hfield).mp hpart, ih hfields]
  · rintro rfl
    rw [List.forall₂_map_left_iff, List.forall₂_same]
    exact fun part _ => Text.padded_trim part

/-- Parts with blanks around fields are cut out of a text and trimmed to the fields. -/
theorem fields_of_padded (hne : kept ≠ []) (hfields : ∀ field ∈ kept, IsField field)
    (h : List.Forall₂ Text.Padded kept parts) :
    fields ((String.singleton ':').intercalate parts) = kept := by
  have htrim : parts.map Text.trim = kept :=
    (forall₂_padded_iff fun field hfield => (hfields field hfield).2).mp h
  have hparts : ∀ part ∈ parts, ':' ∉ part.toList := by
    intro part hpart
    have hfield : Text.trim part ∈ kept := htrim ▸ List.mem_map_of_mem hpart
    exact colon_notMem_of_padded (hfields _ hfield) (Text.padded_trim part)
  have hparts_ne : parts ≠ [] := fun hnil => hne (by rw [← htrim, hnil, List.map_nil])
  rw [fields, Text.splitOn_intercalate hparts_ne hparts, htrim]

/-- What is left of the fields of a directive has the name of the Service in it. -/
theorem kept_ne_nil (hd : d.Writable) (h : FieldsOf d (kept ++ List.replicate empties "")) :
    kept ≠ [] := by
  rintro rfl
  generalize hlist : [] ++ List.replicate empties "" = list at h
  obtain ⟨hdecode, hencode⟩ := h
  cases empties with
  | zero => cases hlist
  | succ empties =>
      rw [List.nil_append, List.replicate_succ] at hlist
      exact hd.service.2 (List.cons.inj hlist).1.symm

/-- The fields of a text that spells out a directive are those of the directive. -/
theorem exists_fields_of_spells (hd : d.Writable) (h : Spells d text) :
    ∃ empties, FieldsOf d (fields text ++ List.replicate empties "") := by
  obtain ⟨kept, parts, empties, hfieldsOf, hpadded, rfl⟩ := h
  have hfields : ∀ field ∈ kept, IsField field := fun field hfield =>
    hfieldsOf.isField hd field (List.mem_append_left _ hfield)
  rw [fields_of_padded (kept_ne_nil hd hfieldsOf) hfields hpadded]
  exact ⟨empties, hfieldsOf⟩

/-- A text has the fields of a directive, up to some that are empty, exactly if it is well-formed
and asks for what the directive says. -/
theorem exists_fieldsOf_iff :
    (∃ empties, FieldsOf d (fields text ++ List.replicate empties ""))
      ↔ WellFormed text ∧ asked d.publicPort text = d := by
  constructor
  · rintro ⟨empties, h⟩
    -- A field that is left out is read as empty, so the text has all five of the directive.
    generalize hlist : fields text ++ List.replicate empties "" = list at h
    have hget : ∀ i < 5, field text i = list.getD i "" := fun i hi => by
      rw [field_eq text hi, ← hlist, getD_append_replicate]
    have hcount : (fields text).length ≤ list.length := by
      rw [← hlist, List.length_append]
      exact Nat.le_add_right _ _
    obtain ⟨hdecode, hencode⟩ := h
    obtain ⟨hdecode_mem, hdecode_eq⟩ := decodeText_iff.mp hdecode
    obtain ⟨hencode_mem, hencode_eq⟩ := encodeText_iff.mp hencode
    refine ⟨⟨hcount, ?_, ?_⟩, ?_⟩
    · rw [← field_eq text (by decide), hget 2 (by decide)]
      exact hdecode_mem
    · rw [← field_eq text (by decide), hget 3 (by decide)]
      exact hencode_mem
    · rw [asked, hget 0 (by decide), hget 1 (by decide), hget 2 (by decide), hget 3 (by decide),
        hget 4 (by decide)]
      simp only [List.getD_cons_zero, List.getD_cons_succ]
      rw [hdecode_eq, hencode_eq]
  · rintro ⟨hform, hasked⟩
    have hdecode : field text 2 ∈ decodeMarkers := by
      rw [field_eq text (by decide)]
      exact hform.decode
    have hencode : field text 3 ∈ encodeMarkers := by
      rw [field_eq text (by decide)]
      exact hform.encode
    refine ⟨5 - (fields text).length, ?_⟩
    obtain ⟨publicPort, service, port, ⟨decode, encode⟩, secret⟩ := d
    simp only [asked, Directive.mk.injEq, ProxyProtocol.mk.injEq, true_and] at hasked
    obtain ⟨hservice, hport, ⟨hdecode_eq, hencode_eq⟩, hsecret⟩ := hasked
    rw [fields_append_replicate hform.count, hservice, hport, hsecret]
    exact .intro (decodeText_iff.mpr ⟨hdecode, hdecode_eq⟩)
      (encodeText_iff.mpr ⟨hencode, hencode_eq⟩)

/-- Beside the numeral of its public port, a directive is read from the texts that ask for what it
says. -/
theorem parse_decimal_iff (hd : d.Writable) :
    parse (Text.decimal d.publicPort) text = .ok d ↔ asked d.publicPort text = d := by
  have hkey : Text.readUnsigned? 16 (Text.decimal d.publicPort) = some d.publicPort :=
    Text.readUnsigned?_decimal (Nat.lt_succ_of_le hd.publicPort)
  by_cases hname : field text 0 = ""
  · have hskip : parse (Text.decimal d.publicPort) text
        = .error (.emptyServiceName d.publicPort) := by
      simp only [parse, hkey, hname, if_true]
    rw [hskip]
    refine iff_of_false (fun hread => ?_) fun hasked => hd.service.2 ?_
    · cases hread
    · rw [← hasked]
      exact hname
  · rw [parse_eq_asked ⟨hkey, hname⟩, Except.ok.injEq]

/-- The texts that spell out a directive are the well-formed ones that ask for what it says. -/
theorem spells_iff (hd : d.Writable) :
    Spells d text ↔ WellFormed text ∧ asked d.publicPort text = d := by
  rw [← exists_fieldsOf_iff]
  constructor
  · exact exists_fields_of_spells hd
  · rintro ⟨empties, hfieldsOf⟩
    refine ⟨fields text, Text.splitOn ':' text, empties, hfieldsOf, ?_,
      (Text.intercalate_splitOn ':' text).symm⟩
    exact (forall₂_padded_iff fun field hfield =>
      (hfieldsOf.isField hd field (List.mem_append_left _ hfield)).2).mpr rfl

/-- A directive is spelled out by its five fields. -/
theorem spells_of_fieldsOf {list : List String} (h : FieldsOf d list) :
    Spells d ((String.singleton ':').intercalate list) := by
  refine ⟨list, list, 0, by rwa [List.replicate_zero, List.append_nil], ?_, rfl⟩
  rw [List.forall₂_same]
  exact fun field _ => ⟨"", "", by simp, by simp, by simp⟩

end Spelled

/-- Every directive that can be spelled out is read back. -/
theorem readBack_of_writable (d : Directive) (hd : d.Writable) : ReadBack d where
  full decode encode hdecode hencode := by
    have hspells := spells_of_fieldsOf (.intro hdecode hencode)
    have htext : (String.singleton ':').intercalate
        [d.service, d.port, decode, encode, d.secret]
          = d.service ++ ":" ++ d.port ++ ":" ++ decode ++ ":" ++ encode ++ ":" ++ d.secret := by
      rw [← String.toList_inj, String.toList_intercalate]
      simp [List.intercalate, List.intersperse]
    rw [← htext, parse_decimal_iff hd]
    exact ((spells_iff hd).mp hspells).2
  spelled text := by rw [spells_iff hd, parse_decimal_iff hd]

/-- A directive with a header of either kind and without a secret, on the last port. -/
def proxiedDirective : Directive where
  publicPort := 65535
  service := "default/echo"
  port := "http"
  proxy := { decode := true, encode := some .v2 }
  secret := ""

/-- It is read from a text with blanks of several kinds in it and without the field for the
secret. -/
theorem readBack_proxiedDirective :
    proxiedDirective.Writable
      ∧ parse "65535" " default/echo:http\t:\u3000proxy : proxy" = .ok proxiedDirective := by
  have hwritable : proxiedDirective.Writable := by
    refine ⟨by decide, ⟨⟨?_, ?_⟩, ?_⟩, ⟨?_, ?_⟩, ?_, ?_⟩ <;> decide
  refine ⟨hwritable, ?_⟩
  have hpadded : List.Forall₂ Text.Padded ["default/echo", "http", "proxy", "proxy"]
      [" default/echo", "http\t", "\u3000proxy ", " proxy"] :=
    (forall₂_padded_iff (by decide)).mpr (by decide)
  have hspells : Spells proxiedDirective " default/echo:http\t:\u3000proxy : proxy" :=
    ⟨_, _, 1, .intro .proxy .proxy, hpadded, by decide⟩
  have hread := ((readBack_of_writable proxiedDirective hwritable).spelled _).mp hspells
  rw [← show Text.decimal proxiedDirective.publicPort = "65535" by decide +kernel]
  exact hread.2

end IngressController.TcpService.Directive
