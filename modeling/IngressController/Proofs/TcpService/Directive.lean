import IngressController.Proofs.TcpService.Table
import IngressController.Proofs.Text.Fields
import Mathlib.Data.List.GetD

/-!
# `IngressController.Proofs.TcpService.Directive`: directives that are not well-formed

A directive has up to five fields. The third one asks for a proxy protocol header to be expected,
the fourth for one to be sent on, and each has its own markers for it. Anything else in these two
fields is passed over, and so is what follows the fifth: none of it is a reason to skip the entry. A
malformed directive is taken for the well-formed one that is left of it. A secret that stands in one
of these places is not seen, and the entry is served without TLS.

* `Directive.WellFormed`: the form that directives are to have.
* `Directive.mended`: what is left of a directive.
* `TakenAsMended`: a pass over a table is one over what is left of its directives.
* `takenAsMended_and_skipsMalformed_iff`: every pass is, so malformed entries are always skipped
  only with look-ups under which every entry is.
-/

set_option autoImplicit false

namespace IngressController.TcpService

namespace Directive

/-! ### The form of a directive -/

/-- The fields of a directive, without blanks around them. -/
def fields (directive : String) : List String :=
  (Text.splitOn ':' directive).map Text.trim

/-- What may stand in the third field. -/
def decodeMarkers : List String := ["", "proxy"]

/-- What may stand in the fourth field. -/
def encodeMarkers : List String := ["", "proxy", "proxy-v1", "proxy-v2"]

/-- The form that a directive is to have. Fields that are missing count as empty. -/
structure WellFormed (directive : String) : Prop where
  count : (fields directive).length ≤ 5
  decode : (fields directive).getD 2 "" ∈ decodeMarkers
  encode : (fields directive).getD 3 "" ∈ encodeMarkers

/-- A field that is one of some markers, or else nothing. -/
def known (markers : List String) (field : String) : String :=
  if field ∈ markers then field else ""

/-- The five fields of a directive, without what is not a marker where there should be one. -/
def knownFields (directive : String) : List String :=
  [field directive 0, field directive 1, known decodeMarkers (field directive 2),
    known encodeMarkers (field directive 3), field directive 4]

/-- What is left of a directive. -/
def mended (directive : String) : String :=
  (String.singleton ':').intercalate (knownFields directive)

/-! ### Fields -/

/-- A text that can stand between colons without blanks around it. -/
def IsField (text : String) : Prop :=
  ':' ∉ text.toList ∧ Text.trim text = text

/-- The first five fields are those that are read. -/
theorem field_eq (directive : String) {i : Nat} (hi : i < 5) :
    field directive i = (fields directive).getD i "" := by
  have htrim : Text.trim "" = "" := by decide
  rw [field, fields, List.getD_eq_getElem?_getD, List.getD_eq_getElem?_getD,
    List.getElem?_take_of_lt hi, List.getElem?_map]
  cases (Text.splitOn ':' directive)[i]? with
  | none => exact htrim
  | some part => rfl

/-- Nothing is a field. -/
theorem isField_empty : IsField "" :=
  ⟨by simp, by decide⟩

/-- What is read from a directive is a field. -/
theorem isField_field (directive : String) (i : Nat) : IsField (field directive i) := by
  refine ⟨fun hcolon => ?_, Text.trim_trim _⟩
  have hcolon := Text.mem_of_mem_trim hcolon
  rw [List.getD_eq_getElem?_getD] at hcolon
  cases hpart : ((Text.splitOn ':' directive).take 5)[i]? with
  | none =>
      rw [hpart] at hcolon
      exact absurd hcolon (by simp)
  | some part =>
      rw [hpart] at hcolon
      have hmem : part ∈ Text.splitOn ':' directive :=
        List.mem_of_mem_take (List.mem_of_getElem? hpart)
      exact Text.not_mem_of_mem_splitOn hmem hcolon

/-- A field is one without anything that is not a marker. -/
theorem isField_known {markers : List String} {text : String} (h : IsField text) :
    IsField (known markers text) := by
  rw [known]
  split
  · exact h
  · exact isField_empty

/-- What is left of the fields of a directive are fields. -/
theorem isField_of_mem_knownFields (directive : String) :
    ∀ text ∈ knownFields directive, IsField text := by
  simp only [knownFields, List.forall_mem_cons]
  exact ⟨isField_field directive 0, isField_field directive 1, isField_known (isField_field ..),
    isField_known (isField_field ..), isField_field directive 4, fun _ hmem => by cases hmem⟩

/-- A directive that has been put together from fields has these fields. -/
theorem fields_intercalate {parts : List String} (hne : parts ≠ [])
    (h : ∀ part ∈ parts, IsField part) :
    fields ((String.singleton ':').intercalate parts) = parts := by
  rw [fields, Text.splitOn_intercalate hne fun part hpart => (h part hpart).1]
  calc parts.map Text.trim
    _ = parts.map id := List.map_congr_left fun part hpart => (h part hpart).2
    _ = parts := List.map_id parts

/-! ### What is read from a directive -/

/-- Leaving out what is not a marker makes no difference to whether a header is expected. -/
theorem isDecodeMarker_known (text : String) :
    isDecodeMarker (known decodeMarkers text) = isDecodeMarker text := by
  rw [known]
  split
  · rfl
  · next hunknown =>
      have hne : text ≠ "proxy" := fun heq => hunknown (by simp [heq, decodeMarkers])
      simp [isDecodeMarker, hne]

/-- Nor does it to which one is sent on. -/
theorem encodeMarker?_known (text : String) :
    encodeMarker? (known encodeMarkers text) = encodeMarker? text := by
  rw [known]
  split
  · rfl
  · next hunknown =>
      simp only [encodeMarkers, List.mem_cons, List.not_mem_nil, or_false, not_or] at hunknown
      simp [encodeMarker?, hunknown]

/-- A directive that begins with what is left of the fields of another is read as that one. -/
theorem parse_of_fields {directive directive' : String} {rest : List String}
    (h : fields directive' = knownFields directive ++ rest) (publicPort : String) :
    parse publicPort directive' = parse publicPort directive := by
  have hfield : ∀ i < 5, field directive' i = (knownFields directive).getD i "" := by
    intro i hi
    rw [field_eq directive' hi, h, List.getD_append _ _ _ _ hi]
  rw [parse, parse, hfield 0 (by decide), hfield 1 (by decide), hfield 2 (by decide),
    hfield 3 (by decide), hfield 4 (by decide)]
  simp only [knownFields, List.getD_cons_zero, List.getD_cons_succ, isDecodeMarker_known,
    encodeMarker?_known]

/-! ### Malformed directives -/

/-- What is left of a directive is in five fields. -/
theorem length_knownFields (directive : String) : (knownFields directive).length = 5 := rfl

/-- There are fields. -/
theorem knownFields_ne_nil (directive : String) : knownFields directive ≠ [] :=
  List.cons_ne_nil _ _

/-- What is left of a directive has the fields that are left. -/
theorem fields_mended (directive : String) : fields (mended directive) = knownFields directive :=
  fields_intercalate (knownFields_ne_nil directive) (isField_of_mem_knownFields directive)

/-- What is left of a field is one of the markers. -/
theorem known_mem {markers : List String} (hempty : "" ∈ markers) (text : String) :
    known markers text ∈ markers := by
  rw [known]
  split
  · next htext => exact htext
  · exact hempty

/-- What is left of a directive is well-formed. -/
theorem wellFormed_mended (directive : String) : WellFormed (mended directive) := by
  refine ⟨?_, ?_, ?_⟩
  · rw [fields_mended, length_knownFields]
  · rw [fields_mended, knownFields, List.getD_cons_succ, List.getD_cons_succ, List.getD_cons_zero]
    exact known_mem (List.mem_cons_self ..) _
  · rw [fields_mended, knownFields, List.getD_cons_succ, List.getD_cons_succ, List.getD_cons_succ,
      List.getD_cons_zero]
    exact known_mem (List.mem_cons_self ..) _

/-- Of a well-formed directive all fields are left. -/
theorem WellFormed.knownFields_eq {directive : String} (h : WellFormed directive) :
    knownFields directive = (List.range 5).map fun i => (fields directive).getD i "" := by
  have hdecode := h.decode
  have hencode := h.encode
  rw [← field_eq directive (by decide)] at hdecode hencode
  rw [knownFields, known, if_pos hdecode, known, if_pos hencode]
  simp [List.range_succ, field_eq]

/-- A directive is read as what is left of it. -/
theorem parse_mended (publicPort directive : String) :
    parse publicPort (mended directive) = parse publicPort directive := by
  have hfields : fields (mended directive) = knownFields directive ++ [] := by
    rw [List.append_nil, fields_mended]
  exact parse_of_fields hfields publicPort

/-- Every directive is read as some malformed one. -/
theorem exists_malformed_parse_eq (directive : String) :
    ∃ malformed, ¬ WellFormed malformed
      ∧ ∀ publicPort, parse publicPort malformed = parse publicPort directive := by
  have hparts : ∀ part ∈ knownFields directive ++ [""], IsField part :=
    List.forall_mem_append.mpr
      ⟨isField_of_mem_knownFields directive, List.forall_mem_singleton.mpr isField_empty⟩
  have hfields := fields_intercalate
    (List.append_ne_nil_of_left_ne_nil (knownFields_ne_nil directive) _) hparts
  refine ⟨_, fun hform => ?_, parse_of_fields hfields⟩
  -- There is a sixth field.
  have hcount := hform.count
  rw [hfields, List.length_append, length_knownFields] at hcount
  exact absurd hcount (by decide)

/-- The secret of a directive is its fifth field. -/
theorem secret_of_parse {publicPort directive : String} {d : Directive}
    (h : parse publicPort directive = .ok d) : d.secret = (fields directive).getD 4 "" := by
  rw [← field_eq directive (by decide)]
  rw [parse] at h
  split at h
  · cases h
  · split at h
    · cases h
    · cases h
      rfl

end Directive

/-! ### Passes over malformed directives -/

/-- A table with what is left of its directives. -/
def mendedTable (table : TextMap String) : TextMap String where
  entries := table.entries.map fun x => (x.1, Directive.mended x.2)
  sorted := List.pairwise_map.mpr table.sorted

/-- No entry of a table whose directive is malformed has a backend. -/
def SkipsMalformed (l : Lookups) (table : TextMap String) : Prop :=
  ∀ x ∈ table.entries, ¬ Directive.WellFormed x.2 →
    ∀ backend, l.convert x.1 x.2 ≠ .ok (.ok backend)

/-- A pass over a table does with each directive what it does with what is left of it. -/
structure TakenAsMended (l : Lookups) (table : TextMap String) : Prop where
  /-- The result, the reports and the measurements are those for what is left. -/
  sync_eq : sync l (mendedTable table) = sync l table
  /-- What is left of a directive is well-formed. -/
  wellFormed : ∀ x ∈ table.entries, Directive.WellFormed (Directive.mended x.2)
  /-- Of a well-formed directive all five fields are left. -/
  fields_eq : ∀ x ∈ table.entries, Directive.WellFormed x.2 →
    Directive.fields (Directive.mended x.2)
      = (List.range 5).map fun i => (Directive.fields x.2).getD i ""
  /-- Without a fifth field an entry is served without TLS, if it is, whatever the others are. -/
  plain : ∀ x ∈ table.entries, (Directive.fields x.2).getD 4 "" = "" →
    ∀ backend, l.convert x.1 x.2 = .ok (.ok backend) → backend.certificatePath = ""

section Pass

variable {l : Lookups}

/-- The verdict on an entry is the one on what is left of its directive. -/
theorem convert_mended (l : Lookups) (publicPort directive : String) :
    l.convert publicPort (Directive.mended directive) = l.convert publicPort directive := by
  rw [Lookups.convert, Lookups.convert, Directive.parse_mended]

/-- Going through what is left of some entries is going through the entries. -/
theorem convertAll_mended (l : Lookups) (outcome : Outcome) (entries : List (String × String)) :
    convertAll l outcome (entries.map fun x => (x.1, Directive.mended x.2))
      = convertAll l outcome entries := by
  induction entries generalizing outcome with
  | nil => rfl
  | cons x rest ih =>
      simp only [List.map_cons, convertAll, convert_mended, ih]

/-- A directive without a fifth field is served without TLS. -/
theorem certificatePath_of_convert {publicPort directive : String} {backend : Backend}
    (hplain : (Directive.fields directive).getD 4 "" = "")
    (h : l.convert publicPort directive = .ok (.ok backend)) : backend.certificatePath = "" := by
  rw [Lookups.convert] at h
  cases hparse : Directive.parse publicPort directive with
  | error skip => rw [hparse] at h; cases h
  | ok d =>
      rw [hparse] at h
      obtain ⟨service, port, path, addresses, -, hcertificate, -, rfl⟩ :=
        exists_selects_of_resolve h
      rw [Lookups.certificateOf, if_pos ((Directive.secret_of_parse hparse).trans hplain)]
        at hcertificate
      cases hcertificate
      rfl

end Pass

/-- With any look-ups, a pass over a table is one over what is left of its directives: a malformed
directive is taken for a well-formed one. Malformed entries are therefore skipped in every table
only if all entries are. -/
theorem takenAsMended_and_skipsMalformed_iff (l : Lookups) :
    (∀ table, TakenAsMended l table)
      ∧ ((∀ table, SkipsMalformed l table)
        ↔ ∀ publicPort directive backend, l.convert publicPort directive ≠ .ok (.ok backend)) := by
  refine ⟨fun table => ?_, fun hskips publicPort directive backend hserved => ?_,
    fun hnone table x _ _ => hnone x.1 x.2⟩
  · refine ⟨?_, fun x _ => Directive.wellFormed_mended x.2, fun x _ hform => ?_,
      fun x _ hplain backend => certificatePath_of_convert hplain⟩
    · rw [sync, sync, mendedTable, convertAll_mended]
    · rw [Directive.fields_mended, hform.knownFields_eq]
  · -- The same entry with a field too many has the same backend.
    obtain ⟨malformed, hform, hparse⟩ := Directive.exists_malformed_parse_eq directive
    refine hskips (single (publicPort, malformed)) _ (List.mem_singleton_self _) hform backend ?_
    rw [← hserved, Lookups.convert, Lookups.convert, hparse]

/-- A secret in the place of a proxy protocol marker: the directive is malformed, and the entry is
served without TLS. -/
theorem not_skipsMalformed_of_misplacedSecret :
    ¬ Directive.WellFormed "default/echo:80:default/crt"
      ∧ (∃ backend, echoLookups.convert "8080" "default/echo:80:default/crt" = .ok (.ok backend)
        ∧ backend.certificatePath = "")
      ∧ ¬ ∀ table, SkipsMalformed echoLookups table := by
  have hserved : echoLookups.convert "8080" "default/echo:80:default/crt"
      = .ok (.ok echoBackend) := by
    decide +kernel
  obtain ⟨htaken, hskips⟩ := takenAsMended_and_skipsMalformed_iff echoLookups
  refine ⟨fun hform => absurd hform.decode (by decide +kernel), ⟨echoBackend, hserved, ?_⟩, ?_⟩
  · exact (htaken (single ("8080", "default/echo:80:default/crt"))).plain _
      (List.mem_singleton_self _) (by decide +kernel) echoBackend hserved
  · rw [hskips]
    exact fun hnone => hnone _ _ _ hserved

end IngressController.TcpService
