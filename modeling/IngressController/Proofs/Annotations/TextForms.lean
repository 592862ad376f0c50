import IngressController.Proofs.Annotations.Inline
import Mathlib.Computability.Language
import Mathlib.Data.List.Chain

/-!
# `IngressController.Proofs.Annotations.TextForms`: the texts that pass their checks

A list of methods or of headers is given by a pattern: one or more items, each of them a name with
a comma, a blank or both behind it, all of which may be left out. As names may be of any length, the
same text is cut into items in many ways. None of them matters: a text is such a list exactly if it
begins with a character of a name and each comma and each blank stands behind a character that it
may follow. The check reads the text once and keeps what kind of character was the last.

* `ListState.rest`: what a list may go on with in a state. The equations `rest_start`, `rest_name`,
  `rest_comma` and `rest_blank` say that the steps of the check are those of the pattern.
* `Follows` and `IsNameList`: the condition on neighbours.
* `IsOrigin` and `IsBodySize`: the other two forms.
* `Recognized` is what the checks say of a text, and `KeepsToForms` what is therefore known of a
  resolved configuration; `recognized_and_keepsToForms`: both hold, of all texts and Ingresses.
-/

set_option autoImplicit false

namespace IngressController.Annotations

open Object
open scoped Computability

/-! ### The pattern of a list -/

namespace Pattern

/-- The texts of a single character of a class. -/
def single (isIn : Char → Bool) : Language Char :=
  {cs | ∃ c, cs = [c] ∧ isIn c = true}

/-- What may stand behind a name: a comma, a blank, both in this order, or nothing. -/
def ending : Language Char :=
  (1 + single (· == ',')) * (1 + single Text.isBlank)

variable (nameChar : Char → Bool)

/-- A name and what stands behind it. -/
def item : Language Char :=
  single nameChar * (single nameChar)∗ * ending

/-- One item or more. -/
def items : Language Char :=
  item nameChar * (item nameChar)∗

theorem nil_notMem_single_mul (isIn : Char → Bool) (l : Language Char) : [] ∉ single isIn * l := by
  rintro ⟨_, ⟨c, rfl, -⟩, cs, -, happend⟩
  cases happend

theorem cons_mem_single_mul_iff {isIn : Char → Bool} {l : Language Char} {c : Char}
    {cs : List Char} : c :: cs ∈ single isIn * l ↔ isIn c = true ∧ cs ∈ l := by
  constructor
  · rintro ⟨_, ⟨c', rfl, hin⟩, cs', hcs, happend⟩
    obtain ⟨rfl, rfl⟩ := List.cons.inj happend
    exact ⟨hin, hcs⟩
  · rintro ⟨hin, hcs⟩
    exact ⟨[c], ⟨c, rfl, hin⟩, cs, hcs, rfl⟩

end Pattern

open Pattern

/-! ### What a list may go on with -/

section States

variable (nameChar : Char → Bool)

/-- What a list that has been read up to a state may go on with. -/
def ListState.rest : ListState → Language Char
  | .start => items nameChar
  | .name => (single nameChar)∗ * (ending * (item nameChar)∗)
  | .comma => (1 + single Text.isBlank) * (item nameChar)∗
  | .blank => (item nameChar)∗

/-- A list begins with a character of a name. -/
theorem rest_start :
    ListState.start.rest nameChar = single nameChar * ListState.name.rest nameChar := by
  rw [ListState.rest, ListState.rest, items, item, mul_assoc, mul_assoc, mul_assoc]

/-- Behind a blank it ends, or a name begins. -/
theorem rest_blank :
    ListState.blank.rest nameChar = 1 + single nameChar * ListState.name.rest nameChar := by
  rw [← rest_start, ListState.rest, ListState.rest, items,
    Language.one_add_self_mul_kstar_eq_kstar]

/-- Behind a comma there is a blank, or it goes on as behind one. -/
theorem rest_comma :
    ListState.comma.rest nameChar = ListState.blank.rest nameChar
      + single Text.isBlank * ListState.blank.rest nameChar := by
  rw [ListState.rest, ListState.rest, add_mul, one_mul]

/-- Behind a character of a name there is another one or a comma, or it goes on as behind one. -/
theorem rest_name :
    ListState.name.rest nameChar = single nameChar * ListState.name.rest nameChar
      + (ListState.comma.rest nameChar + single (· == ',') * ListState.comma.rest nameChar) := by
  have hending : ending * (item nameChar)∗
      = ListState.comma.rest nameChar + single (· == ',') * ListState.comma.rest nameChar := by
    rw [ending, ListState.rest, mul_assoc, add_mul, one_mul]
  calc ListState.name.rest nameChar
      = (1 + single nameChar * (single nameChar)∗) * (ending * (item nameChar)∗) := by
        rw [Language.one_add_self_mul_kstar_eq_kstar, ListState.rest]
    _ = ending * (item nameChar)∗ + single nameChar * ListState.name.rest nameChar := by
        rw [add_mul, one_mul, mul_assoc, ListState.rest]
    _ = _ := by rw [hending, add_comm]

end States

/-- The characters of names are neither commas nor blanks. -/
structure Apart (nameChar : Char → Bool) : Prop where
  comma : nameChar ',' = false
  blank : ∀ c, Text.isBlank c = true → nameChar c = false

/-- A class of characters that stay within a line, without comma and space, is apart. -/
theorem Apart.of_inline {nameChar : Char → Bool} (h : ∀ c, nameChar c = true → isInline c = true)
    (hcomma : nameChar ',' = false) (hspace : nameChar ' ' = false) : Apart nameChar := by
  refine ⟨hcomma, fun c hblank => ?_⟩
  by_contra hname
  have hinline := h c (eq_true_of_ne_false hname)
  rw [isInline, hblank, Bool.and_eq_true] at hinline
  have hc : c = ' ' := by simpa using hinline.2
  exact hname (hc ▸ hspace)

theorem apart_isLetter : Apart isLetter :=
  .of_inline (fun _ => isInline_of_isLetter) (by decide) (by decide)

theorem apart_isHeaderChar : Apart isHeaderChar :=
  .of_inline (fun _ => isInline_of_isHeaderChar) (by decide) (by decide)

section Check

variable {nameChar : Char → Bool} {cs : List Char}

/-- A list may end in every state but the first. -/
theorem nil_mem_rest_iff (state : ListState) :
    [] ∈ state.rest nameChar ↔ (state != .start) = true := by
  have hblank : [] ∈ ListState.blank.rest nameChar := Language.nil_mem_kstar _
  have hcomma : [] ∈ ListState.comma.rest nameChar := by
    rw [rest_comma]
    exact .inl hblank
  cases state with
  | start =>
      rw [rest_start]
      exact iff_of_false (nil_notMem_single_mul _ _) (by decide)
  | name =>
      rw [rest_name]
      exact iff_of_true (.inr (.inl hcomma)) (by decide)
  | comma => exact iff_of_true hcomma (by decide)
  | blank => exact iff_of_true hblank (by decide)

theorem cons_mem_rest_start_iff {c : Char} : c :: cs ∈ ListState.start.rest nameChar
    ↔ nameChar c = true ∧ cs ∈ ListState.name.rest nameChar := by
  rw [rest_start, cons_mem_single_mul_iff]

theorem cons_mem_rest_blank_iff {c : Char} : c :: cs ∈ ListState.blank.rest nameChar
    ↔ nameChar c = true ∧ cs ∈ ListState.name.rest nameChar := by
  rw [rest_blank, Language.mem_add, Language.mem_one, cons_mem_single_mul_iff,
    or_iff_right (List.cons_ne_nil _ _)]

theorem cons_mem_rest_comma_iff {c : Char} : c :: cs ∈ ListState.comma.rest nameChar
    ↔ nameChar c = true ∧ cs ∈ ListState.name.rest nameChar
      ∨ Text.isBlank c = true ∧ cs ∈ ListState.blank.rest nameChar := by
  rw [rest_comma, Language.mem_add, cons_mem_rest_blank_iff, cons_mem_single_mul_iff]

theorem cons_mem_rest_name_iff {c : Char} : c :: cs ∈ ListState.name.rest nameChar
    ↔ nameChar c = true ∧ cs ∈ ListState.name.rest nameChar
      ∨ c = ',' ∧ cs ∈ ListState.comma.rest nameChar
      ∨ Text.isBlank c = true ∧ cs ∈ ListState.blank.rest nameChar := by
  -- That a name goes on is said twice on the left: it does, or the next one begins.
  conv_lhs =>
    rw [rest_name, Language.mem_add, Language.mem_add, cons_mem_rest_comma_iff,
      cons_mem_single_mul_iff, cons_mem_single_mul_iff, beq_iff_eq, or_assoc, ← or_assoc, or_self]
  exact or_congr_right or_comm

/-- What a list may go on with begins with a character that leads to another state. -/
theorem cons_mem_rest_iff (h : Apart nameChar) (state : ListState) (c : Char) :
    c :: cs ∈ state.rest nameChar
      ↔ ∃ next, state.next? nameChar c = some next ∧ cs ∈ next.rest nameChar := by
  have hstart := @cons_mem_rest_start_iff nameChar cs c
  have hblank := @cons_mem_rest_blank_iff nameChar cs c
  have hcomma := @cons_mem_rest_comma_iff nameChar cs c
  have hname := @cons_mem_rest_name_iff nameChar cs c
  -- The kinds of characters exclude each other, so there is at most one way to go on.
  by_cases hc : nameChar c = true
  · have hother : ¬ c = ',' ∧ ¬ Text.isBlank c = true :=
      ⟨fun heq => by simp [heq, h.comma] at hc, fun hb => by simp [h.blank c hb] at hc⟩
    cases state <;> simp [ListState.next?, hstart, hblank, hcomma, hname, hc, hother]
  · by_cases hcommaChar : c = ','
    · subst hcommaChar
      have hcommaBlank : Text.isBlank ',' = false := by decide
      cases state <;> simp [ListState.next?, hstart, hblank, hcomma, hname, hc, hcommaBlank]
    · cases hb : Text.isBlank c <;> cases state <;>
        simp [ListState.next?, hstart, hblank, hcomma, hname, hc, hcommaChar, hb]

/-- The check lets a list go on with exactly what it may go on with. -/
theorem isNameListFrom_iff_mem_rest (h : Apart nameChar) (state : ListState) :
    isNameListFrom nameChar state cs = true ↔ cs ∈ state.rest nameChar := by
  induction cs generalizing state with
  | nil => rw [isNameListFrom, nil_mem_rest_iff]
  | cons c cs ih =>
      rw [isNameListFrom, cons_mem_rest_iff h]
      cases hnext : state.next? nameChar c with
      | none => simp
      | some next => simpa using ih next

/-! ### The condition on neighbours -/

/-- A character may stand behind another one. -/
def Follows (nameChar : Char → Bool) (before c : Char) : Prop :=
  nameChar c = true ∨ (c = ',' ∧ nameChar before = true)
    ∨ Text.isBlank c = true ∧ (nameChar before = true ∨ before = ',')

/-- A list of names, told by the characters and what stands before them. -/
structure IsNameList (nameChar : Char → Bool) (cs : List Char) : Prop where
  /-- There is a first character, and it is one of a name. -/
  start : ∃ c ∈ cs.head?, nameChar c = true
  /-- There are only characters of names, commas and blanks. -/
  chars : ∀ c ∈ cs, nameChar c = true ∨ c = ',' ∨ Text.isBlank c = true
  /-- Every comma directly follows a character of a name. -/
  comma : ∀ before after, cs = before ++ ',' :: after →
    ∃ c ∈ before.getLast?, nameChar c = true
  /-- Every blank directly follows a character of a name or a comma. -/
  blank : ∀ before c after, cs = before ++ c :: after → Text.isBlank c = true →
    ∃ c ∈ before.getLast?, nameChar c = true ∨ c = ','

/-- The state behind a character. -/
def ListState.behind (nameChar : Char → Bool) (c : Char) : ListState :=
  if nameChar c then .name else if c = ',' then .comma else .blank

/-- A list goes on with a character exactly if that may stand behind the last one. -/
theorem next?_behind (before c : Char) (next : ListState) :
    (ListState.behind nameChar before).next? nameChar c = some next
      ↔ Follows nameChar before c ∧ ListState.behind nameChar c = next := by
  have hcommaBlank : Text.isBlank ',' = false := by decide
  by_cases hc : nameChar c = true
  · simp [ListState.next?, ListState.behind, Follows, hc]
  · by_cases hcomma : c = ','
    · subst hcomma
      by_cases hbefore : nameChar before = true <;> by_cases hcommaBefore : before = ',' <;>
        simp [ListState.next?, ListState.behind, Follows, hc, hbefore, hcommaBefore, hcommaBlank]
    · cases hb : Text.isBlank c <;> by_cases hbefore : nameChar before = true <;>
        by_cases hcommaBefore : before = ',' <;>
        simp [ListState.next?, ListState.behind, Follows, hc, hcomma, hb, hbefore, hcommaBefore]

/-- Behind a character the check lets a list go on as long as neighbours may stand together. -/
theorem isNameListFrom_behind_iff (before : Char) :
    isNameListFrom nameChar (ListState.behind nameChar before) cs = true
      ↔ (before :: cs).IsChain (Follows nameChar) := by
  induction cs generalizing before with
  | nil =>
      have hbehind : ListState.behind nameChar before ≠ .start := by
        rw [ListState.behind]
        split
        · decide
        · split <;> decide
      simp [isNameListFrom, hbehind]
  | cons c cs ih =>
      rw [isNameListFrom, List.isChain_cons_cons, ← ih]
      cases hnext : (ListState.behind nameChar before).next? nameChar c with
      | none =>
          have hfollows : ¬ Follows nameChar before c := fun hfollows => by
            have hsome := (next?_behind before c _).mpr ⟨hfollows, rfl⟩
            rw [hnext] at hsome
            cases hsome
          simp [hfollows]
      | some next =>
          obtain ⟨hfollows, rfl⟩ := (next?_behind before c next).mp hnext
          simp [hfollows]

/-- The check accepts what begins with a character of a name and goes on with characters that may
stand behind each other. -/
theorem isNameListFrom_start_iff :
    isNameListFrom nameChar .start cs = true
      ↔ (∃ c ∈ cs.head?, nameChar c = true) ∧ cs.IsChain (Follows nameChar) := by
  cases cs with
  | nil => simp [isNameListFrom]
  | cons c cs =>
      rw [← isNameListFrom_behind_iff, isNameListFrom]
      by_cases hc : nameChar c = true
      · simp [ListState.next?, ListState.behind, hc]
      · simp [ListState.next?, hc]

/-- Where neighbours may stand together, a character stands at the start, as one of a name, or
behind one that it may follow. -/
theorem first_or_follows (hstart : ∃ c ∈ cs.head?, nameChar c = true)
    (hchain : cs.IsChain (Follows nameChar)) {before after : List Char} {c : Char}
    (hcs : cs = before ++ c :: after) :
    before = [] ∧ nameChar c = true ∨ ∃ a ∈ before.getLast?, Follows nameChar a c := by
  subst hcs
  rcases List.eq_nil_or_concat before with rfl | ⟨before, a, rfl⟩
  · exact .inl ⟨rfl, by simpa using hstart⟩
  · rw [List.concat_eq_append, List.append_assoc] at hchain
    have hfollows : Follows nameChar a c := (List.isChain_append_cons_cons.mp hchain).2.1
    exact .inr ⟨a, by simp, hfollows⟩

/-- Neighbours may stand together exactly if no comma and no blank stands where it may not. -/
theorem isNameList_iff_isChain (h : Apart nameChar) :
    IsNameList nameChar cs
      ↔ (∃ c ∈ cs.head?, nameChar c = true) ∧ cs.IsChain (Follows nameChar) := by
  have hcommaBlank : Text.isBlank ',' = false := by decide
  constructor
  · intro hlist
    refine ⟨hlist.start, List.isChain_iff_forall_rel_of_append_cons_cons.mpr ?_⟩
    intro a c before after hcs
    have hlast : ∀ {P : Char → Prop}, (∃ x ∈ (before ++ [a]).getLast?, P x) → P a := by
      simp
    have hsplit : cs = (before ++ [a]) ++ c :: after := by simp [hcs]
    rcases hlist.chars c (by simp [hcs]) with hname | rfl | hblank
    · exact .inl hname
    · exact .inr (.inl ⟨rfl, hlast (hlist.comma _ _ hsplit)⟩)
    · exact .inr (.inr ⟨hblank, hlast (hlist.blank _ _ _ hsplit hblank)⟩)
  · rintro ⟨hstart, hchain⟩
    refine ⟨hstart, fun c hc => ?_, fun before after hcs => ?_, fun before c after hcs hblank => ?_⟩
    · obtain ⟨before, after, hcs⟩ := List.append_of_mem hc
      rcases first_or_follows hstart hchain hcs with ⟨-, hname⟩ | ⟨a, -, hfollows⟩
      · exact .inl hname
      · exact hfollows.imp_right (Or.imp And.left And.left)
    · rcases first_or_follows hstart hchain hcs with ⟨-, hname⟩ | ⟨a, ha, hfollows⟩
      · rw [h.comma] at hname
        cases hname
      · refine ⟨a, ha, ?_⟩
        simpa [Follows, h.comma, hcommaBlank] using hfollows
    · have hcomma : c ≠ ',' := fun heq => by simp [heq, hcommaBlank] at hblank
      rcases first_or_follows hstart hchain hcs with ⟨-, hname⟩ | ⟨a, ha, hfollows⟩
      · rw [h.blank c hblank] at hname
        cases hname
      · refine ⟨a, ha, ?_⟩
        simpa [Follows, h.blank c hblank, hcomma, hblank] using hfollows

/-- The check accepts exactly the lists of names. -/
theorem isNameListFrom_start_iff_isNameList (h : Apart nameChar) :
    isNameListFrom nameChar .start cs = true ↔ IsNameList nameChar cs := by
  rw [isNameListFrom_start_iff, isNameList_iff_isChain h]

end Check

/-! ### Origins and sizes -/

/-- What may stand behind a host: nothing, or a colon and at least one digit. -/
inductive IsPort : List Char → Prop
  | none : IsPort []
  | digits {digits : List Char} (hne : digits ≠ []) (hdigits : ∀ c ∈ digits, isDigit c = true) :
      IsPort (':' :: digits)

/-- An allowed origin: none, every one, or a host with or without a port. -/
inductive IsOrigin : List Char → Prop
  | none : IsOrigin []
  | every : IsOrigin ['*']
  | host {scheme host port : List Char} (hscheme : scheme ∈ ["http://".toList, "https://".toList])
      (hhost : ∀ c ∈ host, isHostChar c = true) (hport : IsPort port) :
      IsOrigin (scheme ++ host ++ port)

/-- A size limit: none, or at least one digit with at most one unit behind them. -/
inductive IsBodySize : List Char → Prop
  | none : IsBodySize []
  | size {digits unit : List Char} (hne : digits ≠ []) (hdigits : ∀ c ∈ digits, isDigit c = true)
      (hunit : unit ∈ [[], ['k'], ['m'], ['g']]) : IsBodySize (digits ++ unit)

theorem isPortPart_iff (cs : List Char) : isPortPart cs = true ↔ IsPort cs := by
  constructor
  · intro h
    rw [isPortPart.eq_def] at h
    split at h
    · exact .none
    · exact .digits (List.cons_ne_nil _ _) (List.all_eq_true.mp h)
    · cases h
  · rintro (_ | ⟨hne, hdigits⟩)
    · rfl
    · next digits =>
        obtain ⟨digit, digits, rfl⟩ := List.exists_cons_of_ne_nil hne
        exact List.all_eq_true.mpr hdigits

/-- What begins with characters of a class, and goes on with none, is cut behind them. -/
theorem dropWhile_append_of_head? {isIn : Char → Bool} {front back : List Char}
    (hfront : ∀ c ∈ front, isIn c = true) (hback : ∀ c ∈ back.head?, isIn c = false) :
    (front ++ back).dropWhile isIn = back := by
  rw [List.dropWhile_append_of_pos hfront]
  cases back with
  | nil => rfl
  | cons c back => rw [List.dropWhile_cons_of_neg (by simpa using hback c rfl)]

/-- The part behind the scheme is a host, and then maybe a port. -/
theorem isHostPart_iff (cs : List Char) :
    isHostPart cs = true ↔ ∃ host port, cs = host ++ port
      ∧ (∀ c ∈ host, isHostChar c = true) ∧ IsPort port := by
  rw [isHostPart, isPortPart_iff]
  constructor
  · intro hport
    exact ⟨_, _, List.takeWhile_append_dropWhile.symm, fun c => List.mem_takeWhile_imp, hport⟩
  · rintro ⟨host, port, rfl, hhost, hport⟩
    -- A port begins with a colon, which is not part of a host.
    have hback : ∀ c ∈ port.head?, isHostChar c = false := by
      cases hport with
      | none => simp
      | digits => simp; decide
    rwa [dropWhile_append_of_head? hhost hback]

/-- The check accepts exactly the origins. -/
theorem isOrigin_iff (value : String) : isOrigin value = true ↔ IsOrigin value.toList := by
  rw [isOrigin]
  generalize value.toList = cs
  constructor
  · intro h
    split at h
    · exact .none
    · exact .every
    · obtain ⟨host, port, rfl, hhost, hport⟩ := (isHostPart_iff _).mp h
      exact @IsOrigin.host "https://".toList _ _ (by decide) hhost hport
    · obtain ⟨host, port, rfl, hhost, hport⟩ := (isHostPart_iff _).mp h
      exact @IsOrigin.host "http://".toList _ _ (by decide) hhost hport
    · cases h
  · rintro (_ | _ | ⟨hscheme, hhost, hport⟩)
    · rfl
    · rfl
    · next host port =>
        have hrest := (isHostPart_iff _).mpr ⟨host, port, rfl, hhost, hport⟩
        rw [List.append_assoc]
        simp only [List.mem_cons, List.not_mem_nil, or_false] at hscheme
        rcases hscheme with rfl | rfl
        · exact hrest
        · exact hrest

/-- The check accepts exactly the sizes. -/
theorem isBodySize_iff (value : String) : isBodySize value = true ↔ IsBodySize value.toList := by
  rw [isBodySize]
  generalize value.toList = cs
  constructor
  · intro h
    split at h
    · exact .none
    · next c rest =>
        obtain ⟨hc, hunit⟩ := Bool.and_eq_true_iff.mp h
        have hunit : rest.dropWhile isDigit ∈ [[], ['k'], ['m'], ['g']] := by
          split at hunit
          · next hnone => simp [hnone]
          · next suffix hone =>
              rw [hone]
              simpa [or_assoc] using hunit
          · cases hunit
        have hdigits : ∀ d ∈ c :: rest.takeWhile isDigit, isDigit d = true :=
          List.forall_mem_cons.mpr ⟨hc, fun d => List.mem_takeWhile_imp⟩
        have hsplit : c :: rest = (c :: rest.takeWhile isDigit) ++ rest.dropWhile isDigit := by
          rw [List.cons_append, List.takeWhile_append_dropWhile]
        rw [hsplit]
        exact .size (List.cons_ne_nil _ _) hdigits hunit
  · rintro (_ | ⟨hne, hdigits, hunit⟩)
    · rfl
    · next digits unit =>
        obtain ⟨c, digits, rfl⟩ := List.exists_cons_of_ne_nil hne
        obtain ⟨hc, hdigits⟩ := List.forall_mem_cons.mp hdigits
        simp only [List.mem_cons, List.not_mem_nil, or_false] at hunit
        have hback : ∀ c ∈ unit.head?, isDigit c = false := by
          rcases hunit with rfl | rfl | rfl | rfl <;> simp [isDigit]
        have hcut := dropWhile_append_of_head? hdigits hback
        simp only [List.cons_append, hc, hcut, Bool.true_and]
        rcases hunit with rfl | rfl | rfl | rfl <;> rfl

/-! ### Resolved configurations -/

/-- What the checks say of a text. -/
structure Recognized (value : String) : Prop where
  /-- A list of methods is one of names made of letters. -/
  methods : isMethodList value = true ↔ IsNameList isLetter value.toList
  /-- It is given by its pattern. -/
  methodsPattern : isMethodList value = true ↔ value.toList ∈ Pattern.items isLetter
  /-- A list of headers is one of names made of letters, digits, hyphens and underscores. -/
  headers : isHeaderList value = true ↔ IsNameList isHeaderChar value.toList
  /-- It is given by its pattern as well. -/
  headersPattern : isHeaderList value = true ↔ value.toList ∈ Pattern.items isHeaderChar
  /-- An origin is none, every one, or the address of a host. -/
  origin : isOrigin value = true ↔ IsOrigin value.toList
  /-- A size is none, or digits with at most one unit. -/
  bodySize : isBodySize value = true ↔ IsBodySize value.toList

/-- The checks of a text recognize the forms that they are made for. -/
theorem recognized (value : String) : Recognized value where
  methods := isNameListFrom_start_iff_isNameList apart_isLetter
  methodsPattern := isNameListFrom_iff_mem_rest apart_isLetter .start
  headers := isNameListFrom_start_iff_isNameList apart_isHeaderChar
  headersPattern := isNameListFrom_iff_mem_rest apart_isHeaderChar .start
  origin := isOrigin_iff value
  bodySize := isBodySize_iff value

/-- A text is empty or passes a check. -/
def EmptyOr (isValid : String → Bool) (text : String) : Prop :=
  text = "" ∨ isValid text = true

/-- The texts of a resolved configuration that have to be of a form are empty or of that form. -/
structure Resolved.KeepsToForms (r : Resolved) : Prop where
  origin : EmptyOr isOrigin r.cors.allowOrigin
  methods : EmptyOr isMethodList r.cors.allowMethods
  headers : EmptyOr isHeaderList r.cors.allowHeaders
  expose : EmptyOr isHeaderList r.cors.exposeHeaders
  bodySize : EmptyOr isBodySize r.proxy.bodySize
  /-- A policy that is switched on leaves none of them empty that has a built-in value. -/
  filled : r.cors.enabled = true → r.cors.allowOrigin ≠ "" ∧ r.cors.allowMethods ≠ ""
    ∧ r.cors.allowHeaders ≠ ""

/-- A checked text is empty or passes its check if that is so of its built-in value. -/
theorem Cors.emptyOr_checked (ing : Ingress) (key : Key) {isValid : String → Bool}
    {default : String} (hdefault : EmptyOr isValid default) :
    EmptyOr isValid (checked ing key isValid default).value := by
  rw [value_checked]
  cases haccepted : ((ing.metadata.annotationText? key.name).filter isValid).filter (· ≠ "") with
  | none => exact hdefault
  | some text =>
      obtain ⟨hvalid, -⟩ := Option.filter_eq_some_iff.mp haccepted
      exact .inr (Option.filter_eq_some_iff.mp hvalid).2

/-- A checked text is not empty if its built-in value is not. -/
theorem Cors.checked_ne_empty (ing : Ingress) (key : Key) (isValid : String → Bool)
    {default : String} (hdefault : default ≠ "") :
    (checked ing key isValid default).value ≠ "" := by
  rw [value_checked]
  cases haccepted : ((ing.metadata.annotationText? key.name).filter isValid).filter (· ≠ "") with
  | none => exact hdefault
  | some text => simpa using (Option.filter_eq_some_iff.mp haccepted).2

/-- An extraction keeps to the forms. -/
theorem keepsToForms_extract (s : Surroundings) (ing : Ingress) :
    (extract s ing).value.KeepsToForms := by
  have hcors : (extract s ing).value.cors = (Cors.resolve ing).value := get_extract s ing .cors
  have hsize : EmptyOr isBodySize (extract s ing).value.proxy.bodySize := by
    have hproxy : (extract s ing).value.proxy = (Proxy.resolve s.backend ing).value :=
      get_extract s ing .proxy
    rw [hproxy]
    change EmptyOr isBodySize (Proxy.checkedBodySize
      (nonemptyText ing Key.proxyBodySize.name s.backend.proxyBodySize)).value
    rw [Proxy.value_checkedBodySize]
    split
    · next hvalid => exact .inr hvalid
    · exact .inl rfl
  rw [Cors.value_resolve] at hcors
  by_cases henabled : Cors.isEnabled ing = true
  · rw [if_pos henabled] at hcors
    refine ⟨?_, ?_, ?_, ?_, hsize, fun _ => ?_⟩ <;> rw [hcors]
    · exact Cors.emptyOr_checked _ _ (.inr (by decide))
    · exact Cors.emptyOr_checked _ _ (.inr (by decide +kernel))
    · exact Cors.emptyOr_checked _ _ (.inr (by decide +kernel))
    · exact Cors.emptyOr_checked _ _ (.inl rfl)
    · exact ⟨Cors.checked_ne_empty _ _ _ (by decide), Cors.checked_ne_empty _ _ _ (by decide),
        Cors.checked_ne_empty _ _ _ (by decide)⟩
  · rw [if_neg henabled] at hcors
    refine ⟨?_, ?_, ?_, ?_, hsize, fun hpolicy => ?_⟩
    · exact .inl (congrArg Cors.allowOrigin hcors)
    · exact .inl (congrArg Cors.allowMethods hcors)
    · exact .inl (congrArg Cors.allowHeaders hcors)
    · exact .inl (congrArg Cors.exposeHeaders hcors)
    · rw [hcors] at hpolicy
      cases hpolicy

/-- The checks recognize exactly the texts of their forms, and whatever is resolved for an Ingress
keeps to these forms, built-in and inherited values included. -/
theorem recognized_and_keepsToForms :
    (∀ value : String, Recognized value)
      ∧ ∀ (s : Surroundings) (ing : Ingress), (extract s ing).value.KeepsToForms :=
  ⟨recognized, keepsToForms_extract⟩

end IngressController.Annotations
