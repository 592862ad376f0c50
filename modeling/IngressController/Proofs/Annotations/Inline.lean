import IngressController.Proofs.Annotations.Fallback
import Mathlib.Data.List.TakeWhile

/-!
# `IngressController.Proofs.Annotations.Inline`: texts that stay within a line

The policy for cross-origin requests and the size limit of request bodies go into the
configuration of the proxy word for word. They are checked against narrow forms before, so that no
annotation can put more than its own value there: above all no line end, but no other control
character either, and no white space other than a space.

An origin and a size are safe in this sense whatever the annotations are. The lists of methods and
of headers are not: a list may have a blank behind each name, and every blank of Unicode will do.
A line end passes the check like a space.

* `mem_of_isNameList`: the characters of a list.
* `inline_checkedTexts_iff`: exactly when all texts of a resolved configuration stay within a
  line.
-/

set_option autoImplicit false

namespace IngressController.Annotations

open Object

/-! ### Characters that stay within a line -/

/-- A control character: one of the category `Cc`. -/
def isControl (c : Char) : Bool :=
  c.toNat < 0x20 || (0x7F ≤ c.toNat && c.toNat ≤ 0x9F)

/-- A character that stays within a line: no control character, and of the blanks only the space. -/
def isInline (c : Char) : Bool :=
  !isControl c && (!Text.isBlank c || c == ' ')

/-- Every character of a text stays within a line. -/
def Inline (text : String) : Prop :=
  ∀ c ∈ text.toList, isInline c = true

instance (text : String) : Decidable (Inline text) :=
  List.decidableBAll _ _

/-- A text has a blank that is not a space. -/
def HasStrayBlank (text : String) : Prop :=
  ∃ c ∈ text.toList, Text.isBlank c = true ∧ c ≠ ' '

/-- Printable characters of ASCII but for the space. -/
theorem isInline_of_ascii {c : Char} (hlow : 0x20 < c.toNat) (hhigh : c.toNat < 0x7F) :
    isInline c = true := by
  have hcontrol : isControl c = false := by
    simp only [isControl, Bool.or_eq_false_iff, Bool.and_eq_false_iff, decide_eq_false_iff_not]
    omega
  have hblank : Text.isBlank c = false := by
    simp only [Text.isBlank, Bool.or_eq_false_iff, Bool.and_eq_false_iff, decide_eq_false_iff_not,
      beq_eq_false_iff_ne]
    omega
  rw [isInline, hcontrol, hblank]
  rfl

theorem isInline_of_isLetter {c : Char} (h : isLetter c = true) : isInline c = true := by
  simp only [isLetter, Bool.or_eq_true, Bool.and_eq_true, decide_eq_true_eq] at h
  have hbounds : ('a'.toNat ≤ c.toNat ∧ c.toNat ≤ 'z'.toNat)
      ∨ ('A'.toNat ≤ c.toNat ∧ c.toNat ≤ 'Z'.toNat) := h
  have hcodes : 'a'.toNat = 97 ∧ 'z'.toNat = 122 ∧ 'A'.toNat = 65 ∧ 'Z'.toNat = 90 := by decide
  apply isInline_of_ascii <;> omega

theorem isInline_of_isDigit {c : Char} (h : isDigit c = true) : isInline c = true := by
  simp only [isDigit, Bool.and_eq_true, decide_eq_true_eq] at h
  have hbounds : '0'.toNat ≤ c.toNat ∧ c.toNat ≤ '9'.toNat := h
  have hcodes : '0'.toNat = 48 ∧ '9'.toNat = 57 := by decide
  apply isInline_of_ascii <;> omega

theorem isInline_of_isHostChar {c : Char} (h : isHostChar c = true) : isInline c = true := by
  simp only [isHostChar, Bool.or_eq_true, beq_iff_eq] at h
  rcases h with ((h | h) | rfl) | rfl
  · exact isInline_of_isLetter h
  · exact isInline_of_isDigit h
  · decide
  · decide

theorem isInline_of_isHeaderChar {c : Char} (h : isHeaderChar c = true) : isInline c = true := by
  simp only [isHeaderChar, Bool.or_eq_true, beq_iff_eq] at h
  rcases h with ((h | h) | rfl) | rfl
  · exact isInline_of_isLetter h
  · exact isInline_of_isDigit h
  · decide
  · decide

/-! ### Forms -/

/-- A list goes on with characters of names, commas and blanks only. -/
theorem mem_of_isNameListFrom {nameChar : Char → Bool} {state : ListState} {cs : List Char}
    (h : isNameListFrom nameChar state cs = true) :
    ∀ c ∈ cs, nameChar c = true ∨ c = ',' ∨ Text.isBlank c = true := by
  induction cs generalizing state with
  | nil => exact fun c hc => absurd hc List.not_mem_nil
  | cons first rest ih =>
      rw [isNameListFrom] at h
      cases hnext : state.next? nameChar first with
      | none => rw [hnext] at h; cases h
      | some next =>
          rw [hnext] at h
          -- Whatever has been read before, a list goes on with one of these only.
          have hfirst : nameChar first = true ∨ first = ',' ∨ Text.isBlank first = true := by
            rw [ListState.next?] at hnext
            split at hnext
            · next hname => exact .inl hname
            · split at hnext
              · next hcomma => exact .inr (.inl hcomma)
              · split at hnext
                · next hblank => exact .inr (.inr hblank)
                · cases hnext
          intro c hc
          rcases List.mem_cons.mp hc with rfl | hc
          · exact hfirst
          · exact ih h c hc

/-- A list consists of characters of names, commas and blanks. -/
theorem mem_of_isNameList {nameChar : Char → Bool} {text : String}
    (h : isNameList nameChar text = true) :
    ∀ c ∈ text.toList, nameChar c = true ∨ c = ',' ∨ Text.isBlank c = true :=
  mem_of_isNameListFrom h

/-- A list stays within a line exactly if its only blanks are spaces. -/
theorem inline_iff_of_isNameList {nameChar : Char → Bool} {text : String}
    (hname : ∀ c, nameChar c = true → isInline c = true) (h : isNameList nameChar text = true) :
    Inline text ↔ ¬ HasStrayBlank text := by
  constructor
  · rintro hinline ⟨c, hc, hblank, hspace⟩
    have hchar := hinline c hc
    rw [isInline, hblank, Bool.and_eq_true] at hchar
    exact hspace (by simpa using hchar.2)
  · intro hstray c hc
    rcases mem_of_isNameList h c hc with hchar | rfl | hblank
    · exact hname c hchar
    · decide
    · by_cases hspace : c = ' '
      · rw [hspace]
        decide
      · exact absurd ⟨c, hc, hblank, hspace⟩ hstray

/-- A host with or without a port consists of characters that stay within a line. -/
theorem isInline_of_isHostPart {cs : List Char} (h : isHostPart cs = true) :
    ∀ c ∈ cs, isInline c = true := by
  have hport : ∀ {port : List Char}, isPortPart port = true → ∀ c ∈ port, isInline c = true := by
    intro port hport c hc
    rw [isPortPart.eq_def] at hport
    split at hport
    · cases hc
    · rcases List.mem_cons.mp hc with rfl | hc
      · decide
      · exact isInline_of_isDigit (List.all_eq_true.mp hport c hc)
    · cases hport
  -- The host goes as far as its characters do, and what is left is the port.
  intro c hc
  rw [← List.takeWhile_append_dropWhile (p := isHostChar) (l := cs)] at hc
  rcases List.mem_append.mp hc with hhost | hrest
  · exact isInline_of_isHostChar (List.mem_takeWhile_imp hhost)
  · exact hport h c hrest

/-- An origin stays within a line. -/
theorem inline_of_isOrigin {text : String} (h : isOrigin text = true) : Inline text := by
  have hscheme : ∀ scheme host : List Char, scheme.all isInline = true →
      isHostPart host = true → ∀ c ∈ scheme ++ host, isInline c = true := by
    intro scheme host hscheme hhost c hc
    rcases List.mem_append.mp hc with hc | hc
    · exact List.all_eq_true.mp hscheme c hc
    · exact isInline_of_isHostPart hhost c hc
  rw [Inline]
  rw [isOrigin] at h
  split at h
  · next htext => rw [htext]; exact List.all_eq_true.mp (by decide)
  · next htext => rw [htext]; exact List.all_eq_true.mp (by decide)
  · next host htext =>
      rw [htext]
      exact hscheme "https://".toList host (by decide) h
  · next host htext =>
      rw [htext]
      exact hscheme "http://".toList host (by decide) h
  · cases h

/-- A size stays within a line. -/
theorem inline_of_isBodySize {text : String} (h : isBodySize text = true) : Inline text := by
  rw [Inline]
  rw [isBodySize] at h
  split at h
  · next htext => rw [htext]; exact List.all_eq_true.mp (by decide)
  · next first rest htext =>
      obtain ⟨hfirst, hrest⟩ := Bool.and_eq_true_iff.mp h
      -- Behind the digits there is at most one character, and it is a unit.
      have hunit : ∀ c ∈ rest.dropWhile isDigit, isInline c = true := by
        intro c hc
        split at hrest
        · next hnone => rw [hnone] at hc; cases hc
        · next unit hone =>
            rw [hone, List.mem_singleton] at hc
            subst hc
            simp only [Bool.or_eq_true, beq_iff_eq] at hrest
            rcases hrest with (rfl | rfl) | rfl <;> decide
        · cases hrest
      intro c hc
      rw [htext] at hc
      rcases List.mem_cons.mp hc with rfl | hc
      · exact isInline_of_isDigit hfirst
      · rw [← List.takeWhile_append_dropWhile (p := isDigit) (l := rest)] at hc
        rcases List.mem_append.mp hc with hdigits | hc
        · exact isInline_of_isDigit (List.mem_takeWhile_imp hdigits)
        · exact hunit c hc

/-! ### Policies for cross-origin requests -/

/-- The lists of a policy. -/
def Key.corsLists : List Key :=
  [corsAllowMethods, corsAllowHeaders, corsExposeHeaders]

/-- A policy is switched on, and one of its lists passes its check with a blank in it that is not a
space. -/
def Cors.TakesStrayBlank (ing : Ingress) : Prop :=
  isEnabled ing = true ∧
    ∃ key ∈ Key.corsLists, ∃ text, key.accepted? ing = some text ∧ HasStrayBlank text

/-- A checked text stays within a line exactly if the annotation does where it is taken over, given
that the default does. -/
theorem Cors.inline_checked_iff (ing : Ingress) (key : Key) {default : String}
    (hdefault : Inline default) :
    Inline (checked ing key key.accepts default).value
      ↔ ∀ text, key.accepted? ing = some text → Inline text := by
  rw [value_checked]
  -- An empty text passes some of the checks, but then the default stands in its place.
  change Inline (((key.accepted? ing).filter (· ≠ "")).getD default) ↔ _
  cases key.accepted? ing with
  | none => simpa using hdefault
  | some text =>
      by_cases hempty : text = ""
      · subst hempty
        have hnone : Inline "" := by decide
        simpa [Option.filter, hnone] using hdefault
      · simp [hempty, Option.filter]

/-- A list of a policy stays within a line exactly if no stray blank is taken over with it. -/
theorem Cors.inline_list_iff (ing : Ingress) {key : Key} (hkey : key ∈ Key.corsLists)
    {default : String} (hdefault : Inline default) :
    Inline (checked ing key key.accepts default).value
      ↔ ¬ ∃ text, key.accepted? ing = some text ∧ HasStrayBlank text := by
  -- The lists differ in the characters of their names, all of which stay within a line.
  have hlist : ∀ text, key.accepted? ing = some text → (Inline text ↔ ¬ HasStrayBlank text) := by
    intro text htext
    obtain ⟨-, haccepts⟩ := Option.filter_eq_some_iff.mp htext
    rw [Key.corsLists, List.mem_cons, List.mem_cons, List.mem_singleton] at hkey
    rcases hkey with rfl | rfl | rfl
    · exact inline_iff_of_isNameList (fun _ => isInline_of_isLetter) haccepts
    · exact inline_iff_of_isNameList (fun _ => isInline_of_isHeaderChar) haccepts
    · exact inline_iff_of_isNameList (fun _ => isInline_of_isHeaderChar) haccepts
  rw [inline_checked_iff ing key hdefault, not_exists]
  exact forall_congr' fun text => by
    rw [not_and]
    exact forall_congr' (hlist text)

/-- The origin of a policy stays within a line. -/
theorem Cors.inline_allowOrigin (ing : Ingress) : Inline (Cors.resolve ing).value.allowOrigin := by
  rw [value_resolve]
  split
  · refine (inline_checked_iff ing .corsAllowOrigin (by decide)).mpr fun text htext => ?_
    obtain ⟨-, haccepts⟩ := Option.filter_eq_some_iff.mp htext
    exact inline_of_isOrigin haccepts
  · decide

/-- The lists of a policy that is resolved. -/
def Cors.lists (c : Cors) : List String :=
  [c.allowMethods, c.allowHeaders, c.exposeHeaders]

/-- The lists of a policy stay within a line exactly if no stray blank is taken over. -/
theorem Cors.inline_lists_iff (ing : Ingress) :
    (∀ text ∈ (Cors.resolve ing).value.lists, Inline text) ↔ ¬ TakesStrayBlank ing := by
  rw [value_resolve, TakesStrayBlank]
  by_cases henabled : isEnabled ing = true
  · have hmethods : Inline (checked ing .corsAllowMethods isMethodList defaultMethods).value ↔ _ :=
      inline_list_iff ing (by decide) (by decide)
    have hheaders : Inline (checked ing .corsAllowHeaders isHeaderList defaultHeaders).value ↔ _ :=
      inline_list_iff ing (by decide) (by decide +kernel)
    have hexpose : Inline (checked ing .corsExposeHeaders isHeaderList "").value ↔ _ :=
      inline_list_iff ing (by decide) (by decide)
    simp only [henabled, true_and, if_true, lists, Key.corsLists, List.forall_mem_cons,
      List.exists_mem_cons_iff, not_or]
    rw [hmethods, hheaders, hexpose]
    simp
  · rw [if_neg henabled]
    exact iff_of_true (by decide) fun h => henabled h.1

/-! ### Resolved configurations -/

/-- A size limit stays within a line. -/
theorem Proxy.inline_bodySize (backend : DefaultBackend) (ing : Ingress) :
    Inline (Proxy.resolve backend ing).value.bodySize := by
  change Inline
    (checkedBodySize (nonemptyText ing Key.proxyBodySize.name backend.proxyBodySize)).value
  rw [value_checkedBodySize]
  split
  · next h => exact inline_of_isBodySize h
  · decide

/-- The texts of a resolved configuration that have been checked, since they go into the
configuration of the proxy word for word. -/
def Resolved.checkedTexts (r : Resolved) : List String :=
  r.cors.allowOrigin :: r.proxy.bodySize :: r.cors.lists

/-- The origin and the size limit of an extraction stay within a line. All checked texts do
exactly if no stray blank is taken over with the list of a policy. -/
theorem inline_checkedTexts_iff (s : Surroundings) (ing : Ingress) :
    Inline (extract s ing).value.cors.allowOrigin ∧ Inline (extract s ing).value.proxy.bodySize ∧
      ((∀ text ∈ (extract s ing).value.checkedTexts, Inline text)
        ↔ ¬ Cors.TakesStrayBlank ing) := by
  have hcors : (extract s ing).value.cors = (Cors.resolve ing).value := get_extract s ing .cors
  have hproxy : (extract s ing).value.proxy = (Proxy.resolve s.backend ing).value :=
    get_extract s ing .proxy
  have horigin := Cors.inline_allowOrigin ing
  have hsize := Proxy.inline_bodySize s.backend ing
  rw [Resolved.checkedTexts, List.forall_mem_cons, List.forall_mem_cons, hcors, hproxy,
    Cors.inline_lists_iff]
  exact ⟨horigin, hsize, fun h => h.2.2, fun h => ⟨horigin, hsize, h⟩⟩

/-- An Ingress under a policy whose list of methods has a line end between its names. -/
def brokenMethods : Ingress :=
  Key.ingressWith [(.corsEnable, "true"), (.corsAllowMethods, "GET\nPOST")]

/-- The line end is taken over. -/
theorem takesStrayBlank_brokenMethods :
    (extract Surroundings.bare brokenMethods).value.cors.allowMethods = "GET\nPOST" ∧
      ¬ ∀ text ∈ (extract Surroundings.bare brokenMethods).value.checkedTexts, Inline text := by
  have hstray : Cors.TakesStrayBlank brokenMethods :=
    ⟨by decide +kernel, .corsAllowMethods, by decide, "GET\nPOST", by decide +kernel,
      '\n', by decide, by decide, by decide⟩
  exact ⟨by decide +kernel, fun h =>
    (inline_checkedTexts_iff Surroundings.bare brokenMethods).2.2.mp h hstray⟩

end IngressController.Annotations
