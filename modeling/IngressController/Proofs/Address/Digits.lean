import IngressController.Address.Printer
import IngressController.Address.Reader
import Mathlib.Algebra.Group.Nat.Defs
import Mathlib.Data.List.Basic

/-!
# `IngressController.Proofs.Address.Digits`: numbers in addresses are read as they are written

Octets, groups and prefix lengths are numbers in a base of at most sixteen. A number that is written
without zeros in front is read as itself, by either grammar, as long as it fits the bounds of the
reader and no further digit follows it.

* `ofDigits_toDigits`: the digits of a number have its value.
* `Spells`: digits spell a number, without zeros in front.
* `exists_spells_decimalDigits` and `exists_spells_printGroup`: how numbers are written.
* `readNumber_of_spells`: what is spelled is read, up to the end of its digits.
-/

set_option autoImplicit false

namespace IngressController.Address

/-! ### The value of digits -/

theorem ofDigits_nil (base : Nat) : ofDigits base [] = 0 := rfl

theorem ofDigits_singleton (base d : Nat) : ofDigits base [d] = d := by
  simp [ofDigits]

/-- Digits in front are worth more with each one that follows them. -/
theorem ofDigits_append (base : Nat) (ds es : List Nat) :
    ofDigits base (ds ++ es) = ofDigits base ds * base ^ es.length + ofDigits base es := by
  -- The digits in front become the start of the fold.
  have hfold : ∀ acc, es.foldl (fun acc d => acc * base + d) acc
      = acc * base ^ es.length + ofDigits base es := by
    induction es with
    | nil => simp [ofDigits]
    | cons e es ih =>
        intro acc
        rw [ofDigits, List.foldl_cons, List.foldl_cons, ih, ih (0 * base + e), List.length_cons,
          Nat.pow_succ, Nat.zero_mul, Nat.zero_add, Nat.add_mul, Nat.mul_assoc,
          Nat.mul_comm base, Nat.add_assoc]
  rw [ofDigits, List.foldl_append, hfold]
  rfl

theorem ofDigits_cons (base d : Nat) (ds : List Nat) :
    ofDigits base (d :: ds) = d * base ^ ds.length + ofDigits base ds := by
  rw [← List.singleton_append, ofDigits_append, ofDigits_singleton]

/-- Zeros in front are worth nothing. -/
theorem ofDigits_replicate_append (base count : Nat) (ds : List Nat) :
    ofDigits base (List.replicate count 0 ++ ds) = ofDigits base ds := by
  induction count with
  | zero => rfl
  | succ count ih =>
      rw [List.replicate_succ, List.cons_append, ofDigits_cons, Nat.zero_mul, Nat.zero_add, ih]

theorem length_toDigits (base count n : Nat) : (toDigits base count n).length = count := by
  induction count with
  | zero => rfl
  | succ count ih => rw [toDigits, List.length_cons, ih]

theorem lt_of_mem_toDigits {base count n d : Nat} (hbase : 0 < base)
    (h : d ∈ toDigits base count n) : d < base := by
  induction count with
  | zero => cases h
  | succ count ih =>
      rcases List.mem_cons.mp h with rfl | h
      · exact Nat.mod_lt _ hbase
      · exact ih h

/-- The digits of a number have its value, as far as there are enough of them. -/
theorem ofDigits_toDigits (base count n : Nat) :
    ofDigits base (toDigits base count n) = n % base ^ count := by
  induction count with
  | zero => rw [toDigits, ofDigits_nil, Nat.pow_zero, Nat.mod_one]
  | succ count ih =>
      rw [toDigits, ofDigits_cons, length_toDigits, ih, Nat.mod_pow_succ, Nat.add_comm,
        Nat.mul_comm]
      rfl

/-! ### Written numbers -/

/-- Digits in a base spell a number: there are some, and none of several is a zero in front. -/
structure Spells (base : Nat) (digits : List Nat) (n : Nat) : Prop where
  ne_nil : digits ≠ []
  lt : ∀ d ∈ digits, d < base
  value : ofDigits base digits = n
  lead : 1 < digits.length → digits.head? ≠ some 0

section Spells

variable {base n : Nat} {digits : List Nat}

/-- A number other than zero has no zero in front at all. -/
theorem Spells.head?_ne (h : Spells base digits n) (hn : n ≠ 0) : digits.head? ≠ some 0 := by
  intro hfirst
  have hsingle : ¬ 1 < digits.length := fun hlong => h.lead hlong hfirst
  have hvalue := h.value
  cases digits with
  | nil => cases hfirst
  | cons d ds =>
      cases ds with
      | cons e es => simp at hsingle
      | nil =>
          obtain rfl : d = 0 := Option.some.inj hfirst
          exact hn (hvalue.symm.trans (ofDigits_singleton base 0))

/-- The last digit goes behind the digits of the rest. -/
theorem Spells.push (hbase : 0 < base) (hn : n / base ≠ 0) (h : Spells base digits (n / base)) :
    Spells base (digits ++ [n % base]) n where
  ne_nil := by simp
  lt := by
    intro d hd
    rcases List.mem_append.mp hd with hd | hd
    · exact h.lt d hd
    · rw [List.mem_singleton.mp hd]
      exact Nat.mod_lt n hbase
  value := by
    rw [ofDigits_append, h.value, ofDigits_singleton, List.length_singleton, Nat.pow_one,
      Nat.div_add_mod']
  lead := by
    intro _ hhead
    rw [List.head?_append_of_ne_nil _ h.ne_nil] at hhead
    exact h.head?_ne hn hhead

end Spells

/-- A digit below ten is written the same in every base. -/
theorem hexDigitChar_of_lt {d : Nat} (h : d < 10) : hexDigitChar d = Text.digitChar d :=
  if_pos h

/-- A decimal numeral is spelled by its digits, of which there are as few as possible. -/
theorem exists_spells_decimalDigits (n : Nat) : ∃ digits, Spells 10 digits n
    ∧ Text.decimalDigits n = digits.map hexDigitChar
    ∧ ∀ k, 0 < k → n < 10 ^ k → digits.length ≤ k := by
  induction n using Nat.strongRecOn with
  | ind n ih =>
      rw [Text.decimalDigits]
      by_cases hn : n < 10
      · rw [if_pos hn]
        exact ⟨[n], ⟨by simp, by simpa using hn, by simp [ofDigits], by simp⟩,
          by simp [hexDigitChar_of_lt hn], fun k hk _ => hk⟩
      · rw [if_neg hn]
        obtain ⟨digits, hspells, hchars, hlength⟩ := ih (n / 10) (by omega)
        have hlast : n % 10 < 10 := Nat.mod_lt _ (by omega)
        refine ⟨digits ++ [n % 10], hspells.push (by omega) (by omega), ?_, fun k hk hlt => ?_⟩
        · rw [hchars, List.map_append, List.map_singleton, hexDigitChar_of_lt hlast]
        · obtain ⟨k, rfl⟩ : ∃ k', k = k' + 1 := ⟨k - 1, by omega⟩
          have hk' : 0 < k := Nat.pos_of_ne_zero (by rintro rfl; omega)
          have hlt' : n / 10 < 10 ^ k := by
            rw [Nat.pow_succ] at hlt
            omega
          rw [List.length_append, List.length_singleton]
          exact Nat.succ_le_succ (hlength k hk' hlt')

/-- Without the zeros in front of them digits have the same value. -/
theorem ofDigits_dropWhile (base : Nat) (ds : List Nat) :
    ofDigits base (ds.dropWhile (· == 0)) = ofDigits base ds := by
  induction ds with
  | nil => rfl
  | cons d ds ih =>
      by_cases hd : d = 0
      · rw [List.dropWhile_cons_of_pos (by simpa using hd), ih, ofDigits_cons, hd]
        simp
      · rw [List.dropWhile_cons_of_neg (by simpa using hd)]

/-- A group is spelled by at most four digits. -/
theorem exists_spells_printGroup {group : Nat} (h : group < 65536) : ∃ digits,
    Spells 16 digits group ∧ (printGroup group).toList = digits.map hexDigitChar
    ∧ digits.length ≤ 4 := by
  have hvalue : ofDigits 16 ((toDigits 16 4 group).dropWhile (· == 0)) = group := by
    rw [ofDigits_dropWhile, ofDigits_toDigits]
    exact Nat.mod_eq_of_lt h
  have hlength : ((toDigits 16 4 group).dropWhile (· == 0)).length ≤ 4 :=
    Nat.le_trans (List.dropWhile_sublist _).length_le (Nat.le_of_eq (length_toDigits 16 4 group))
  have hlt : ∀ d ∈ (toDigits 16 4 group).dropWhile (· == 0), d < 16 := fun d hd =>
    lt_of_mem_toDigits (by omega) ((List.dropWhile_sublist _).subset hd)
  have hhead := List.head?_dropWhile_not (· == 0) (toDigits 16 4 group)
  rw [printGroup]
  split
  · next hnil =>
      -- All digits of zero are zeros, and one of them is written.
      rw [hnil] at hvalue
      obtain rfl : 0 = group := hvalue
      exact ⟨[0], ⟨by simp, by simp, rfl, by simp⟩, rfl, by simp⟩
  · next digits hne =>
      generalize (toDigits 16 4 group).dropWhile (· == 0) = ds at hne hvalue hlength hlt hhead
      refine ⟨ds, ⟨hne, hlt, hvalue, fun _ hzero => ?_⟩, String.toList_ofList, hlength⟩
      rw [hzero] at hhead
      cases hhead

/-! ### Reading -/

/-- No digit of a base stands at the beginning of a text. -/
def Halts (base : Nat) (cs : List Char) : Prop :=
  ∀ c ∈ cs.head?, Text.digitValue? base c = none

theorem digitValue?_hexDigitChar {base d : Nat} (hbase : base ≤ 16) (h : d < base) :
    Text.digitValue? base (hexDigitChar d) = some d := by
  have hvalue : ∀ d < 16, Text.digitValue? 16 (hexDigitChar d) = some d := by decide
  have hsixteen := hvalue d (Nat.lt_of_lt_of_le h hbase)
  rw [Text.digitValue?, Option.filter_eq_some_iff] at hsixteen ⊢
  exact ⟨hsixteen.1, decide_eq_true h⟩

/-- Digits are taken up to the first character that is none. -/
theorem takeDigits_append {base : Nat} (hbase : base ≤ 16) {digits : List Nat}
    (hlt : ∀ d ∈ digits, d < base) {rest : List Char} (hrest : Halts base rest) :
    takeDigits base (digits.map hexDigitChar ++ rest) = (digits, rest) := by
  induction digits with
  | nil =>
      cases rest with
      | nil => rfl
      | cons c rest =>
          rw [List.map_nil, List.nil_append, takeDigits, hrest c rfl]
  | cons d digits ih =>
      obtain ⟨hd, hdigits⟩ := List.forall_mem_cons.mp hlt
      rw [List.map_cons, List.cons_append, takeDigits, digitValue?_hexDigitChar hbase hd]
      simp only [ih hdigits]

/-- A number that is spelled without zeros in front is read by every grammar that has room for it,
up to the end of its digits. -/
theorem readNumber_of_spells {base maxDigits limit n : Nat} {digits : List Nat} {rest : List Char}
    (hbase : base ≤ 16) (hdigits : Spells base digits n) (hlength : digits.length ≤ maxDigits)
    (hlimit : n < limit) (hrest : Halts base rest) (padded : Bool) :
    readNumber base maxDigits limit padded (digits.map hexDigitChar ++ rest) = some (n, rest) := by
  have hvalue : digits.foldl (fun acc d => acc * base + d) 0 = n := hdigits.value
  have hempty : (digits.isEmpty || decide (digits.length > maxDigits)) = false := by
    simp [hdigits.ne_nil, Nat.not_lt.mpr hlength]
  have hlead : (!padded && decide (digits.length > 1) && digits.head? == some 0) = false := by
    by_cases h : 1 < digits.length
    · simp [hdigits.lead h]
    · simp [h]
  rw [readNumber, takeDigits_append hbase hdigits.lt hrest]
  simp only [hempty, hlead, hvalue, Bool.false_eq_true, if_false, if_pos hlimit]

/-- A decimal numeral is read by every reader that has room for it. -/
theorem readNumber_decimalDigits {maxDigits limit n : Nat} {rest : List Char}
    (hmax : 0 < maxDigits) (hroom : n < 10 ^ maxDigits) (hlimit : n < limit)
    (hrest : Halts 10 rest) (padded : Bool) :
    readNumber 10 maxDigits limit padded (Text.decimalDigits n ++ rest) = some (n, rest) := by
  obtain ⟨digits, hspells, hchars, hlength⟩ := exists_spells_decimalDigits n
  rw [hchars]
  exact readNumber_of_spells (by omega) hspells (hlength maxDigits hmax hroom) hlimit hrest padded

/-- A group is read as it is written. -/
theorem readNumber_printGroup {group : Nat} (h : group < 65536) {rest : List Char}
    (hrest : Halts 16 rest) :
    readNumber 16 4 65536 true ((printGroup group).toList ++ rest) = some (group, rest) := by
  obtain ⟨digits, hspells, hchars, hlength⟩ := exists_spells_printGroup h
  rw [hchars]
  exact readNumber_of_spells (by omega) hspells hlength h hrest true

end IngressController.Address
