import IngressController.Text.Numeral
import Mathlib.Data.List.Basic

/-!
# `IngressController.Proofs.Text.Numeral`: which numerals are read as the same number

A plus sign and zeros in front make no difference to the value of a numeral, and nothing else is
left out of it: what remains are the digits of its value as they would be written, or nothing at
all if the value is zero.

A number that is written with zeros in front is still told by its numeral, whether or not there was
room for zeros.

* `readUnsigned?_decimal`: a number that fits is read back from its numeral.
* `significantDigits_of_read`: the digits that count are those of the value.
* `digitsValue?_significantDigits`: they have the value of the whole numeral.
* `toList_zeroPadded` and `zeroPadded_inj`: numerals that are padded with zeros, of any length.
-/

set_option autoImplicit false

namespace IngressController.Text

/-! ### Single digits -/

/-- The character of a digit is the one that is written for its value. -/
theorem digitValue?_eq_some {c : Char} {d : Nat} (h : digitValue? 10 c = some d) :
    d < 10 ∧ c = digitChar d := by
  rw [digitValue?, Option.filter_eq_some_iff] at h
  obtain ⟨hvalue, hlt⟩ := h
  have hlt : d < 10 := of_decide_eq_true hlt
  refine ⟨hlt, ?_⟩
  split at hvalue
  · next hdigit =>
      have hzero : '0'.toNat ≤ c.toNat := hdigit.1
      have hd : c.toNat = '0'.toNat + d := by
        have hsub := Option.some.inj hvalue
        omega
      rw [digitChar, ← hd, Char.ofNat_toNat]
  · -- The values of letters are too large.
    split at hvalue
    · have hsub := Option.some.inj hvalue
      omega
    · split at hvalue
      · have hsub := Option.some.inj hvalue
        omega
      · cases hvalue

/-- Only the digit zero has the value zero. -/
theorem digitValue?_eq_zero {c : Char} (h : digitValue? 10 c = some 0) : c = '0' :=
  (digitValue?_eq_some h).2

/-- One more digit after those of a number that is not zero. -/
theorem decimalDigits_shift {n d : Nat} (hn : n ≠ 0) (hd : d < 10) :
    decimalDigits (n * 10 + d) = decimalDigits n ++ [digitChar d] := by
  have hdiv : (n * 10 + d) / 10 = n := by omega
  have hmod : (n * 10 + d) % 10 = d := by omega
  rw [decimalDigits, if_neg (by omega), hdiv, hmod]

/-! ### Written numerals -/

/-- Numbers are written in the usual decimal digits. -/
theorem decimalDigits_eq_toDigits (n : Nat) : decimalDigits n = Nat.toDigits 10 n := by
  have hdigit : ∀ d < 10, digitChar d = Nat.digitChar d := by decide
  induction n using Nat.strongRecOn with
  | ind n ih =>
      rw [decimalDigits]
      by_cases hn : n < 10
      · rw [if_pos hn, Nat.toDigits_of_lt_base hn, hdigit n hn]
      · rw [if_neg hn, Nat.toDigits_of_base_le (by omega) (by omega), ih (n / 10) (by omega),
          hdigit _ (Nat.mod_lt n (by omega))]

/-- A padded numeral has zeros in front where there is room for them. -/
theorem toList_zeroPadded (width n : Nat) :
    (zeroPadded width n).toList = (Nat.toDigits 10 n).leftpad width '0' := by
  rw [zeroPadded, String.toList_ofList, decimalDigits_eq_toDigits, List.leftpad]

/-- The digits of a padded numeral have the value of the number. -/
theorem ofDigitChars_zeroPadded (width n : Nat) :
    Nat.ofDigitChars 10 (zeroPadded width n).toList 0 = n := by
  rw [toList_zeroPadded, List.leftpad, Nat.ofDigitChars_append, Nat.ofDigitChars_replicate_zero,
    Nat.mul_zero, Nat.ofDigitChars_toDigits (by omega) (by omega)]

/-- Different numbers have different numerals, however long these are. -/
theorem zeroPadded_inj {width m n : Nat} : zeroPadded width m = zeroPadded width n ↔ m = n := by
  refine ⟨fun h => ?_, fun h => h ▸ rfl⟩
  rw [← ofDigitChars_zeroPadded width m, h, ofDigitChars_zeroPadded]

/-! ### Digits that count -/

/-- The digits of an unsigned numeral, without its sign. -/
def unsignedDigits (s : String) : List Char :=
  match s.toList with
  | '+' :: rest => rest
  | cs => cs

/-- The digits of an unsigned numeral that make up its value: without the sign and without zeros in
front. -/
def significantDigits (s : String) : List Char :=
  (unsignedDigits s).dropWhile (· = '0')

/-- Zeros in front do not count. -/
theorem digitsValue?_dropWhile (cs : List Char) :
    digitsValue? 0 (cs.dropWhile (· = '0')) = digitsValue? 0 cs := by
  induction cs with
  | nil => rfl
  | cons c cs ih =>
      by_cases hc : c = '0'
      · subst hc
        rw [List.dropWhile_cons_of_pos (by decide), ih]
        rfl
      · rw [List.dropWhile_cons_of_neg (by simpa using hc)]

/-- Digits after those of a number that is not zero are written behind them. -/
theorem decimalDigits_of_digitsValue? {acc n : Nat} {cs : List Char} (hacc : acc ≠ 0)
    (h : digitsValue? acc cs = some n) : n ≠ 0 ∧ decimalDigits n = decimalDigits acc ++ cs := by
  induction cs generalizing acc with
  | nil =>
      cases h
      exact ⟨hacc, (List.append_nil _).symm⟩
  | cons c cs ih =>
      rw [digitsValue?, Option.bind_eq_some_iff] at h
      obtain ⟨d, hc, hrest⟩ := h
      obtain ⟨hd, rfl⟩ := digitValue?_eq_some hc
      obtain ⟨hn, hdigits⟩ := ih (by omega) hrest
      exact ⟨hn, by rw [hdigits, decimalDigits_shift hacc hd, List.append_assoc]; rfl⟩

/-- The digits of a number as they are written, none for zero. -/
def writtenDigits (n : Nat) : List Char :=
  if n = 0 then [] else decimalDigits n

/-- Digits without zeros in front are those that are written for their value. -/
theorem dropWhile_of_digitsValue? {n : Nat} {cs : List Char} (h : digitsValue? 0 cs = some n) :
    cs.dropWhile (· = '0') = writtenDigits n := by
  rw [← digitsValue?_dropWhile] at h
  cases hcs : cs.dropWhile (· = '0') with
  | nil =>
      rw [hcs] at h
      cases h
      rfl
  | cons c rest =>
      have hfirst : ¬ c = '0' := by
        have hhead := List.head?_dropWhile_not (fun c => decide (c = '0')) cs
        simpa [hcs] using hhead
      rw [hcs, digitsValue?, Option.bind_eq_some_iff] at h
      obtain ⟨d, hc, hrest⟩ := h
      obtain ⟨hd, hchar⟩ := digitValue?_eq_some hc
      have hzero : d ≠ 0 := fun hd => hfirst (digitValue?_eq_zero (hd ▸ hc))
      rw [Nat.zero_mul, Nat.zero_add] at hrest
      obtain ⟨hn, hdigits⟩ := decimalDigits_of_digitsValue? hzero hrest
      rw [writtenDigits, if_neg hn, hdigits, decimalDigits, if_pos hd, hchar]
      rfl

/-- What is read is the value of the digits, and fits. -/
theorem digitsValue?_of_read {bits n : Nat} {s : String} (h : readUnsigned? bits s = some n) :
    digitsValue? 0 (unsignedDigits s) = some n ∧ n < Nat.pow 2 bits := by
  obtain ⟨hdigits, hlt⟩ := Option.filter_eq_some_iff.mp h
  refine ⟨?_, of_decide_eq_true hlt⟩
  have hdigits : readDigits? (unsignedDigits s) = some n := hdigits
  cases hcs : unsignedDigits s with
  | nil => rw [hcs] at hdigits; cases hdigits
  | cons c rest => rw [hcs] at hdigits; exact hdigits

/-- The digits that count are those of the value. -/
theorem significantDigits_of_read {bits n : Nat} {s : String}
    (h : readUnsigned? bits s = some n) : significantDigits s = writtenDigits n :=
  dropWhile_of_digitsValue? (digitsValue?_of_read h).1

/-- The digits that count have the value of the numeral. -/
theorem digitsValue?_significantDigits {bits n : Nat} {s : String}
    (h : readUnsigned? bits s = some n) : digitsValue? 0 (significantDigits s) = some n :=
  (digitsValue?_dropWhile _).trans (digitsValue?_of_read h).1

/-- Two numerals are read as the same number exactly if the same digits count in them. -/
theorem read_eq_iff {bits m n : Nat} {s t : String} (hs : readUnsigned? bits s = some m)
    (ht : readUnsigned? bits t = some n) :
    m = n ↔ significantDigits s = significantDigits t := by
  constructor
  · rintro rfl
    rw [significantDigits_of_read hs, significantDigits_of_read ht]
  · intro heq
    have hvalue := digitsValue?_significantDigits hs
    rw [heq, digitsValue?_significantDigits ht] at hvalue
    exact (Option.some.inj hvalue).symm

/-- A numeral is read as zero exactly if no digit counts in it. -/
theorem read_eq_zero_iff {bits n : Nat} {s : String} (h : readUnsigned? bits s = some n) :
    n = 0 ↔ significantDigits s = [] := by
  constructor
  · rintro rfl
    exact significantDigits_of_read h
  · intro hnone
    have hvalue := digitsValue?_significantDigits h
    rw [hnone] at hvalue
    exact (Option.some.inj hvalue).symm

/-! ### Numerals that are read back -/

/-- The digit that is written for a number has the number for its value. -/
theorem digitValue?_digitChar {d : Nat} (hd : d < 10) : digitValue? 10 (digitChar d) = some d := by
  revert d
  decide

/-- Digits are read on with the value of those before them. -/
theorem digitsValue?_append (acc : Nat) (front back : List Char) :
    digitsValue? acc (front ++ back)
      = (digitsValue? acc front).bind fun n => digitsValue? n back := by
  induction front generalizing acc with
  | nil => rfl
  | cons c front ih =>
      rw [List.cons_append, digitsValue?, digitsValue?, Option.bind_assoc]
      exact Option.bind_congr fun d _ => ih _

/-- The digits of a number have its value. -/
theorem digitsValue?_decimalDigits (n : Nat) : digitsValue? 0 (decimalDigits n) = some n := by
  induction n using Nat.strongRecOn with
  | ind n ih =>
      rw [decimalDigits]
      by_cases hn : n < 10
      · rw [if_pos hn, digitsValue?, digitValue?_digitChar hn, Option.bind_some, digitsValue?,
          Nat.zero_mul, Nat.zero_add]
      · have hmod : n % 10 < 10 := Nat.mod_lt n (by omega)
        rw [if_neg hn, digitsValue?_append, ih (n / 10) (by omega), Option.bind_some, digitsValue?,
          digitValue?_digitChar hmod, Option.bind_some, digitsValue?, Nat.div_add_mod']

/-- A numeral as it is written has no sign. -/
theorem unsignedDigits_decimal (n : Nat) : unsignedDigits (decimal n) = decimalDigits n := by
  rw [unsignedDigits, decimal, String.toList_ofList]
  split
  · next rest hdigits =>
      have hvalue := digitsValue?_decimalDigits n
      rw [hdigits] at hvalue
      cases hvalue
  · rfl

/-- A number that fits is read back from its numeral. -/
theorem readUnsigned?_decimal {bits n : Nat} (h : n < Nat.pow 2 bits) :
    readUnsigned? bits (decimal n) = some n := by
  have hread : readDigits? (unsignedDigits (decimal n)) = some n := by
    rw [unsignedDigits_decimal]
    cases hdigits : decimalDigits n with
    | nil => rw [decimalDigits] at hdigits; split at hdigits <;> simp at hdigits
    | cons c rest =>
        rw [readDigits?, ← hdigits]
        exact digitsValue?_decimalDigits n
  show (readDigits? (unsignedDigits (decimal n))).filter _ = some n
  rw [hread, Option.filter_some, if_pos (decide_eq_true h)]

end IngressController.Text
