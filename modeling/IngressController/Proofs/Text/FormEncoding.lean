import IngressController.Text.FormEncoding

/-!
# `IngressController.Proofs.Text.FormEncoding`: a text in form encoding is read back

Whatever a text holds, its form encoding is made of characters that stand for themselves, plus signs
and percent signs, and so none of the marks that divide a query is in it. Reading gives the text
back: each character comes out as the bytes of its UTF-8 form.

* `isFormChar_of_mem_formEncode`: the characters of a form encoding.
* `formDecode_formEncode`: the round trip.
-/

set_option autoImplicit false

namespace IngressController.Text

/-! ### The characters of a form encoding -/

/-- A character that can be in a form encoding. -/
def isFormChar (c : Char) : Bool :=
  isFormKept c || c == '+' || c == '%'

/-- The digits of a byte are among those that stand for themselves. -/
theorem isFormKept_hexCapital {n : Nat} (h : n < 16) : isFormKept (hexCapital n) = true := by
  have hall : ∀ n : Fin 16, isFormKept (hexCapital n) = true := by decide
  exact hall ⟨n, h⟩

/-- A digit has the value that it was written for. -/
theorem digitValue?_hexCapital {n : Nat} (h : n < 16) : digitValue? 16 (hexCapital n) = some n := by
  have hall : ∀ n : Fin 16, digitValue? 16 (hexCapital n) = some n.val := by decide
  exact hall ⟨n, h⟩

/-- The characters for one character. -/
theorem isFormChar_of_mem_formEncodeChar {c d : Char} (h : d ∈ formEncodeChar c) :
    isFormChar d = true := by
  have hkept : ∀ d, isFormKept d = true → isFormChar d = true := fun d hd => by
    rw [isFormChar, hd]
    rfl
  rw [formEncodeChar] at h
  split at h
  · next hc =>
      rw [List.mem_singleton.mp h]
      exact hkept c hc
  · split at h
    · rw [List.mem_singleton.mp h]
      decide
    · obtain ⟨b, -, hd⟩ := List.mem_flatMap.mp h
      have hb : b.toNat < 256 := b.toNat_lt
      rw [percentByte, List.mem_cons, List.mem_cons, List.mem_singleton] at hd
      rcases hd with rfl | rfl | rfl
      · decide
      · exact hkept _ (isFormKept_hexCapital (by omega))
      · exact hkept _ (isFormKept_hexCapital (by omega))

/-- All characters of a form encoding stand for themselves, or are plus signs or percent signs. -/
theorem isFormChar_of_mem_formEncode {s : String} {c : Char} (h : c ∈ (formEncode s).toList) :
    isFormChar c = true := by
  rw [formEncode, String.toList_ofList] at h
  obtain ⟨d, -, hd⟩ := List.mem_flatMap.mp h
  exact isFormChar_of_mem_formEncodeChar hd

/-! ### Reading -/

/-- A character that is neither a percent sign nor a plus sign is read as itself. -/
theorem formBytes_cons {c : Char} (hpercent : c ≠ '%') (hplus : c ≠ '+') (rest : List Char) :
    formBytes (c :: rest) = String.utf8EncodeChar c ++ formBytes rest := by
  rw [formBytes]
  · exact fun first second rest' h _ => hpercent h
  · exact hplus

/-- Bytes that have been written by digits are read. -/
theorem formBytes_flatMap_percentByte (bytes : List UInt8) (rest : List Char) :
    formBytes (bytes.flatMap percentByte ++ rest) = bytes ++ formBytes rest := by
  induction bytes with
  | nil => rfl
  | cons b bytes ih =>
      have hb : b.toNat < 256 := b.toNat_lt
      have hdigits : b.toNat / 16 * 16 + b.toNat % 16 = b.toNat := by omega
      rw [List.flatMap_cons, percentByte, List.append_assoc]
      show formBytes ('%' :: hexCapital (b.toNat / 16) :: hexCapital (b.toNat % 16)
        :: (bytes.flatMap percentByte ++ rest)) = _
      rw [formBytes, digitValue?_hexCapital (by omega), digitValue?_hexCapital (by omega)]
      simp only [hdigits, UInt8.ofNat_toNat, ih, List.cons_append]

/-- What has been written for a character is read as its bytes. -/
theorem formBytes_formEncodeChar (c : Char) (rest : List Char) :
    formBytes (formEncodeChar c ++ rest) = String.utf8EncodeChar c ++ formBytes rest := by
  rw [formEncodeChar]
  split
  · next hc =>
      have hne : c ≠ '%' ∧ c ≠ '+' := by
        constructor <;> rintro rfl <;> exact absurd hc (by decide)
      exact formBytes_cons hne.1 hne.2 rest
  · split
    · next hc =>
        subst hc
        rfl
    · exact formBytes_flatMap_percentByte _ rest

/-- The form encoding of a text is read back. -/
theorem formDecode_formEncode (s : String) : formDecode (formEncode s) = s := by
  have hbytes : ∀ cs : List Char,
      formBytes (cs.flatMap formEncodeChar) = cs.flatMap String.utf8EncodeChar := by
    intro cs
    induction cs with
    | nil => rfl
    | cons c cs ih =>
        rw [List.flatMap_cons, List.flatMap_cons, formBytes_formEncodeChar, ih]
  have hutf8 : (⟨(s.toList.flatMap String.utf8EncodeChar).toArray⟩ : ByteArray)
      = s.toByteArray := by
    rw [← String.utf8Encode_toList, List.utf8Encode]
    exact ByteArray.ext (List.data_toByteArray).symm
  rw [formDecode, formEncode, String.toList_ofList, hbytes, hutf8, String.fromUTF8?,
    dif_pos s.isValidUTF8]
  rfl

end IngressController.Text
