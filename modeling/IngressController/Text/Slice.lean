/-!
# Cutting a text by bytes

Places in a text are counted in bytes of its UTF-8 form. A cut is possible only between two
characters.
-/

set_option autoImplicit false

namespace IngressController.Text

/-- The number of bytes of some characters. -/
def byteCount : List Char → Nat
  | [] => 0
  | c :: rest => c.utf8Size + byteCount rest

/-- What stands in front of a place and behind it. -/
def cutAt? : Nat → List Char → Option (List Char × List Char)
  | 0, cs => some ([], cs)
  | _ + 1, [] => none
  | n + 1, c :: rest =>
    if c.utf8Size ≤ n + 1 then
      (cutAt? (n + 1 - c.utf8Size) rest).map fun (before, after) => (c :: before, after)
    else none

/-- What stands in a text from a place on. -/
def sliceFrom? (s : String) (start : Nat) : Option String :=
  (cutAt? start s.toList).map fun (_, after) => String.ofList after

/-- What stands in a text from one place to another. -/
def slice? (s : String) (start stop : Nat) : Option String := do
  let (before, _) ← cutAt? stop s.toList
  let (_, part) ← cutAt? start before
  return String.ofList part

/-- A text is cut behind a part of it where that part ends. -/
theorem cutAt?_append (before after : List Char) :
    cutAt? (byteCount before) (before ++ after) = some (before, after) := by
  induction before with
  | nil => simp [byteCount, cutAt?]
  | cons c rest ih =>
    have size := c.utf8Size_pos
    obtain ⟨n, hn⟩ : ∃ n, c.utf8Size + byteCount rest = n + 1 :=
      ⟨c.utf8Size + byteCount rest - 1, by omega⟩
    have left : n + 1 - c.utf8Size = byteCount rest := by omega
    rw [byteCount, List.cons_append, hn, cutAt?, if_pos (by omega), left, ih]
    rfl

end IngressController.Text
