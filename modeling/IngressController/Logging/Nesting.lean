/-!
# How deep a pattern nests

The depth of a pattern counts the repetitions, groups, alternatives, classes, operations on classes
and sequences that stand inside each other. A sequence counts only if it has more than one part, and
alternatives only if there is more than one; a character has the depth zero.

The depth of a part is known as soon as the part has been read, so a sequence keeps only the depths
that its own depth comes from.
-/

set_option autoImplicit false

namespace IngressController.Logging

/-- The greater one of two depths, the first of which may be missing. -/
def greaterDepth (depth : Option Nat) (other : Nat) : Nat :=
  depth.elim other (max other)

/-- A sequence, as far as it has been read: the depth of its last part and the greatest depth of the
parts before that. -/
structure Sequence where
  last : Option Nat := none
  before : Option Nat := none
  deriving DecidableEq

namespace Sequence

/-- The sequence with another part. -/
def push (s : Sequence) (depth : Nat) : Sequence where
  last := some depth
  before := s.last.map (greaterDepth s.before)

/-- The sequence with its last part repeated. -/
def repeatLast (s : Sequence) : Sequence :=
  { s with last := s.last.map (· + 1) }

/-- The depth of a sequence. -/
def depth (s : Sequence) : Nat :=
  match s.last, s.before with
  | some last, some before => max last before + 1
  | some last, none => last
  | none, _ => 0

/-- A single part is as deep as its sequence. -/
theorem depth_push_empty (depth : Nat) : (({} : Sequence).push depth).depth = depth := rfl

/-- Each further part adds no more than the sequence itself. -/
theorem depth_push_push (s : Sequence) (first second : Nat) :
    ((s.push first).push second).depth =
      max second (greaterDepth (s.push first).before first) + 1 := rfl

end Sequence

/-- What stands between two parentheses or brackets, as far as it has been read: the sequence that
is read, and the depth of what it is an alternative or an operand to. -/
structure Enclosure where
  sequence : Sequence := {}
  earlier : Option Nat := none
  deriving DecidableEq

namespace Enclosure

/-- The enclosure with another part of its sequence. -/
def push (e : Enclosure) (depth : Nat) : Enclosure :=
  { e with sequence := e.sequence.push depth }

/-- The enclosure with the last part of its sequence repeated. -/
def repeatLast (e : Enclosure) : Enclosure :=
  { e with sequence := e.sequence.repeatLast }

/-- The depth of an enclosure. -/
def depth (e : Enclosure) : Nat :=
  match e.earlier with
  | some earlier => max earlier e.sequence.depth + 1
  | none => e.sequence.depth

/-- Begins another alternative. All alternatives stand beside each other. -/
def alternative (e : Enclosure) : Enclosure where
  earlier := some (greaterDepth e.earlier e.sequence.depth)

/-- Begins the second operand of an operation. An operation is the first operand of the next. -/
def operand (e : Enclosure) : Enclosure where
  earlier := some e.depth

end Enclosure

end IngressController.Logging
