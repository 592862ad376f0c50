import IngressController.Program

/-!
# Cancellation

Work that should end early is told so by a token. Whoever holds a token can cancel it, and it stays
cancelled. A token has children, which are cancelled together with it, while to cancel a child
leaves its parent and the other children alone.

Nothing is interrupted by that. A token can be asked whether it is cancelled, and it is left to
those who ask what they make of the answer.
-/

set_option autoImplicit false

namespace IngressController

/-- A token of cancellation: one that stands alone, or a child of another one. -/
inductive CancellationToken where
  | root (number : Nat)
  | child (parent : CancellationToken) (number : Nat)
  deriving DecidableEq

/-- The tokens that have been cancelled themselves. -/
structure Cancelled where
  tokens : List CancellationToken := []

namespace Cancelled

/-- Cancels a token. -/
def cancel (c : Cancelled) (token : CancellationToken) : Cancelled where
  tokens := token :: c.tokens

/-- Whether a token is cancelled, itself or with a parent. -/
def covers (c : Cancelled) : CancellationToken → Bool
  | .root number => c.tokens.contains (.root number)
  | .child parent number => c.tokens.contains (.child parent number) || c.covers parent

end Cancelled

/-! ### Requests -/

/-- What work that can be cancelled asks for: whether a token is cancelled, to cancel one, or
something else. -/
inductive WorkAsk (Q : Type) where
  | isCancelled (token : CancellationToken)
  | cancel (token : CancellationToken)
  | other (q : Q)

/-- The answers to these requests. -/
abbrev WorkAsk.Answer {Q : Type} (A : Q → Type) : WorkAsk Q → Type
  | isCancelled _ => Bool
  | cancel _ => Unit
  | other q => A q

/-- Answers what work asks for. -/
def WorkAsk.answer {Q σ : Type} {A : Q → Type} (answers : Program.Answers A σ) :
    Program.Answers (WorkAsk.Answer A) (Cancelled × σ)
  | .isCancelled token => fun (c, s) => pure (c.covers token, (c, s))
  | .cancel token => fun (c, s) => pure ((), (c.cancel token, s))
  | .other q => fun (c, s) => do
    let (answer, s) ← (answers q).run s
    pure (answer, (c, s))

end IngressController
