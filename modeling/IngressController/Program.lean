import IngressController.Journal

/-!
# Programs that ask

What the controller does depends on answers that it cannot compute: what the cluster says, whether
it leads, whether it is to stop. A `Program` is a tree whose nodes are such requests, each with a
continuation for every possible answer, so that a statement about a program can range over all
answers; the type of an answer depends on its request. Between requests a program makes notes, and
it may rest, which lets others go first.

`Program.run` answers every request from a state that the answers may change. `Program.poll` does so
only up to the next rest, and `Program.step` goes on by one node, so that programs which take turns
can be told apart by when each goes on.
-/

set_option autoImplicit false

namespace IngressController

/-- A computation with requests of type `Q`, where `A q` is the type of the answers to `q`. -/
inductive Program {Q : Type} (A : Q → Type) (α : Type) : Type where
  | done (value : α)
  | note (n : Note) (next : Program A α)
  | rest (next : Program A α)
  | ask (q : Q) (next : A q → Program A α)

namespace Program

variable {Q : Type} {A : Q → Type} {α β : Type}

/-! ### Sequences -/

/-- Goes on with the value of a program. -/
def bind : Program A α → (α → Program A β) → Program A β
  | done a, f => f a
  | note n next, f => note n (next.bind f)
  | rest next, f => rest (next.bind f)
  | ask q next, f => ask q fun answer => (next answer).bind f

instance : Monad (Program A) where
  pure := done
  bind := bind

theorem bind_done (p : Program A α) : p.bind done = p := by
  induction p with
  | done a => rfl
  | note n next ih => rw [bind, ih]
  | rest next ih => rw [bind, ih]
  | ask q next ih => rw [bind]; exact congrArg (ask q) (funext ih)

theorem bind_assoc {γ : Type} (p : Program A α) (f : α → Program A β) (g : β → Program A γ) :
    (p.bind f).bind g = p.bind fun a => (f a).bind g := by
  induction p with
  | done a => rfl
  | note n next ih => exact congrArg (note n) ih
  | rest next ih => exact congrArg rest ih
  | ask q next ih => exact congrArg (ask q) (funext ih)

instance : LawfulMonad (Program A) :=
  LawfulMonad.mk' _ (fun p => bind_done p) (fun _ _ => rfl) (fun p f g => bind_assoc p f g)

/-- Makes one request. -/
def request (q : Q) : Program A (A q) :=
  ask q done

/-- Logs a line. -/
def log (level : Level) (message : String) : Program A Unit :=
  note (.log level message) (done ())

/-- Takes a measurement. -/
def measure (m : Measurement) : Program A Unit :=
  note (.measure m) (done ())

/-! ### Answers -/

/-- A way to answer every request from a state. -/
abbrev Answers (A : Q → Type) (σ : Type) : Type :=
  (q : Q) → StateT σ Reported (A q)

/-- Makes a note. -/
def noting {σ : Type} (n : Note) : StateT σ Reported Unit :=
  StateT.lift (Reported.note n)

/-- The first step of a program: a note, a rest or a request. A program that has ended stays. -/
def step {σ : Type} (answers : Answers A σ) : Program A α → StateT σ Reported (Program A α)
  | done a => pure (done a)
  | note n next => do
    noting n
    pure next
  | rest next => pure next
  | ask q next => do
    let answer ← answers q
    pure (next answer)

/-- Runs a program to its end. -/
def run {σ : Type} (answers : Answers A σ) : Program A α → StateT σ Reported α
  | done a => pure a
  | note n next => do
    noting n
    next.run answers
  | rest next => next.run answers
  | ask q next => do
    let answer ← answers q
    (next answer).run answers

/-- Runs a program until it ends or rests; if it rests, the rest of the program is given back. -/
def poll {σ : Type} (answers : Answers A σ) : Program A α → StateT σ Reported (α ⊕ Program A α)
  | done a => pure (.inl a)
  | note n next => do
    noting n
    next.poll answers
  | rest next => pure (.inr next)
  | ask q next => do
    let answer ← answers q
    (next answer).poll answers

/-- To run a program is to make its first step and to run what is left. -/
theorem step_bind_run {σ : Type} (answers : Answers A σ) (p : Program A α) :
    (p.step answers >>= run answers) = p.run answers := by
  cases p <;> simp [step, run]

end Program

end IngressController
