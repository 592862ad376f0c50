import IngressController.Program

/-!
# `IngressController.Proofs.Program`: what every path of a program keeps to

A program is a tree with a branch for every answer, and a run follows one of its paths. The
predicate `Program.Ensures may replies post` speaks about all paths at once: as long as the answers
satisfy `replies`, each request satisfies `may` and the value at the end satisfies `post`. Facts
about programs are stated with it once, and hold then for a run to the end and for every order of
steps.

* `requests`: the requests of a run, in their order.
* `ensures_bind`: a sequence of programs keeps to what its first part keeps to, with the rest in
  the place of the value.
* `Ensures.step` and `Ensures.step_state`: one step leads to a program that keeps to the same, and
  changes the state only by answering a request that satisfies `may`.
* `Ensures.run`: a run to the end gives a value that satisfies `post`, and keeps every invariant of
  the state that the answers keep.
* `Ensures.eval`: a program that is answered the same at all times has one value, `Program.eval`.
* `poll_of_restless`: a program that never rests is polled to its end.

The equations `value_step_ask`, `value_run_ask` and their companions leave the notes of a step out.
-/

set_option autoImplicit false

namespace IngressController.Program

variable {Q : Type} {A : Q → Type} {α β σ : Type}

/-! ### Steps and runs without their notes -/

/-- A note changes nothing. -/
@[simp] theorem value_step_note (answers : Answers A σ) (n : Note) (next : Program A α) (s : σ) :
    (((note n next).step answers).run s).value = (next, s) := rfl

/-- A rest changes nothing. -/
@[simp] theorem value_step_rest (answers : Answers A σ) (next : Program A α) (s : σ) :
    (((rest next).step answers).run s).value = (next, s) := rfl

/-- A request goes on with the answer and leaves the state that the answer leaves. -/
@[simp] theorem value_step_ask (answers : Answers A σ) (q : Q) (next : A q → Program A α) (s : σ) :
    (((ask q next).step answers).run s).value
      = (next ((answers q).run s).value.1, ((answers q).run s).value.2) := rfl

/-- A program that has ended gives its value. -/
@[simp] theorem value_run_done (answers : Answers A σ) (a : α) (s : σ) :
    (((done a : Program A α).run answers).run s).value = (a, s) := rfl

/-- A run goes on after a note. -/
@[simp] theorem value_run_note (answers : Answers A σ) (n : Note) (next : Program A α) (s : σ) :
    (((note n next).run answers).run s).value = ((next.run answers).run s).value := rfl

/-- A run goes on after a rest. -/
@[simp] theorem value_run_rest (answers : Answers A σ) (next : Program A α) (s : σ) :
    (((rest next).run answers).run s).value = ((next.run answers).run s).value := rfl

/-- A run goes on with the answer, in the state that the answer leaves. -/
@[simp] theorem value_run_ask (answers : Answers A σ) (q : Q) (next : A q → Program A α) (s : σ) :
    (((ask q next).run answers).run s).value
      = (((next ((answers q).run s).value.1).run answers).run ((answers q).run s).value.2).value :=
  rfl

/-- To run a sequence is to run its first part and then the rest. -/
theorem value_run_bind (answers : Answers A σ) (p : Program A α) (f : α → Program A β) (s : σ) :
    (((p >>= f).run answers).run s).value
      = (((f ((p.run answers).run s).value.1).run answers).run
          ((p.run answers).run s).value.2).value := by
  show (((p.bind f).run answers).run s).value = _
  induction p generalizing s with
  | done a => rfl
  | note n next ih => exact ih s
  | rest next ih => exact ih s
  | ask q next ih => exact ih _ _

/-! ### The requests of a run -/

/-- The requests that a run makes, in their order. -/
def requests (answers : Answers A σ) : Program A α → σ → List Q
  | done _, _ => []
  | note _ next, s => next.requests answers s
  | rest next, s => next.requests answers s
  | ask q next, s =>
    q :: (next ((answers q).run s).value.1).requests answers ((answers q).run s).value.2

/-- A sequence makes the requests of its first part and then those of the rest. -/
theorem requests_bind (answers : Answers A σ) (p : Program A α) (f : α → Program A β) (s : σ) :
    (p >>= f).requests answers s
      = p.requests answers s
        ++ (f ((p.run answers).run s).value.1).requests answers
          ((p.run answers).run s).value.2 := by
  show (p.bind f).requests answers s = _
  induction p generalizing s with
  | done a => rfl
  | note n next ih => exact ih s
  | rest next ih => exact ih s
  | ask q next ih => exact congrArg (q :: ·) (ih _ _)

/-! ### What every path keeps to -/

/-- Along every path on which the answers satisfy `replies`, each request satisfies `may` and the
value at the end satisfies `post`. -/
def Ensures (may : Q → Prop) (replies : (q : Q) → A q → Prop) (post : α → Prop) :
    Program A α → Prop
  | done a => post a
  | note _ next => next.Ensures may replies post
  | rest next => next.Ensures may replies post
  | ask q next => may q ∧ ∀ a, replies q a → (next a).Ensures may replies post

section Laws
variable {may : Q → Prop} {replies : (q : Q) → A q → Prop} {post : α → Prop}

/-- A value keeps to `post` if it satisfies it. -/
@[simp] theorem ensures_pure (a : α) :
    (pure a : Program A α).Ensures may replies post ↔ post a := Iff.rfl

/-- A request keeps to `may`, and each of its answers to `post`. -/
@[simp] theorem ensures_request {q : Q} {post : A q → Prop} :
    (request q : Program A (A q)).Ensures may replies post
      ↔ may q ∧ ∀ a, replies q a → post a := Iff.rfl

/-- A log line asks nothing. -/
@[simp] theorem ensures_log {post : Unit → Prop} (level : Level) (message : String) :
    (log level message : Program A Unit).Ensures may replies post ↔ post () := Iff.rfl

/-- A measurement asks nothing. -/
@[simp] theorem ensures_measure {post : Unit → Prop} (m : Measurement) :
    (measure m : Program A Unit).Ensures may replies post ↔ post () := Iff.rfl

/-- A sequence keeps to what its first part keeps to, with the rest in the place of the value. -/
@[simp] theorem ensures_bind {post : β → Prop} (p : Program A α) (f : α → Program A β) :
    (p >>= f).Ensures may replies post
      ↔ p.Ensures may replies fun a => (f a).Ensures may replies post := by
  show (p.bind f).Ensures may replies post ↔ _
  induction p with
  | done a => rfl
  | note n next ih => exact ih
  | rest next ih => exact ih
  | ask q next ih =>
      show (may q ∧ _) ↔ (may q ∧ _)
      exact and_congr_right fun _ => forall₂_congr fun a _ => ih a

/-- A program keeps to anything weaker than what it keeps to. -/
theorem Ensures.mono {may' : Q → Prop} {post' : α → Prop} {p : Program A α}
    (hp : p.Ensures may replies post) (hmay : ∀ q, may q → may' q)
    (hpost : ∀ a, post a → post' a) : p.Ensures may' replies post' := by
  induction p with
  | done a => exact hpost a hp
  | note n next ih => exact ih hp
  | rest next ih => exact ih hp
  | ask q next ih => exact ⟨hmay q hp.1, fun a ha => ih a (hp.2 a ha)⟩

/-- What a program keeps to, it keeps to if fewer answers are expected. -/
theorem Ensures.expecting {replies' : (q : Q) → A q → Prop} {p : Program A α}
    (hp : p.Ensures may replies post) (hreplies : ∀ q a, replies' q a → replies q a) :
    p.Ensures may replies' post := by
  induction p with
  | done a => exact hp
  | note n next ih => exact ih hp
  | rest next ih => exact ih hp
  | ask q next ih => exact ⟨hp.1, fun a ha => ih a (hp.2 a (hreplies q a ha))⟩

/-! ### Along a run -/

variable {answers : Answers A σ}

/-- One step leads to a program that keeps to the same, if the answers in this state are as they are
expected to be. -/
theorem Ensures.step {p : Program A α} (hp : p.Ensures may replies post) (s : σ)
    (hreply : ∀ q, may q → replies q ((answers q).run s).value.1) :
    ((p.step answers).run s).value.1.Ensures may replies post := by
  cases p with
  | done a => exact hp
  | note n next => exact hp
  | rest next => exact hp
  | ask q next => exact hp.2 _ (hreply q hp.1)

/-- One step keeps every property of the state that answering its requests keeps. -/
theorem Ensures.step_state {p : Program A α} (hp : p.Ensures may replies post) {I : σ → Prop}
    {s : σ} (hs : I s) (hkeep : ∀ q, may q → I ((answers q).run s).value.2) :
    I ((p.step answers).run s).value.2 := by
  cases p with
  | done a => exact hs
  | note n next => exact hs
  | rest next => exact hs
  | ask q next => exact hkeep q hp.1

/-- A run to the end gives a value that satisfies `post`, and keeps every invariant of the state
that answering the requests keeps. -/
theorem Ensures.run {p : Program A α} (hp : p.Ensures may replies post) {I : σ → Prop}
    (hanswer : ∀ q, may q → ∀ s, I s →
      replies q ((answers q).run s).value.1 ∧ I ((answers q).run s).value.2)
    {s : σ} (hs : I s) :
    post ((p.run answers).run s).value.1 ∧ I ((p.run answers).run s).value.2 := by
  induction p generalizing s with
  | done a => exact ⟨hp, hs⟩
  | note n next ih => exact ih hp hs
  | rest next ih => exact ih hp hs
  | ask q next ih =>
      obtain ⟨hreply, hkeep⟩ := hanswer q hp.1 s hs
      exact ih _ (hp.2 _ hreply) hkeep

end Laws

/-! ### Answers that stay the same -/

/-- The value of a program whose requests are answered the same at all times. -/
def eval (reply : (q : Q) → A q) : Program A α → α
  | done a => a
  | note _ next => next.eval reply
  | rest next => next.eval reply
  | ask q next => (next (reply q)).eval reply

section Eval
variable {reply : (q : Q) → A q}

/-- A value is its own value. -/
@[simp] theorem eval_pure (a : α) : (pure a : Program A α).eval reply = a := rfl

/-- A request has the value of its answer. -/
@[simp] theorem eval_request (q : Q) : (request q : Program A (A q)).eval reply = reply q := rfl

/-- A log line has no value. -/
@[simp] theorem eval_log (level : Level) (message : String) :
    (log level message : Program A Unit).eval reply = () := rfl

/-- A sequence has the value of its rest, which goes on with the value of its first part. -/
@[simp] theorem eval_bind (p : Program A α) (f : α → Program A β) :
    (p >>= f).eval reply = (f (p.eval reply)).eval reply := by
  show (p.bind f).eval reply = _
  induction p with
  | done a => rfl
  | note n next ih => exact ih
  | rest next ih => exact ih
  | ask q next ih => exact ih _

/-- Along every path with these answers a program has that one value. -/
theorem Ensures.eval {may : Q → Prop} {post : α → Prop} {p : Program A α}
    (hp : p.Ensures may (fun q a => a = reply q) post) :
    p.Ensures may (fun q a => a = reply q) fun a => a = p.eval reply := by
  induction p with
  | done a => exact rfl
  | note n next ih => exact ih hp
  | rest next ih => exact ih hp
  | ask q next ih =>
      refine ⟨hp.1, ?_⟩
      rintro a rfl
      exact ih _ (hp.2 _ rfl)

end Eval

/-! ### Programs that never rest -/

/-- A program that never rests. -/
def Restless : Program A α → Prop
  | done _ => True
  | note _ next => next.Restless
  | rest _ => False
  | ask _ next => ∀ a, (next a).Restless

/-- A step of a program that never rests leads to another one. -/
theorem Restless.step {p : Program A α} (hp : p.Restless) (answers : Answers A σ) (s : σ) :
    ((p.step answers).run s).value.1.Restless := by
  cases p with
  | done a => exact hp
  | note n next => exact hp
  | rest next => exact hp.elim
  | ask q next => exact hp _

/-- A program that never rests is polled to its end. -/
theorem poll_of_restless {p : Program A α} (hp : p.Restless) (answers : Answers A σ) (s : σ) :
    ((p.poll answers).run s).value
      = (.inl ((p.run answers).run s).value.1, ((p.run answers).run s).value.2) := by
  induction p generalizing s with
  | done a => rfl
  | note n next ih => exact ih hp s
  | rest next => exact hp.elim
  | ask q next ih => exact ih _ (hp _) _

end IngressController.Program
