import IngressController.Proofs.Status.Leading
import IngressController.Proofs.Status.Stored

/-!
# `IngressController.Proofs.Status.Moments`: what a pass asks in the course of some moments

A run of a pass is a list of moments, the hosts in which it makes its steps. Nothing is said about
how one of these hosts comes out of the other, so anything can happen in between. This module tells
what a pass asks on the way and what it leaves behind.

* `Pass.steps` and `Pass.requests`: what it asks in each moment.
* `WritesAlone`: nobody else writes an Ingress in the meantime.
* `through_bind`: a decision that begins with a program makes the steps of this program first.
* `through_publishing`: so a pass of a leader finds the running addresses and then asks for the
  watched Ingresses, or is still on its way.
-/

set_option autoImplicit false

namespace IngressController.Status

open Object

/-- Whether a request is a call about an Ingress. -/
def Ask.isAboutIngress : Ask → Bool
  | .call c => c.isAboutIngress
  | _ => false

/-- Whether a request asks for the watched Ingresses. -/
def Ask.isIngresses : Ask → Bool
  | .ingresses => true
  | _ => false

section Moments

variable {κ : Type} (s : Surroundings κ)

/-! ### Steps and requests -/

/-- The host after the step of a pass in a moment. -/
def Pass.hostAfter (p : Pass) (m : Moment κ) : Host κ :=
  ((p.advance (Host.answers s) m.position).run m.host).value.2

/-- What a pass asks in each of some moments. -/
def Pass.steps (p : Pass) : List (Moment κ) → List (Option Ask × Moment κ)
  | [] => []
  | m :: ms => (p.request? m.position, m) :: (p.after s m).steps ms

/-- All that a pass asks in the course of some moments. -/
def Pass.requests (p : Pass) (ms : List (Moment κ)) : List Ask :=
  (p.steps s ms).filterMap (·.1)

/-- A program after its steps in some moments. -/
def Task.through {α : Type} (x : Task α) (ms : List (Moment κ)) : Task α :=
  ms.foldl (fun x m => ((x.step (Host.answers s)).run m.host).value.1) x

variable {s}

theorem Pass.through_append (p : Pass) (ms ms' : List (Moment κ)) :
    p.through s (ms ++ ms') = (p.through s ms).through s ms' :=
  List.foldl_append ..

theorem Pass.steps_append (p : Pass) (ms ms' : List (Moment κ)) :
    p.steps s (ms ++ ms') = p.steps s ms ++ (p.through s ms).steps s ms' := by
  induction ms generalizing p with
  | nil => rfl
  | cons m ms ih => exact congrArg ((p.request? m.position, m) :: ·) (ih (p.after s m))

theorem Pass.requests_append (p : Pass) (ms ms' : List (Moment κ)) :
    p.requests s (ms ++ ms') = p.requests s ms ++ (p.through s ms).requests s ms' := by
  rw [requests, steps_append, List.filterMap_append]
  rfl

/-- A pass that has ended asks for nothing and stays as it is. -/
theorem Pass.through_ended (result : Except Error (List UpdateOutcome)) (ms : List (Moment κ)) :
    (ended result).through s ms = ended result := by
  induction ms with
  | nil => rfl
  | cons m ms ih => exact ih

/-- A program that has ended stays as it is. -/
theorem Task.through_done {α : Type} (a : α) (ms : List (Moment κ)) :
    Task.through s (.done a) ms = .done a := by
  induction ms with
  | nil => rfl
  | cons m ms ih => exact ih

theorem Task.through_append {α : Type} (x : Task α) (ms ms' : List (Moment κ)) :
    Task.through s x (ms ++ ms') = Task.through s (Task.through s x ms) ms' :=
  List.foldl_append ..

/-- What every step of a pass keeps in any host, it keeps in the course of any moments. -/
theorem Pass.through_invariant {I : Pass → Prop}
    (hstep : ∀ {p : Pass} (m : Moment κ), I p → I (p.after s m)) {p : Pass} (hp : I p)
    (ms : List (Moment κ)) : I (p.through s ms) := by
  induction ms generalizing p with
  | nil => exact hp
  | cons m ms ih => exact ih (hstep m hp)

/-! ### Sequences -/

/-- All requests of a pass in the course of some moments satisfy a property. -/
def Pass.RequestsOnly (p : Pass) (s : Surroundings κ) (may : Ask → Prop) (ms : List (Moment κ)) :
    Prop :=
  ∀ q ∈ p.requests s ms, may q

theorem Pass.requestsOnly_cons {p : Pass} {may : Ask → Prop} {m : Moment κ}
    {ms : List (Moment κ)} : p.RequestsOnly s may (m :: ms)
      ↔ (∀ q, p.request? m.position = some q → may q) ∧ (p.after s m).RequestsOnly s may ms := by
  rw [RequestsOnly, requests, steps, List.filterMap_cons]
  cases p.request? m.position with
  | none => exact ⟨fun h => ⟨fun q hq => (nomatch hq), h⟩, And.right⟩
  | some q =>
      show (∀ q' ∈ q :: (p.after s m).requests s ms, may q') ↔ _
      rw [List.forall_mem_cons]
      refine and_congr ⟨fun h q' hq' => ?_, fun h => h q rfl⟩ Iff.rfl
      cases hq'
      exact h

theorem Pass.requestsOnly_append {p : Pass} {may : Ask → Prop} {ms ms' : List (Moment κ)} :
    p.RequestsOnly s may (ms ++ ms')
      ↔ p.RequestsOnly s may ms ∧ (p.through s ms).RequestsOnly s may ms' := by
  rw [RequestsOnly, requests_append, List.forall_mem_append]
  rfl

/-- If every step of a pass keeps an invariant in any host and makes no other requests, no others
are made in the course of any moments. -/
theorem Pass.requestsOnly_of_invariant {I : Pass → Prop} {may : Ask → Prop}
    (hstep : ∀ {p : Pass} (m : Moment κ), I p → I (p.after s m))
    (hasks : ∀ {p : Pass} (position : Nat) {q : Ask}, I p → p.request? position = some q → may q)
    {p : Pass} (hp : I p) (ms : List (Moment κ)) : p.RequestsOnly s may ms := by
  induction ms generalizing p with
  | nil => exact fun q hq => nomatch hq
  | cons m ms ih =>
      exact requestsOnly_cons.mpr ⟨fun q hq => hasks m.position hp hq, ih (hstep m hp)⟩

/-- A pass that has ended makes no requests. -/
theorem Pass.requestsOnly_ended (result : Except Error (List UpdateOutcome)) (may : Ask → Prop)
    (ms : List (Moment κ)) : (ended result).RequestsOnly s may ms :=
  requestsOnly_of_invariant (I := fun p => p = ended result) (by rintro p m rfl; rfl)
    (by rintro p position q rfl hq; cases hq) rfl ms

/-- A decision that begins with a program either is on the way through the program, or it has come
to its end and has gone on from there. Until then it makes the requests of the program. -/
theorem Pass.through_bind {α : Type} {may : Ask → Prop} {x : Task α}
    (hx : x.Ensures may (fun _ _ => True) fun _ => True) (k : α → Decision)
    (ms : List (Moment κ)) :
    (∃ d, (deciding (x.bind k)).through s ms = deciding d
        ∧ (deciding (x.bind k)).RequestsOnly s may ms)
      ∨ ∃ ms' ms'' a, ms = ms' ++ ms'' ∧ Task.through s x ms' = .done a
        ∧ (deciding (x.bind k)).through s ms' = deciding (k a)
        ∧ (deciding (x.bind k)).RequestsOnly s may ms' := by
  have hnone : ∀ p : Pass, p.RequestsOnly s may [] := fun p q hq => nomatch hq
  induction ms generalizing x with
  | nil =>
      cases x with
      | done a => exact .inr ⟨[], [], a, rfl, rfl, rfl, hnone _⟩
      | note n next => exact .inl ⟨_, rfl, hnone _⟩
      | rest next => exact .inl ⟨_, rfl, hnone _⟩
      | ask q next => exact .inl ⟨_, rfl, hnone _⟩
  | cons m ms ih =>
      -- A step of the decision is a step of the program, as long as this has not ended.
      have hgoesOn : (deciding (x.bind k)).after s m
            = deciding (((x.step (Host.answers s)).run m.host).value.1.bind k) →
          (∀ q, (deciding (x.bind k)).request? m.position = some q → may q) →
          (∃ d, (deciding (x.bind k)).through s (m :: ms) = deciding d
              ∧ (deciding (x.bind k)).RequestsOnly s may (m :: ms))
            ∨ ∃ ms' ms'' a, m :: ms = ms' ++ ms'' ∧ Task.through s x ms' = .done a
              ∧ (deciding (x.bind k)).through s ms' = deciding (k a)
              ∧ (deciding (x.bind k)).RequestsOnly s may ms' := by
        intro hafter hmay
        have hx' : ((x.step (Host.answers s)).run m.host).value.1.Ensures may (fun _ _ => True)
            fun _ => True := Program.Ensures.step hx m.host fun _ _ => trivial
        obtain ⟨d, hthrough, honly⟩ | ⟨ms', ms'', a, rfl, hprogram, hthrough, honly⟩ := ih hx'
        · rw [← hafter] at hthrough honly
          exact .inl ⟨d, hthrough, requestsOnly_cons.mpr ⟨hmay, honly⟩⟩
        · rw [← hafter] at hthrough honly
          exact .inr ⟨m :: ms', ms'', a, rfl, hprogram, hthrough,
            requestsOnly_cons.mpr ⟨hmay, honly⟩⟩
      cases x with
      | done a => exact .inr ⟨[], m :: ms, a, rfl, rfl, rfl, hnone _⟩
      | note n next => exact hgoesOn rfl fun q hq => nomatch hq
      | rest next => exact hgoesOn rfl fun q hq => nomatch hq
      | ask q next =>
          refine hgoesOn rfl fun q' hq' => ?_
          cases hq'
          exact hx.1

/-! ### The beginning of a pass -/

/-- A host that leads and does not shut down. -/
structure Host.Leads (h : Host κ) : Prop where
  leading : h.leadership.leading = true
  queueOpen : h.queue.shuttingDown = false
  goesOn : h.passesEnd = false

/-- A pass that has found the running addresses, and goes on to ask for the watched Ingresses. -/
def Pass.found (setting : Setting) (addresses : List String) : Pass :=
  Pass.ofUpdates (updates setting.config setting.custom .endOfPasses (entriesOf addresses))

/-- The search of a pass for the running addresses, which begins after the two questions whether the
host shuts down and whether it leads. -/
def Setting.search (setting : Setting) (s : Surroundings κ) (ms : List (Moment κ)) :
    Task (Except Error (List String)) :=
  Task.through s (runningAddresses setting.config setting.pod) (ms.drop 2)

/-- What a pass decides once its search has ended. -/
def Setting.afterSearch (setting : Setting) : Except Error (List String) → Decision
  | .error e => return .error e
  | .ok addresses =>
    return .ok (← updates setting.config setting.custom .endOfPasses (entriesOf addresses))

/-- A pass of a leader looks whether the host shuts down, and then whether it leads. -/
theorem after_publishing (setting : Setting) {m₁ m₂ : Moment κ} (h₁ : m₁.host.Leads)
    (h₂ : m₂.host.Leads) :
    ((Pass.publishing setting).after s m₁).request? m₂.position = some .leading
      ∧ ((Pass.publishing setting).after s m₁).after s m₂
        = .deciding ((runningAddresses setting.config setting.pod).bind setting.afterSearch) := by
  have hopen : (Pass.publishing setting).after s m₁
      = .deciding (.ask Ask.leading fun leading => if !leading then
          .note (.log .debug "skipping Ingress status update (I am not the current leader)")
            (.done (.ok []))
        else (runningAddresses setting.config setting.pod).bind setting.afterSearch) := by
    show Pass.deciding (if m₁.host.queue.shuttingDown = true then _ else _) = _
    rw [h₁.queueOpen]
    rfl
  rw [hopen]
  refine ⟨rfl, ?_⟩
  show Pass.deciding (if (!m₂.host.leadership.leading) = true then _ else _) = _
  rw [h₂.leading]
  rfl

/-- After these two moments it searches for the running addresses. -/
theorem through_publishing_search (setting : Setting) {m₁ m₂ : Moment κ} (h₁ : m₁.host.Leads)
    (h₂ : m₂.host.Leads) (ms : List (Moment κ)) :
    (Pass.publishing setting).through s (m₁ :: m₂ :: ms)
      = (Pass.deciding ((runningAddresses setting.config setting.pod).bind
          setting.afterSearch)).through s ms := by
  rw [Pass.through_cons, Pass.through_cons, (after_publishing setting h₁ h₂).2]

/-- Until then it makes no call at all. -/
theorem requestsOnly_publishing_search (setting : Setting) {m₁ m₂ : Moment κ}
    (h₁ : m₁.host.Leads) (h₂ : m₂.host.Leads) (ms : List (Moment κ)) :
    (Pass.publishing setting).RequestsOnly s (·.isAboutIngress = false) (m₁ :: m₂ :: ms)
      ↔ (Pass.deciding ((runningAddresses setting.config setting.pod).bind
          setting.afterSearch)).RequestsOnly s (·.isAboutIngress = false) ms := by
  obtain ⟨hleading, hafter⟩ := after_publishing (s := s) setting h₁ h₂
  rw [Pass.requestsOnly_cons, Pass.requestsOnly_cons, hafter]
  refine ⟨fun h => h.2.2, fun h => ⟨fun q hq => ?_, fun q hq => ?_, h⟩⟩
  · cases hq
    rfl
  · rw [hleading] at hq
    cases hq
    rfl

/-- In the course of some moments in which the host leads, a pass still decides, or it has failed,
or it has found the running addresses before and then gone on. Until then it makes no call about an
Ingress. -/
theorem through_publishing (setting : Setting) {ms : List (Moment κ)}
    (hleads : ∀ m ∈ ms, m.host.Leads) :
    (∃ d, (Pass.publishing setting).through s ms = .deciding d
        ∧ (Pass.publishing setting).RequestsOnly s (·.isAboutIngress = false) ms)
      ∨ (∃ e, (Pass.publishing setting).through s ms = .ended (.error e)
        ∧ (Pass.publishing setting).RequestsOnly s (·.isAboutIngress = false) ms)
      ∨ ∃ ms' m ms'' addresses, ms = ms' ++ m :: ms''
        ∧ (Pass.publishing setting).through s ms' = .found setting addresses
        ∧ (Pass.publishing setting).RequestsOnly s (·.isAboutIngress = false) ms'
        ∧ setting.search s ms = .done (.ok addresses) := by
  match ms, hleads with
  | [], _ => exact .inl ⟨_, rfl, fun q hq => nomatch hq⟩
  | [m₁], _ =>
      refine .inl ⟨_, rfl, Pass.requestsOnly_cons.mpr ⟨fun q hq => ?_, fun q hq => nomatch hq⟩⟩
      cases hq
      rfl
  | m₁ :: m₂ :: ms, hleads =>
      have hsearch := through_publishing_search (s := s) setting (hleads m₁ (by simp))
        (hleads m₂ (by simp))
      have honly := requestsOnly_publishing_search (s := s) setting (hleads m₁ (by simp))
        (hleads m₂ (by simp))
      have hquiet : (runningAddresses setting.config setting.pod).Ensures
          (fun q : Ask => q.isAboutIngress = false) (fun _ _ => True) fun _ => True :=
        ensures_runningAddresses (fun _ hc => hc) setting.config setting.pod
      obtain ⟨d, hthrough, hquiet⟩ | ⟨ms', ms'', found, rfl, hprogram, hthrough, hquiet⟩ :=
        Pass.through_bind (s := s) hquiet setting.afterSearch ms
      · exact .inl ⟨d, (hsearch ms).trans hthrough, (honly ms).mpr hquiet⟩
      · have hdone : setting.search s (m₁ :: m₂ :: (ms' ++ ms'')) = .done found := by
          show Task.through s _ (ms' ++ ms'') = _
          rw [Task.through_append, hprogram, Task.through_done]
        cases ms'' with
        | nil =>
            rw [List.append_nil]
            exact .inl ⟨_, (hsearch ms').trans hthrough, (honly ms').mpr hquiet⟩
        | cons m ms'' =>
            cases found with
            | error e =>
                refine .inr (.inl ⟨e, ?_, (honly _).mpr ?_⟩)
                · rw [hsearch, Pass.through_append, hthrough]
                  exact Pass.through_ended (.error e) ms''
                · refine Pass.requestsOnly_append.mpr ⟨hquiet, ?_⟩
                  rw [hthrough]
                  exact Pass.requestsOnly_cons.mpr ⟨fun q hq => (nomatch hq),
                    Pass.requestsOnly_ended (.error e) _ ms''⟩
            | ok addresses =>
                exact .inr (.inr ⟨m₁ :: m₂ :: ms', m, ms'', addresses, rfl,
                  (hsearch ms').trans hthrough, (honly ms').mpr hquiet, hdone⟩)

end Moments

end IngressController.Status
