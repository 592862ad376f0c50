import IngressController.Proofs.Status.Moments
import IngressController.Proofs.Status.Undisturbed

/-!
# `IngressController.Proofs.Status.Rounds`: passes of a leader that alone writes Ingresses

A `Round` is a run of a pass by a leader that lists the Ingresses as the cluster has them. Between
its steps everything else may change: pods, nodes, Services, which calls fail, and what is watched
before and after it is listed.

The shortest way to a round is to let a leader alone. `Pass.momentsFrom` is such a run, in any order
of its steps.

* `WritesAlone`: nobody but the pass writes an Ingress, and `WritesAlone.holds`: so what the pass
  itself keeps lasts.
* `Unhindered.round`: a leader that is let alone makes a round, and the addresses that it finds are
  those that its host answers when it begins.
* `Unhindered.exists_round`: made to its end, it is one without a failed update.
-/

set_option autoImplicit false

namespace IngressController.Status

open Object

/-! ### Rounds -/

/-- A pass is the only one who writes Ingresses in the course of some moments: from what is stored
at first to what is stored at last, every step begins with what the one before has left. -/
inductive WritesAlone :
    Pass → TextMap Ingress → List (Moment Scene) → TextMap Ingress → Prop where
  | ends (p : Pass) (stored : TextMap Ingress) : WritesAlone p stored [] stored
  | goesOn {p : Pass} {m : Moment Scene} {ms : List (Moment Scene)} {last : TextMap Ingress}
      (rest : WritesAlone (p.after Scene.surroundings m)
        (p.hostAfter Scene.surroundings m).around.cluster.ingresses ms last) :
      WritesAlone p m.host.around.cluster.ingresses (m :: ms) last

/-- A run of a pass, from what the cluster stores at first to what it stores at last:

- `alone`: nobody but the pass writes an Ingress;
- `leads`: the host leads, and does not shut down;
- `lists`: when the pass asks for the watched Ingresses, they are those of the cluster in some
  order;
- `finds`: the running addresses that it finds are the given ones in some order. -/
structure Round (setting : Setting) (addresses : List String) (ms : List (Moment Scene))
    (first last : TextMap Ingress) : Prop where
  alone : WritesAlone (.publishing setting) first ms last
  leads : ∀ m ∈ ms, m.host.Leads
  lists : ∀ x ∈ (Pass.publishing setting).steps Scene.surroundings ms,
    x.1.any Ask.isIngresses = true →
      x.2.host.around.watched.Perm x.2.host.around.cluster.ingresses.values
  finds : ∀ found, setting.search Scene.surroundings ms = .done (.ok found) →
    found.Perm addresses

/-- Whether a pass has ended and no update of it has failed. -/
def Pass.succeeded : Pass → Bool
  | ended (.ok outcomes) => !outcomes.contains .failed
  | _ => false

namespace WritesAlone

variable {p : Pass} {first last : TextMap Ingress} {ms ms' : List (Moment Scene)}

/-- Who writes alone does so up to each moment and from there on. -/
theorem append_iff : WritesAlone p first (ms ++ ms') last
    ↔ ∃ mid, WritesAlone p first ms mid
      ∧ WritesAlone (p.through Scene.surroundings ms) mid ms' last := by
  induction ms generalizing p first with
  | nil =>
      constructor
      · exact fun h => ⟨first, .ends p first, h⟩
      · rintro ⟨mid, hmid, h⟩
        cases hmid
        exact h
  | cons m ms ih =>
      constructor
      · intro h
        cases h with
        | goesOn rest =>
            obtain ⟨mid, hmid, h⟩ := ih.mp rest
            exact ⟨mid, .goesOn hmid, h⟩
      · rintro ⟨mid, hmid, h⟩
        cases hmid with
        | goesOn rest => exact .goesOn (ih.mpr ⟨mid, rest, h⟩)

/-- A step without a call about an Ingress leaves what is stored. -/
theorem ingresses_hostAfter {p : Pass} {m : Moment Scene}
    (hquiet : ∀ q, p.request? m.position = some q → q.isAboutIngress = false) :
    (p.hostAfter Scene.surroundings m).around.cluster.ingresses
      = m.host.around.cluster.ingresses := by
  rw [Pass.hostAfter, Pass.value_advance_snd]
  cases hrequest : p.request? m.position with
  | none => rfl
  | some q =>
      cases q with
      | call c =>
          have hc : c.isAboutIngress = false := hquiet _ hrequest
          exact congrArg Prod.fst (m.host.around.cluster.stored_answer hc)
      | ingresses => rfl
      | leading => rfl
      | shuttingDown => rfl
      | cancelled token => cases token <;> rfl

/-- Who makes no call about an Ingress leaves what is stored. -/
theorem eq_of_quiet (h : WritesAlone p first ms last)
    (hquiet : p.RequestsOnly Scene.surroundings (·.isAboutIngress = false) ms) : last = first := by
  induction h with
  | ends p stored => rfl
  | goesOn rest ih =>
      obtain ⟨hm, hms⟩ := Pass.requestsOnly_cons.mp hquiet
      exact (ih hms).trans (ingresses_hostAfter hm)

/-- An invariant that holds of every leader with what is stored at first holds of every leader with
what is stored at last, if it speaks of nothing else. -/
theorem holds (h : WritesAlone p first ms last) (I : PassInvariant Scene.surroundings)
    (hleads : ∀ m ∈ ms, m.host.Leads)
    (hfree : ∀ {p : Pass} {h h' : Host Scene}, I.Holds p h →
      h'.around.cluster.ingresses = h.around.cluster.ingresses → h'.passesEnd = false →
      I.Holds p h')
    (hfirst : ∀ h : Host Scene, h.around.cluster.ingresses = first → h.passesEnd = false →
      I.Holds p h) {h' : Host Scene} (hstored : h'.around.cluster.ingresses = last)
    (hgoesOn : h'.passesEnd = false) : I.Holds (p.through Scene.surroundings ms) h' := by
  induction h with
  | ends p stored => exact hfirst h' hstored hgoesOn
  | @goesOn p m ms last rest ih =>
      have hm := hfirst m.host rfl (hleads m (List.mem_cons_self ..)).goesOn
      refine ih (fun m' hm' => hleads m' (List.mem_cons_of_mem _ hm')) (fun h hh hend => ?_)
        hstored
      exact hfree (I.advance hm m.position) hh hend

end WritesAlone

/-! ### Runs of a pass that goes on by itself -/

/-- The moments of a run that goes on from a host by itself, in an order of positions. -/
def Pass.momentsFrom (p : Pass) (h : Host Scene) : List Nat → List (Moment Scene)
  | [] => []
  | position :: order => ⟨h, position⟩ ::
      (p.after Scene.surroundings ⟨h, position⟩).momentsFrom
        (p.hostAfter Scene.surroundings ⟨h, position⟩) order

section Moments

variable {p : Pass} {h : Host Scene}

/-- Such a run leads to where the order of positions leads. -/
theorem through_momentsFrom (p : Pass) (h : Host Scene) (order : List Nat) :
    p.through Scene.surroundings (p.momentsFrom h order)
      = (Pass.follow (Host.answers Scene.surroundings) order (p, h)).1 := by
  induction order generalizing p h with
  | nil => rfl
  | cons position order ih => exact ih _ _

/-- In such a run nobody else writes an Ingress. -/
theorem writesAlone_momentsFrom (p : Pass) (h : Host Scene) (order : List Nat) :
    WritesAlone p h.around.cluster.ingresses (p.momentsFrom h order)
      (Pass.follow (Host.answers Scene.surroundings) order (p, h)).2.around.cluster.ingresses := by
  induction order generalizing p h with
  | nil => exact .ends p _
  | cons position order ih =>
      have hrest := ih (p.after Scene.surroundings ⟨h, position⟩)
        (p.hostAfter Scene.surroundings ⟨h, position⟩)
      exact WritesAlone.goesOn (m := ⟨h, position⟩) hrest

/-- All else stays as it was, at the end of such a run. -/
theorem steady_follow (p : Pass) (h : Host Scene) (order : List Nat) :
    Host.Steady h (Pass.follow (Host.answers Scene.surroundings) order (p, h)).2 :=
  Pass.follow_invariant (I := fun _ => Host.Steady h)
    (fun position hs => Pass.advance_state (fun q _ hq => hq.answer q) _ position hs) order
    (x := (p, h)) (Host.Steady.refl h)

/-- So it does at each moment of it. -/
theorem steady_of_mem_momentsFrom {h₀ : Host Scene} (hs : Host.Steady h₀ h) {order : List Nat}
    {m : Moment Scene} (hm : m ∈ p.momentsFrom h order) : Host.Steady h₀ m.host := by
  induction order generalizing p h with
  | nil => cases hm
  | cons position order ih =>
      cases hm with
      | head => exact hs
      | tail _ hm =>
          exact ih (Pass.advance_state (fun q _ hq => hq.answer q) p position hs) hm

/-- What is asked in such a run is asked by a pass with the invariants of the first one. -/
theorem exists_of_mem_steps_momentsFrom (I : PassInvariant Scene.surroundings)
    (hp : I.Holds p h) {order : List Nat} {x : Option Ask × Moment Scene}
    (hx : x ∈ p.steps Scene.surroundings (p.momentsFrom h order)) :
    ∃ q, I.Holds q x.2.host ∧ q.request? x.2.position = x.1 := by
  induction order generalizing p h with
  | nil => cases hx
  | cons position order ih =>
      cases hx with
      | head => exact ⟨p, hp, rfl⟩
      | tail _ hx => exact ih (I.advance hp position) hx

/-- A program whose requests are answered in some moments as in a host comes to the end that it has
in this host. -/
theorem ensures_through {α : Type} {post : α → Prop} {x : Task α}
    (hx : x.Ensures Ask.IsSteady (fun q a => a = h.reply q) post) {ms : List (Moment Scene)}
    (hms : ∀ m ∈ ms, Host.Steady h m.host) :
    (Task.through Scene.surroundings x ms).Ensures Ask.IsSteady (fun q a => a = h.reply q)
      post := by
  induction ms generalizing x with
  | nil => exact hx
  | cons m ms ih =>
      obtain ⟨hm, hms⟩ := List.forall_mem_cons.mp hms
      exact ih (hx.step m.host fun _ hq => hm.reply hq) hms

end Moments

/-! ### A leader that is let alone -/

/-- A leader that begins a pass with nothing in its way:

- `leads`: it leads, and does not shut down;
- `succeed`: no call fails;
- `keyed` and `watched`: the cluster stores each Ingress under its key, and these are watched as
  they are;
- `finds`: the running addresses are the given ones in this order. -/
structure Unhindered (setting : Setting) (found : List String) (h : Host Scene) : Prop where
  leads : h.Leads
  succeed : h.around.cluster.failing = []
  keyed : h.around.cluster.Keyed
  watched : h.around.watched.Perm h.around.cluster.ingresses.values
  finds : (runningAddresses setting.config setting.pod).eval h.reply = .ok found

/-- An update does not ask for the watched Ingresses. -/
theorem Stage.request?_ne_ingresses (job : Job) (st : Stage) :
    st.request? job ≠ some .ingresses := by
  cases st <;> exact fun h => nomatch h

namespace Unhindered

variable {setting : Setting} {found : List String} {h : Host Scene}

/-- Such a leader leads at all moments of its pass. -/
theorem leads_of_steady (hu : Unhindered setting found h) {h' : Host Scene}
    (hs : Host.Steady h h') : h'.Leads where
  leading := by rw [hs.leadership]; exact hu.leads.leading
  queueOpen := by rw [hs.queue]; exact hu.leads.queueOpen
  goesOn := hs.passesEnd.trans hu.leads.goesOn

/-- It decides to update the managed Ingresses to the addresses. -/
theorem decidesOn (hu : Unhindered setting found h) :
    StoredProperty.DecidesOn h (fun r => r = .ok
      ((h.around.watched.filter setting.config.manages).map
        (update setting.custom .endOfPasses (entriesOf found)))) (decidePass setting) := by
  have heval : (decidePass setting).eval h.reply = .ok
      ((h.around.watched.filter setting.config.manages).map
        (update setting.custom .endOfPasses (entriesOf found))) := by
    have hopen : h.reply .shuttingDown = false := hu.leads.queueOpen
    have hleading : h.reply .leading = true := hu.leads.leading
    rw [decidePass, Program.eval_bind, Program.eval_request, hopen]
    show Program.eval h.reply (Program.request Ask.leading >>= _) = _
    rw [Program.eval_bind, Program.eval_request, hleading]
    show Program.eval h.reply (runningAddresses setting.config setting.pod >>= _) = _
    rw [Program.eval_bind, hu.finds]
    rfl
  rw [← heval]
  exact ((ensures_decidePass setting).expecting fun _ _ _ => trivial).eval

/-- The invariant of its pass. -/
def invariant (hu : Unhindered setting found h) : PassInvariant Scene.surroundings :=
  undisturbedInvariant setting (entriesOf found)
    (show Token.endOfPasses.Idle h from hu.leads.goesOn) hu.keyed
    ((hu.watched.map _).nodup_iff.mpr (nodup_map_key hu.keyed))

/-- The pass satisfies it when it begins. -/
theorem holds_publishing (hu : Unhindered setting found h) :
    hu.invariant.Holds (.publishing setting) h :=
  ⟨Host.Steady.refl h, rfl, hu.decidesOn⟩

/-- What its search ends with are the addresses. -/
theorem eq_of_search (hu : Unhindered setting found h) {order : List Nat}
    {result : Except Error (List String)}
    (hsearch : setting.search Scene.surroundings ((Pass.publishing setting).momentsFrom h order)
      = .done result) : result = .ok found := by
  have hasks : (runningAddresses setting.config setting.pod).Ensures Ask.IsSteady
      (fun q a => a = h.reply q) fun _ => True :=
    ensures_runningAddresses (fun _ hc => hc) setting.config setting.pod
  have hsteady : ∀ m ∈ ((Pass.publishing setting).momentsFrom h order).drop 2,
      Host.Steady h m.host := fun m hm =>
    steady_of_mem_momentsFrom (Host.Steady.refl h) (List.mem_of_mem_drop hm)
  have hend := ensures_through hasks.eval hsteady
  rw [Setting.search] at hsearch
  rw [hsearch] at hend
  exact hend.trans hu.finds

/-- When it asks for the watched Ingresses, they are those of the cluster. -/
theorem perm_of_asks (hu : Unhindered setting found h) {order : List Nat}
    {x : Option Ask × Moment Scene}
    (hx : x ∈ (Pass.publishing setting).steps Scene.surroundings
      ((Pass.publishing setting).momentsFrom h order))
    (hasks : x.1.any Ask.isIngresses = true) :
    x.2.host.around.watched.Perm x.2.host.around.cluster.ingresses.values := by
  obtain ⟨q, hq, hrequest⟩ := exists_of_mem_steps_momentsFrom hu.invariant hu.holds_publishing hx
  obtain ⟨a, ha, hisIngresses⟩ := (Option.any_eq_true ..).mp hasks
  obtain rfl : a = .ingresses := by
    cases a <;> first | rfl | cases hisIngresses
  obtain ⟨next, rfl⟩ | ⟨b, rfl, hunit⟩ := Pass.request?_cases (hrequest.trans ha)
  · -- The pass still decides, so nothing has been stored.
    obtain ⟨hsteady, hstored, -⟩ := hq
    exact hsteady.perm_watched hstored hu.watched
  · obtain ⟨es, hruns, -⟩ := hq
    obtain ⟨e, -, he⟩ := hruns.exists_ask hunit
    exact absurd he (Stage.request?_ne_ingresses e.job e.stage)

/-- A leader that is let alone makes a round, in every order of the steps of its pass. -/
theorem round (hu : Unhindered setting found h) {addresses : List String}
    (hperm : found.Perm addresses) (order : List Nat) :
    Round setting addresses ((Pass.publishing setting).momentsFrom h order)
      h.around.cluster.ingresses
      (Pass.follow (Host.answers Scene.surroundings) order
        (.publishing setting, h)).2.around.cluster.ingresses where
  alone := writesAlone_momentsFrom (.publishing setting) h order
  leads _ hm := hu.leads_of_steady (steady_of_mem_momentsFrom (Host.Steady.refl h) hm)
  lists _ hx hasks := hu.perm_of_asks hx hasks
  finds _ hsearch := by
    cases hu.eq_of_search hsearch
    exact hperm

/-- If its pass has ended, no update of it has failed. -/
theorem succeeded_of_ended (hu : Unhindered setting found h) {h' : Host Scene}
    {result : Except Error (List UpdateOutcome)}
    (hheld : hu.invariant.Holds (.ended result) h') : (Pass.ended result).succeeded = true := by
  obtain ⟨outcomes, h₁, rfl, hsteady, hstored, hpublication⟩ := publication_of_undisturbed hheld
  have hnone := hpublication.ne_failed (hsteady.failing_eq.trans hu.succeed)
    (hsteady.keyed hu.keyed) (hsteady.perm_watched hstored hu.watched)
  rw [Pass.succeeded, Bool.not_eq_true']
  exact Bool.eq_false_iff.mpr fun hcontains => hnone _ (List.contains_iff_mem.mp hcontains) rfl

/-- Made to its end, its pass is a round without a failed update, which has found the addresses and
keeps every Ingress under its key. -/
theorem exists_round (hu : Unhindered setting found h) {addresses : List String}
    (hperm : found.Perm addresses) {h' : Host Scene}
    (hfinish : (((Pass.publishing setting).finish (Host.answers Scene.surroundings)).run
      h).value.2 = h') :
    ∃ ms, Round setting addresses ms h.around.cluster.ingresses h'.around.cluster.ingresses
      ∧ ((Pass.publishing setting).through Scene.surroundings ms).succeeded = true
      ∧ setting.search Scene.surroundings ms = .done (.ok found)
      ∧ h'.around.cluster.Keyed := by
  obtain ⟨order, hfollow⟩ := Pass.finish_follow (Host.answers Scene.surroundings)
    (restless_publishing setting) h
  rw [hfinish] at hfollow
  have hround := hu.round hperm order
  have hthrough := through_momentsFrom (.publishing setting) h order
  have hheld := hu.invariant.follow order (x := (Pass.publishing setting, h)) hu.holds_publishing
  have hsteady := steady_follow (.publishing setting) h order
  rw [hfollow] at hround hthrough hheld hsteady
  have hsucceeded : ((Pass.publishing setting).through Scene.surroundings
      ((Pass.publishing setting).momentsFrom h order)).succeeded = true := by
    rw [hthrough]
    exact hu.succeeded_of_ended hheld
  refine ⟨_, hround, hsucceeded, ?_, hsteady.keyed hu.keyed⟩
  -- A pass without a failure has come to the end of its search.
  obtain ⟨d, hdeciding, -⟩ | ⟨e, hfails, -⟩ | ⟨-, -, -, addresses', -, -, -, hsearch⟩ :=
    through_publishing (s := Scene.surroundings) setting hround.leads
  · rw [hdeciding] at hsucceeded
    cases hsucceeded
  · rw [hfails] at hsucceeded
    cases hsucceeded
  · rw [hsearch, hu.eq_of_search hsearch]

end Unhindered

end IngressController.Status
