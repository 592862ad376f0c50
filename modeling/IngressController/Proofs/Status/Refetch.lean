import IngressController.Proofs.Status.Moments

/-!
# `IngressController.Proofs.Status.Refetch`: the class of an Ingress that is read again

A pass picks the Ingresses that it manages from the watched ones. Before it writes the status of
one, it reads the Ingress again, since the watched copy may be out of date, and it writes the copy
that it has read. It does not look at the class of that copy. An Ingress that has gone to another
class since it was listed is written like any other.

Anything may happen between two steps of a pass, as in `IngressController.Proofs.Status.Moments`. So
the copies that are read have nothing to do with the ones that were listed.

* `Pass.written` and `Pass.fetched`: the copies that a pass writes and those that it has read.
* `Pass.Owes.after`: what a pass has written and what it still owes is what it has fetched, step by
  step, up to the status. `Pass.Owes.through` says it of a run.
* `GoesByListing`: a pass asks the watched copies for the class, and writes whatever it has fetched.
* `goesByListing_of_ended`: every pass that comes to its end does. It keeps to its class exactly if
  each of the copies that it fetched was of its class.
-/

set_option autoImplicit false

namespace IngressController.Status

open Object

/-! ### Copies that are read and written -/

/-- An Ingress without its status. -/
def withoutStatus (ing : Ingress) : Ingress :=
  { ing with status := none }

/-- The Ingress that a request writes. -/
def Ask.written? : Ask → Option Ingress
  | .call (.publish ing) => some ing
  | _ => none

section Copies

variable {κ : Type} (s : Surroundings κ)

/-- The Ingress that a request is answered with when it is made in a host. -/
def Ask.fetched? (h : Host κ) : Ask → Option Ingress
  | .call (.getIngress namespaceName name) =>
    ((Host.answers s (.call (.getIngress namespaceName name))).run h).value.1.toOption
  | _ => none

/-- The copies that a pass writes in the course of some moments. -/
def Pass.written (p : Pass) (ms : List (Moment κ)) : List Ingress :=
  (p.steps s ms).filterMap fun x => x.1.bind Ask.written?

/-- The copies that it has read again, as they were when it did. -/
def Pass.fetched (p : Pass) (ms : List (Moment κ)) : List Ingress :=
  (p.steps s ms).filterMap fun x => x.1.bind (Ask.fetched? s x.2.host)

variable {s}

/-- What is written in the first of some moments, and then in the others. -/
theorem Pass.written_cons (p : Pass) (m : Moment κ) (ms : List (Moment κ)) :
    p.written s (m :: ms)
      = ((p.request? m.position).bind Ask.written?).toList ++ (p.after s m).written s ms := by
  rw [written, steps, List.filterMap_cons]
  cases (p.request? m.position).bind Ask.written? with
  | none => rfl
  | some ing => rfl

/-- What is read in the first of some moments, and then in the others. -/
theorem Pass.fetched_cons (p : Pass) (m : Moment κ) (ms : List (Moment κ)) :
    p.fetched s (m :: ms)
      = ((p.request? m.position).bind (Ask.fetched? s m.host)).toList
        ++ (p.after s m).fetched s ms := by
  rw [fetched, steps, List.filterMap_cons]
  cases (p.request? m.position).bind (Ask.fetched? s m.host) with
  | none => rfl
  | some ing => rfl

end Copies

/-! ### What an errand owes -/

/-- The copy that an errand has read and has not written yet, without its status. -/
def Errand.owed (e : Errand) : List Ingress :=
  match e.stage with
  | .fetched latest => [withoutStatus latest]
  | .publishing latest => [withoutStatus latest]
  | _ => []

section Owed

variable {κ : Type} {s : Surroundings κ}

/-- In a step of an errand, what it writes and what it owes afterwards is what it has fetched and
what it owed before. -/
theorem Errand.owed_next (e : Errand) (h : Host κ) :
    ((e.stage.request? e.job).bind Ask.written?).toList.map withoutStatus ++ (e.next s h).1.owed
      = ((e.stage.request? e.job).bind (Ask.fetched? s h)).toList.map withoutStatus ++ e.owed := by
  obtain ⟨job, stage⟩ := e
  cases stage with
  | unchecked =>
      show (Errand.owed ⟨job, (Stage.unchecked.next s job h).1⟩) = []
      rw [Stage.next]
      split
      · rfl
      · split
        · rfl
        · rfl
  | fetching =>
      show (Errand.owed ⟨job, (Stage.fetching.next s job h).1⟩)
        = ((Except.toOption _).toList.map withoutStatus) ++ []
      rw [Stage.next]
      generalize ((Host.answers s (.call (.getIngress job.ing.metadata.namespaceText
        job.ing.metadata.nameText))).run h).value = r
      obtain ⟨outcome, h'⟩ := r
      cases outcome with
      | ok latest => rfl
      | error failure => rfl
  | publishing latest =>
      show [withoutStatus latest] ++ (Errand.owed ⟨job, ((Stage.publishing latest).next s job h).1⟩)
        = [withoutStatus latest]
      rw [Stage.next]
      generalize ((Host.answers s (.call (.publish (latest.publish job.wanted)))).run h).value = r
      obtain ⟨outcome, h'⟩ := r
      cases outcome with
      | ok done => rfl
      | error failure => rfl
  | unchanged | unreadable failure | fetched latest | rejected failure | concluding outcome
  | settled result => rfl

/-- Accounts that are settled in one place are settled on the whole, if all else stays as it was. -/
theorem perm_of_account {α : Type} {spent earned before after : List α} {rest rest' : List α}
    (hplace : spent ++ after = earned ++ before)
    (hrest : (before ++ rest').Perm (after ++ rest)) :
    (spent ++ rest').Perm (earned ++ rest) := by
  refine (List.perm_append_left_iff before).mp ?_
  calc List.Perm (before ++ (spent ++ rest')) (spent ++ (before ++ rest')) :=
      List.perm_append_comm_assoc ..
    List.Perm _ (spent ++ (after ++ rest)) := hrest.append_left spent
    List.Perm _ (earned ++ (before ++ rest)) := by
      rw [← List.append_assoc, hplace, List.append_assoc]
    List.Perm _ (before ++ (earned ++ rest)) := List.perm_append_comm_assoc ..

/-- Accounts of two times, one after the other, make one. -/
theorem perm_of_accounts {α : Type} {spent spent' earned earned' before between after : List α}
    (hfirst : (spent ++ between).Perm (earned ++ before))
    (hrest : (spent' ++ after).Perm (earned' ++ between)) :
    (spent ++ spent' ++ after).Perm (earned ++ earned' ++ before) := by
  rw [List.append_assoc, List.append_assoc]
  calc List.Perm (spent ++ (spent' ++ after)) (spent ++ (earned' ++ between)) :=
      hrest.append_left spent
    List.Perm _ (earned' ++ (spent ++ between)) := List.perm_append_comm_assoc ..
    List.Perm _ (earned' ++ (earned ++ before)) := hfirst.append_left earned'
    List.Perm _ (earned ++ (earned' ++ before)) := List.perm_append_comm_assoc ..

/-- In a turn of a batch, what is written and what its errands owe afterwards is what is fetched and
what they owed before. -/
theorem Runs.owed_turn {b : Batch Ask.Answer UpdateOutcome} {es : List Errand} (hb : Runs b es)
    {width : Nat} (hfilled : b.Filled width) (i : Nat) (h : Host κ) :
    ∃ es', Runs ((b.turn (Host.answers s) width i).run h).value.1 es'
      ∧ (((b.slots[i]?.bind unitRequest?).bind Ask.written?).toList.map withoutStatus
          ++ es'.flatMap Errand.owed).Perm
        (((b.slots[i]?.bind unitRequest?).bind (Ask.fetched? s h)).toList.map withoutStatus
          ++ es.flatMap Errand.owed) := by
  obtain ⟨hidle, hruns, -⟩ | ⟨e, he, hslot, hruns, -⟩ := hb.turn_unit hfilled s i h
  · -- A unit that has nothing left to do makes no request.
    have hnone : b.slots[i]?.bind unitRequest? = none := by
      cases hslot : b.slots[i]? with
      | none => rfl
      | some slot =>
          cases slot with
          | waiting work => rfl
          | finished result => rfl
          | running work =>
              obtain ⟨result, rfl⟩ := hidle work hslot
              rfl
    rw [hnone]
    exact ⟨es, hruns, .refl _⟩
  · refine ⟨es.set i (e.next s h).1, hruns, ?_⟩
    rw [hslot, Option.bind_some, Stage.unitRequest?_program]
    exact perm_of_account (e.owed_next h) (flatMap_exchange_perm Errand.owed he)

/-! ### What a pass owes -/

/-- What a pass has read and has not written yet. While it decides, it makes no call about an
Ingress, and the updates that it decides on have not begun. -/
def Pass.Owes : Pass → List Ingress → Prop
  | .deciding d, owed => owed = [] ∧ d.Ensures (fun q : Ask => q.isAboutIngress = false)
      (fun _ _ => True) fun r => ∀ us, r = .ok us →
        ∃ es, Runs (Batch.ofWork us) es ∧ es.flatMap Errand.owed = []
  | .updating b, owed =>
    ∃ es, Runs b es ∧ b.Filled updatePool.width ∧ owed = es.flatMap Errand.owed
  | .ended _, owed => owed = []

/-- A request that is not about an Ingress neither reads nor writes one. -/
theorem Ask.not_copies {q : Ask} (hq : q.isAboutIngress = false) (h : Host κ) :
    q.written? = none ∧ q.fetched? s h = none := by
  cases q with
  | call c => cases c <;> first | exact ⟨rfl, rfl⟩ | cases hq
  | _ => exact ⟨rfl, rfl⟩

/-- In a step, what a pass writes and what it owes afterwards is what it fetches and what it owed
before. -/
theorem Pass.Owes.after {p : Pass} {owed : List Ingress} (hp : p.Owes owed) (m : Moment κ) :
    ∃ owed', (p.after s m).Owes owed'
      ∧ (((p.request? m.position).bind Ask.written?).toList.map withoutStatus ++ owed').Perm
        (((p.request? m.position).bind (Ask.fetched? s m.host)).toList.map withoutStatus
          ++ owed) := by
  show ∃ owed', Pass.Owes ((p.advance (Host.answers s) m.position).run m.host).value.1 owed' ∧ _
  generalize hx : ((p.advance (Host.answers s) m.position).run m.host).value = x
  have hsteps := Pass.advance_steps (Host.answers s) m.position m.host p
  rw [hx] at hsteps
  cases hsteps with
  | fails e => exact ⟨owed, hp.1, .refl _⟩
  | begins us =>
      obtain ⟨rfl, hus⟩ := hp
      obtain ⟨es, hruns, howed⟩ := hus us rfl
      exact ⟨[], ⟨es, hruns.fill _, Batch.filled_fill .., howed.symm⟩, .refl _⟩
  | decides d hd =>
      obtain ⟨rfl, hensures⟩ := hp
      refine ⟨[], ⟨rfl, hensures.step m.host fun _ _ => trivial⟩, ?_⟩
      cases d with
      | done r => exact absurd rfl (hd r)
      | note n next => exact .refl _
      | rest next => exact .refl _
      | ask q next =>
          obtain ⟨hwritten, hfetched⟩ := Ask.not_copies (s := s) hensures.1 m.host
          show (q.written?.toList.map withoutStatus ++ []).Perm
            ((q.fetched? s m.host).toList.map withoutStatus ++ [])
          rw [hwritten, hfetched]
  | turns b hend =>
      obtain ⟨es, hruns, hfilled, rfl⟩ := hp
      obtain ⟨es', hruns', hperm⟩ := hruns.owed_turn hfilled m.position m.host
      exact ⟨_, ⟨es', hruns', hfilled.turn .., rfl⟩, hperm⟩
  | ends b hend =>
      obtain ⟨es, hruns, -, rfl⟩ := hp
      -- All errands are over.
      have hnone : es.flatMap Errand.owed = [] := by
        rw [List.flatMap_eq_nil_iff]
        intro e he
        obtain ⟨result, hstage⟩ := hruns.exists_result hend e he
        rw [Errand.owed, hstage]
      rw [Pass.request?_of_isFinished hend]
      exact ⟨_, hnone, .refl _⟩
  | stays result => exact ⟨owed, hp, .refl _⟩

/-- In the course of some moments, what a pass writes and what it owes at the end is what it fetches
and what it owed at the beginning. -/
theorem Pass.Owes.through {p : Pass} {owed : List Ingress} (hp : p.Owes owed)
    (ms : List (Moment κ)) :
    ∃ owed', (p.through s ms).Owes owed'
      ∧ ((p.written s ms).map withoutStatus ++ owed').Perm
        ((p.fetched s ms).map withoutStatus ++ owed) := by
  induction ms generalizing p owed with
  | nil => exact ⟨owed, hp, .refl _⟩
  | cons m ms ih =>
      obtain ⟨owed₁, hp₁, hfirst⟩ := hp.after (s := s) m
      obtain ⟨owed₂, hp₂, hrest⟩ := ih hp₁
      refine ⟨owed₂, hp₂, ?_⟩
      rw [written_cons, fetched_cons, List.map_append, List.map_append]
      exact perm_of_accounts hfirst hrest

end Owed

/-! ### Passes that bring the managed Ingresses up to date -/

section Listing

variable {κ : Type} {s : Surroundings κ} (config : Config) (custom : CustomEntries) (token : Token)
  (entries : List Entry)

/-- The invariant of a pass that has listed some Ingresses. -/
def listingInvariant (s : Surroundings κ) (listed : List Ingress) : PassInvariant s where
  deciding d _ := d = .done (.ok ((listed.filter config.manages).map (update custom token entries)))
  making es _ := es.map Errand.job = (errands config custom token entries listed).map Errand.job
  deciding_of_alike hd _ := hd
  making_of_alike hes _ := hes
  step_deciding hd hne := absurd hd (hne _)
  begin_making := by
    rintro us h hd
    cases hd
    exact ⟨_, runs_ofWork config custom token entries listed, rfl⟩
  step_making := by
    rintro es h i e hes hi
    -- An errand goes on with the same job.
    have hjob : (e.next s h).1.job = e.job := rfl
    exact (Errand.map_job_set hi hjob).trans hes

/-- A pass that has listed some Ingresses reads only those of them that it manages. -/
theorem exists_managed_of_getIngress {listed : List Ingress} {p : Pass} {h : Host κ}
    (hp : (listingInvariant config custom token entries s listed).Holds p h) {position : Nat}
    {namespaceName name : String}
    (hq : p.request? position = some (.call (.getIngress namespaceName name))) :
    ∃ ing ∈ listed, config.manages ing = true ∧ ing.metadata.namespaceText = namespaceName
      ∧ ing.metadata.nameText = name := by
  obtain ⟨next, rfl⟩ | ⟨b, rfl, hunit⟩ := Pass.request?_cases hq
  · cases hp
  · obtain ⟨es, hruns, -, -, hjobs⟩ := hp
    obtain ⟨⟨job, stage⟩, he, hrequest⟩ := hruns.exists_ask hunit
    obtain ⟨ing, hing, hjob⟩ := exists_managed_of_jobs hjobs (List.mem_of_getElem? he)
    obtain ⟨hlisted, hmanages⟩ := List.mem_filter.mp hing
    refine ⟨ing, hlisted, hmanages, ?_⟩
    cases stage with
    | fetching =>
        cases hrequest
        obtain rfl : job.ing = ing := congrArg Job.ing hjob
        exact ⟨rfl, rfl⟩
    | _ => cases hrequest

/-- All that a pass writes is managed. -/
def Pass.KeepsToClass (s : Surroundings κ) (p : Pass) (ms : List (Moment κ)) : Prop :=
  ∀ ing ∈ p.written s ms, config.manages ing = true

/-- How a pass goes by the Ingresses that it has listed. -/
structure GoesByListing (s : Surroundings κ) (p : Pass) (ms : List (Moment κ)) : Prop where
  /-- It reads an Ingress again only if it manages it by the copy that was watched at its
  beginning. -/
  listed : ∀ m ∈ ms.head?, p.RequestsOnly s (fun q => ∀ namespaceName name,
    q = .call (.getIngress namespaceName name) → ∃ ing ∈ s.watched m.host.around,
      config.manages ing = true ∧ ing.metadata.namespaceText = namespaceName
        ∧ ing.metadata.nameText = name) ms
  /-- Whatever it fetches it writes, once and with another status. -/
  written_perm : ((p.written s ms).map withoutStatus).Perm ((p.fetched s ms).map withoutStatus)
  /-- So it keeps to its class exactly if all that it fetches is of its class. -/
  keepsToClass_iff : p.KeepsToClass config s ms
    ↔ ∀ latest ∈ p.fetched s ms, config.manages latest = true

/-- A pass that begins to bring the managed Ingresses up to date owes nothing. -/
theorem owes_ofUpdates : (Pass.ofUpdates (updates config custom token entries)).Owes [] := by
  refine ⟨rfl, rfl, fun ingresses _ us hus => ?_⟩
  cases hus
  refine ⟨_, runs_ofWork config custom token entries ingresses, ?_⟩
  rw [List.flatMap_eq_nil_iff]
  intro e he
  obtain ⟨ing, -, rfl⟩ := List.mem_map.mp he
  rfl

/-- It reads again only what it has listed and manages. -/
theorem requestsOnly_listed (m : Moment κ) (ms : List (Moment κ)) :
    (Pass.ofUpdates (updates config custom token entries)).RequestsOnly s
      (fun q => ∀ namespaceName name, q = .call (.getIngress namespaceName name) →
        ∃ ing ∈ s.watched m.host.around, config.manages ing = true
          ∧ ing.metadata.namespaceText = namespaceName ∧ ing.metadata.nameText = name)
      (m :: ms) := by
  -- The first step lists the Ingresses.
  refine Pass.requestsOnly_cons.mpr ⟨fun q hq namespaceName name hread => ?_, ?_⟩
  · cases hq
    cases hread
  · have hlisted : (listingInvariant config custom token entries s (s.watched m.host.around)).Holds
        ((Pass.ofUpdates (updates config custom token entries)).after s m) m.host := rfl
    refine Pass.requestsOnly_of_invariant
      (I := fun p => ∃ h, (listingInvariant config custom token entries s
        (s.watched m.host.around)).Holds p h) ?_ ?_ ⟨m.host, hlisted⟩ ms
    · rintro p m' ⟨h, hp⟩
      -- The invariant says nothing about the host, so it holds in the next one too.
      have hp' : (listingInvariant config custom token entries s
          (s.watched m.host.around)).Holds p m'.host :=
        hp.transfer (fun _ hd => hd) fun _ hes => hes
      exact ⟨_, PassInvariant.advance _ hp' m'.position⟩
    · rintro p position q ⟨h, hp⟩ hq namespaceName name rfl
      exact exists_managed_of_getIngress config custom token entries hp hq

end Listing

/-- A pass that brings the managed Ingresses up to date, whatever happens between its steps, asks
the copies that are watched at its beginning for their class, and writes whatever copies it fetches
after that. By its end it has kept to its class exactly if all of these were of its class. -/
theorem goesByListing_of_ended {κ : Type} (s : Surroundings κ) (config : Config)
    (custom : CustomEntries) (token : Token) (entries : List Entry) (ms : List (Moment κ))
    (hended : ((Pass.ofUpdates (updates config custom token entries)).through s ms).isEnded
      = true) :
    GoesByListing config s (Pass.ofUpdates (updates config custom token entries)) ms := by
  obtain ⟨owed, howes, hperm⟩ := (owes_ofUpdates config custom token entries).through (s := s) ms
  have hnone : owed = [] := by
    cases hend : (Pass.ofUpdates (updates config custom token entries)).through s ms with
    | deciding d => rw [hend] at hended; cases hended
    | updating b => rw [hend] at hended; cases hended
    | ended result => rwa [hend] at howes
  rw [hnone, List.append_nil, List.append_nil] at hperm
  refine ⟨fun m hm => ?_, hperm, ?_⟩
  · cases ms with
    | nil => cases hm
    | cons m' ms =>
        cases hm
        exact requestsOnly_listed config custom token entries m ms
  · -- The class of an Ingress has nothing to do with its status.
    have hclass : ∀ copies : List Ingress, (∀ ing ∈ copies, config.manages ing = true)
        ↔ ∀ ing ∈ copies.map withoutStatus, config.manages ing = true := by
      intro copies
      rw [List.forall_mem_map]
      rfl
    refine (hclass _).trans (Iff.trans ?_ (hclass _).symm)
    exact forall_congr' fun ing => imp_congr_left hperm.mem_iff

/-- An Ingress that has gone to another class. -/
def reclassedIngress : Ingress :=
  { ingressShowing "a" [] with spec := some { className := some "nginx" } }

/-- A host that has not been told of it. -/
def reclassedHost : Host Scene where
  around :=
    { cluster := { ingresses := TextMap.ofList [("default/a", reclassedIngress)] }
      watched := [ingressShowing "a" []] }
  leadership := Leadership.holding "ingress-0"

/-- The moments of a pass that lists the Ingress, which then goes to the other class before it is
read again. -/
def reclassedMoments : List (Moment Scene) :=
  ⟨serviceHost ["ingress-0"] [] [], 0⟩ :: List.replicate 9 ⟨reclassedHost, 0⟩

/-- A pass that publishes one address. -/
def addressPass : Pass :=
  Pass.ofUpdates (updates {} (fun _ => none) .endOfPasses [Entry.ofAddress "1.1.1.1"])

/-- The pass writes it all the same. -/
theorem not_keepsToClass_of_reclassed :
    (addressPass.through Scene.surroundings reclassedMoments).isEnded = true
      ∧ GoesByListing {} Scene.surroundings addressPass reclassedMoments
      ∧ ¬ addressPass.KeepsToClass {} Scene.surroundings reclassedMoments := by
  have hended : (addressPass.through Scene.surroundings reclassedMoments).isEnded = true := by
    decide +kernel
  have hgoes := goesByListing_of_ended Scene.surroundings {} (fun _ => none) .endOfPasses
    [Entry.ofAddress "1.1.1.1"] reclassedMoments hended
  have hfetched : reclassedIngress ∈ addressPass.fetched Scene.surroundings reclassedMoments := by
    decide +kernel
  refine ⟨hended, hgoes, fun hkeeps => ?_⟩
  have hmanages := hgoes.keepsToClass_iff.mp hkeeps reclassedIngress hfetched
  exact absurd hmanages (by decide +kernel)

end IngressController.Status
