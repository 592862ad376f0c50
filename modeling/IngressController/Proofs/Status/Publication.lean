import IngressController.Proofs.Status.Entries
import IngressController.Proofs.Status.Scene

/-!
# `IngressController.Proofs.Status.Publication`: what a batch of updates does

A batch brings the managed Ingresses among the watched ones up to date with some entries. Its
updates share one cluster and take turns in any order, and any of their calls may fail. Since the
watched Ingresses have different keys, no update meets another one: what becomes of an Ingress is
what the cluster said about it before the batch.

* `Fate`: what becomes of one Ingress, and what is left of its copy.
* `Errand.Sound`: the invariant of one update at each of its stages, and `Errand.Sound.next`: each
  step keeps it.
* `publication_of_every_order`: every order of turns gives each managed Ingress its fate, makes the
  calls that go with it and no others, and comes to an end.
-/

set_option autoImplicit false

namespace IngressController.Status

open Object
open Cluster (Memory Call)
open Cluster.Memory (fetchCall)

/-! ### The fate of an Ingress -/

/-- The same addresses, each equally often; a missing host name or IP counts as empty. -/
def SameAddresses (as bs : List Entry) : Prop :=
  (as.map Entry.address).Perm (bs.map Entry.address)

instance (as bs : List Entry) : Decidable (SameAddresses as bs) :=
  inferInstanceAs (Decidable (List.Perm _ _))

instance (m : Memory) (ing : Ingress) : Decidable (m.Reads ing) :=
  inferInstanceAs (Decidable (_ ∧ _))

instance (m : Memory) (ing : Ingress) : Decidable (m.Accepts ing) :=
  inferInstanceAs (Decidable (_ = _))

/-- The entries are the given ones, ordered by host name and then by IP. -/
structure Ordered (entries sorted : List Entry) : Prop where
  perm : sorted.Perm entries
  ordered : sorted.Pairwise fun a b => Entry.Precedes a.address b.address

/-- So are entries that have been put in order. -/
theorem ordered_sortEntries (entries : List Entry) : Ordered entries (sortEntries entries) where
  perm := sortEntries_perm entries
  ordered := pairwise_sortEntries entries

/-- An Ingress has been given other addresses and is otherwise as it was:

- `published` and `status`: it shows the entries. A status holds a load balancer and nothing else,
  and so does the load balancer with its list of entries, so there is no other part of it to keep;
- `metadata` and `spec`: these are as before. -/
structure Readdressed (before : Ingress) (entries : List Entry) (after : Ingress) : Prop where
  published : after.published = entries
  status : after.status = some { loadBalancer := some { entries := some entries } }
  metadata : after.metadata = before.metadata
  spec : after.spec = before.spec

/-- To publish entries on an Ingress gives it other addresses. -/
theorem readdressed_publish (ing : Ingress) (entries : List Entry) :
    Readdressed ing entries (ing.publish entries) where
  published := rfl
  status := rfl
  metadata := rfl
  spec := rfl

/-- What becomes of a watched Ingress that should show some entries, when a batch turns the cluster
`m` into `m'`:

- `unchanged_iff`: it is left alone exactly if the watched copy shows the same addresses;
- `updated_iff`: it is updated exactly if it does not, and both calls succeed;
- `written`: of an updated one, the copy of the cluster differs from the one it had in its list of
  addresses only, which holds the entries in their order;
- `kept`: any other copy is untouched. -/
structure Fate (m m' : Memory) (entries : List Entry) (ing : Ingress) (outcome : UpdateOutcome) :
    Prop where
  unchanged_iff : outcome = .unchanged ↔ SameAddresses entries ing.published
  updated_iff : outcome = .updated
    ↔ ¬ SameAddresses entries ing.published ∧ m.Reads ing ∧ m.Accepts ing
  written : outcome = .updated → ∃ latest sorted written, m.copy? ing = some latest
    ∧ m'.copy? ing = some written ∧ Ordered entries sorted ∧ Readdressed latest sorted written
  kept : outcome ≠ .updated → m'.copy? ing = m.copy? ing

/-- The calls that the update of an Ingress to some entries makes: none if it shows them, else it is
read again, and written if that succeeds. -/
def callsFor (m : Memory) (entries : List Entry) (ing : Ingress) : List String :=
  if SameAddresses entries ing.published then []
  else if m.Reads ing then [(fetchCall ing).text, (Call.publish ing).text]
  else [(fetchCall ing).text]

/-- What a batch for some entries makes of a scene:

- `outcomes`: there is one outcome for each managed Ingress, its fate;
- `calls`: the calls are those that the managed Ingresses ask for;
- `elsewhere`: nothing else in the cluster is touched. -/
structure Publication (config : Config) (custom : CustomEntries) (entries : List Entry)
    (before after : Scene) (outcomes : List UpdateOutcome) : Prop where
  outcomes : ∃ fate : Ingress → UpdateOutcome,
    outcomes.Perm ((before.watched.filter config.manages).map fate)
      ∧ ∀ ing ∈ before.watched, config.manages ing = true →
        Fate before.cluster after.cluster (wanted custom entries ing) ing (fate ing)
  calls : ∃ made, after.cluster.calls = before.cluster.calls ++ made
    ∧ made.Perm ((before.watched.filter config.manages).flatMap fun ing =>
      callsFor before.cluster (wanted custom entries ing) ing)
  elsewhere : ∀ key, (∀ ing ∈ before.watched, config.manages ing = true → ing.metadata.key ≠ key) →
    after.cluster.ingresses.get? key = before.cluster.ingresses.get? key

/-! ### One update -/

/-- The entries that the Ingress of an errand should show are the ordered ones of a function. -/
def Errand.Wants (desired : Ingress → List Entry) (e : Errand) : Prop :=
  e.job.wanted = sortEntries (desired e.job.ing)

/-- What is known about an errand at its stage, if the cluster was `m₀` at first and is `m` now. -/
def Errand.Sound (desired : Ingress → List Entry) (m₀ m : Memory) (e : Errand) : Prop :=
  match e.stage with
  | .unchecked => m.copy? e.job.ing = m₀.copy? e.job.ing
  | .unchanged => SameAddresses (desired e.job.ing) e.job.ing.published
    ∧ m.copy? e.job.ing = m₀.copy? e.job.ing
  | .fetching => ¬ SameAddresses (desired e.job.ing) e.job.ing.published
    ∧ m.copy? e.job.ing = m₀.copy? e.job.ing
  | .unreadable _ => ¬ SameAddresses (desired e.job.ing) e.job.ing.published
    ∧ ¬ m₀.Reads e.job.ing ∧ m.copy? e.job.ing = m₀.copy? e.job.ing
  | .fetched latest => ¬ SameAddresses (desired e.job.ing) e.job.ing.published
    ∧ m₀.Reads e.job.ing ∧ m₀.copy? e.job.ing = some latest
    ∧ m.copy? e.job.ing = m₀.copy? e.job.ing
  | .publishing latest => ¬ SameAddresses (desired e.job.ing) e.job.ing.published
    ∧ m₀.Reads e.job.ing ∧ m₀.copy? e.job.ing = some latest
    ∧ m.copy? e.job.ing = m₀.copy? e.job.ing
  | .rejected _ => ¬ SameAddresses (desired e.job.ing) e.job.ing.published
    ∧ m₀.Reads e.job.ing ∧ ¬ m₀.Accepts e.job.ing ∧ m.copy? e.job.ing = m₀.copy? e.job.ing
  | .concluding outcome => Fate m₀ m (desired e.job.ing) e.job.ing outcome
  | .settled (some outcome) => Fate m₀ m (desired e.job.ing) e.job.ing outcome
  | .settled none => False

/-- What is known about an errand depends on the copy of its own Ingress alone. -/
theorem Errand.Sound.congr {desired : Ingress → List Entry} {m₀ m m' : Memory} {e : Errand}
    (he : e.Sound desired m₀ m) (hcopy : m'.copy? e.job.ing = m.copy? e.job.ing) :
    e.Sound desired m₀ m' := by
  have hfate : ∀ {outcome}, Fate m₀ m (desired e.job.ing) e.job.ing outcome →
      Fate m₀ m' (desired e.job.ing) e.job.ing outcome := fun h =>
    { h with
      written := fun ho => by rw [hcopy]; exact h.written ho
      kept := fun ho => by rw [hcopy]; exact h.kept ho }
  obtain ⟨job, st⟩ := e
  -- At each stage the copy stands in the last part, or in the fate.
  cases st with
  | unchecked => exact hcopy.trans he
  | unchanged => exact ⟨he.1, hcopy.trans he.2⟩
  | fetching => exact ⟨he.1, hcopy.trans he.2⟩
  | unreadable failure => exact ⟨he.1, he.2.1, hcopy.trans he.2.2⟩
  | fetched latest => exact ⟨he.1, he.2.1, he.2.2.1, hcopy.trans he.2.2.2⟩
  | publishing latest => exact ⟨he.1, he.2.1, he.2.2.1, hcopy.trans he.2.2.2⟩
  | rejected failure => exact ⟨he.1, he.2.1, he.2.2.1, hcopy.trans he.2.2.2⟩
  | concluding outcome => exact hfate he
  | settled result =>
      cases result with
      | none => exact he
      | some outcome => exact hfate he

/-- The calls that an errand has made at its stage, if the cluster was `m₀` at first. -/
def Errand.callsMade (desired : Ingress → List Entry) (m₀ : Memory) (e : Errand) : List String :=
  match e.stage with
  | .unchecked | .unchanged | .fetching => []
  | .unreadable _ | .fetched _ | .publishing _ => [(fetchCall e.job.ing).text]
  | .rejected _ => [(fetchCall e.job.ing).text, (Call.publish e.job.ing).text]
  | .concluding _ | .settled _ => callsFor m₀ (desired e.job.ing) e.job.ing

namespace Fate

variable {m m' : Memory} {entries : List Entry} {ing : Ingress}

/-- An Ingress that shows what it should is left alone. -/
theorem unchanged (hsame : SameAddresses entries ing.published)
    (hcopy : m'.copy? ing = m.copy? ing) : Fate m m' entries ing .unchanged where
  unchanged_iff := iff_of_true rfl hsame
  updated_iff := iff_of_false (by decide) fun h => h.1 hsame
  written h := absurd h (by decide)
  kept _ := hcopy

/-- The update of an Ingress fails if it cannot be read again or not be written. -/
theorem failed (hsame : ¬ SameAddresses entries ing.published)
    (hcalls : ¬ (m.Reads ing ∧ m.Accepts ing)) (hcopy : m'.copy? ing = m.copy? ing) :
    Fate m m' entries ing .failed where
  unchanged_iff := iff_of_false (by decide) hsame
  updated_iff := iff_of_false (by decide) fun h => hcalls h.2
  written h := absurd h (by decide)
  kept _ := hcopy

/-- An Ingress is updated if it can be read again and written. -/
theorem updated (hsame : ¬ SameAddresses entries ing.published) (hreads : m.Reads ing)
    (haccepts : m.Accepts ing) {latest : Ingress} (hlatest : m.copy? ing = some latest)
    (hcopy : m'.copy? ing = some (latest.publish (sortEntries entries))) :
    Fate m m' entries ing .updated where
  unchanged_iff := iff_of_false (by decide) hsame
  updated_iff := iff_of_true rfl ⟨hsame, hreads, haccepts⟩
  written _ := ⟨latest, sortEntries entries, _, hlatest, hcopy, ordered_sortEntries entries,
    readdressed_publish latest _⟩
  kept h := absurd rfl h

end Fate

namespace Errand

variable {desired : Ingress → List Entry} {h₀ h : Host Scene}

/-- After a step, what is known about an errand is known about its next stage, and the calls of the
step are added to those that it has made. -/
def GoesOn (desired : Ingress → List Entry) (h₀ h : Host Scene) (e : Errand) : Prop :=
  (e.next Scene.surroundings h).1.Sound desired h₀.around.cluster
      (e.next Scene.surroundings h).2.around.cluster
    ∧ ∃ more, (e.next Scene.surroundings h).2.around.cluster.calls = h.around.cluster.calls ++ more
      ∧ (e.next Scene.surroundings h).1.callsMade desired h₀.around.cluster
        = e.callsMade desired h₀.around.cluster ++ more

/-- An Ingress that shows what it should goes on to be left alone, any other one to be read
again. -/
theorem goesOn_unchecked {job : Job} (hidle : job.token.Idle h)
    (hwants : job.wanted = sortEntries (desired job.ing))
    (he : (Errand.mk job .unchecked).Sound desired h₀.around.cluster h.around.cluster) :
    (Errand.mk job .unchecked).GoesOn desired h₀ h := by
  have hnext : (Errand.mk job .unchecked).next Scene.surroundings h
      = if sameEntries job.wanted (sortEntries job.ing.published) then (⟨job, .unchanged⟩, h)
        else (⟨job, .fetching⟩, h) := by
    rw [Errand.next, Stage.next, hidle.value_cancelled, if_neg Bool.false_ne_true]
    split <;> rfl
  have hsame : sameEntries job.wanted (sortEntries job.ing.published) = true
      ↔ SameAddresses (desired job.ing) job.ing.published := by
    rw [hwants]
    exact sameEntries_sortEntries_iff ..
  rw [GoesOn, hnext]
  split
  · next h => exact ⟨⟨hsame.mp h, he⟩, [], (List.append_nil _).symm, rfl⟩
  · next h => exact ⟨⟨fun hs => h (hsame.mpr hs), he⟩, [], (List.append_nil _).symm, rfl⟩

/-- To read an Ingress again gives the copy that it had at first. -/
theorem goesOn_fetching (hs : Host.Steady h₀ h) {job : Job}
    (he : (Errand.mk job .fetching).Sound desired h₀.around.cluster h.around.cluster) :
    (Errand.mk job .fetching).GoesOn desired h₀ h := by
  obtain ⟨hdiffer, hcopy⟩ := he
  -- The call fails now if it would have failed at first, and the copy has not changed since.
  have hfails := Memory.fails_congr hs.premises (fetchCall job.ing)
  have hrecord := Memory.answer_fetchCall_snd h.around.cluster job.ing
  rw [GoesOn, next_fetching, Host.value_call]
  simp only
  rw [hrecord]
  cases houtcome : (h.around.cluster.answer (fetchCall job.ing)).1 with
  | ok latest =>
      obtain ⟨hsucceeds, hlatest⟩ := (Memory.answer_fetchCall_eq_ok_iff ..).mp houtcome
      rw [hfails] at hsucceeds
      rw [show h.around.cluster.copy? job.ing = h₀.around.cluster.copy? job.ing from hcopy]
        at hlatest
      have hreads : h₀.around.cluster.Reads job.ing := ⟨hsucceeds, by rw [hlatest]; rfl⟩
      exact ⟨⟨hdiffer, hreads, hlatest, hcopy⟩, [(fetchCall job.ing).text], rfl, rfl⟩
  | error failure =>
      have hunread : ¬ h₀.around.cluster.Reads job.ing := by
        rintro ⟨hsucceeds, hsome⟩
        refine Memory.not_reads_of_error houtcome ⟨hfails.trans hsucceeds, ?_⟩
        rw [show h.around.cluster.copy? job.ing = h₀.around.cluster.copy? job.ing from hcopy]
        exact hsome
      exact ⟨⟨hdiffer, hunread, hcopy⟩, [(fetchCall job.ing).text], rfl, rfl⟩

/-- To write an Ingress changes its copy if the cluster accepts it. -/
theorem goesOn_publishing (hs : Host.Steady h₀ h) (hkeyed : h₀.around.cluster.Keyed) {job : Job}
    {latest : Ingress} (hwants : job.wanted = sortEntries (desired job.ing))
    (he : (Errand.mk job (.publishing latest)).Sound desired h₀.around.cluster h.around.cluster) :
    (Errand.mk job (.publishing latest)).GoesOn desired h₀ h := by
  obtain ⟨hdiffer, hreads, hlatest, hcopy⟩ := he
  -- The copy that has been read again has the key of the job, so both stand for the same call.
  have hkey : (latest.publish job.wanted).metadata.key = job.ing.metadata.key :=
    hkeyed _ latest hlatest
  have htext : (Call.publish (latest.publish job.wanted)).text = (Call.publish job.ing).text := by
    rw [Call.text, Call.text, Call.subject, Call.subject, hkey]
    rfl
  have haccepts : h.around.cluster.Accepts (latest.publish job.wanted)
      ↔ h₀.around.cluster.Accepts job.ing := by
    rw [Memory.accepts_congr hkey, Memory.Accepts, Memory.Accepts, Memory.fails_congr hs.premises]
  rw [GoesOn, next_publishing, Host.value_call]
  simp only
  by_cases haccept : h.around.cluster.Accepts (latest.publish job.wanted)
  · rw [Memory.answer_publish_of_accepts haccept]
    refine ⟨?_, [(Call.publish job.ing).text], ?_, ?_⟩
    · refine Fate.updated hdiffer hreads (haccepts.mp haccept) hlatest ?_
      rw [← hwants]
      show (TextMap.insert _ _ _).get? _ = _
      rw [TextMap.get?_insert, if_pos hkey]
    · rw [← htext]
      rfl
    · show callsFor _ _ _ = _
      rw [callsFor, if_neg hdiffer, if_pos hreads]
      rfl
  · rw [Memory.answer_publish_of_not_accepts haccept]
    refine ⟨⟨hdiffer, hreads, fun h => haccept (haccepts.mpr h), hcopy⟩,
      [(Call.publish job.ing).text], ?_, rfl⟩
    rw [← htext]
    rfl

/-- A step of an errand keeps what is known about it. -/
theorem Sound.next {e : Errand} (hs : Host.Steady h₀ h) (hkeyed : h₀.around.cluster.Keyed)
    (hidle : e.job.token.Idle h) (hwants : e.Wants desired)
    (he : e.Sound desired h₀.around.cluster h.around.cluster) : e.GoesOn desired h₀ h := by
  obtain ⟨job, st⟩ := e
  -- A step that makes no call.
  have hquiet : ∀ st', (Errand.mk job st).next Scene.surroundings h = (⟨job, st'⟩, h) →
      (Errand.mk job st').Sound desired h₀.around.cluster h.around.cluster →
      (Errand.mk job st').callsMade desired h₀.around.cluster
        = (Errand.mk job st).callsMade desired h₀.around.cluster →
      (Errand.mk job st).GoesOn desired h₀ h := by
    intro st' hnext hsound hcalls
    rw [GoesOn, hnext]
    exact ⟨hsound, [], (List.append_nil _).symm, hcalls.trans (List.append_nil _).symm⟩
  cases st with
  | unchecked => exact goesOn_unchecked hidle hwants he
  | unchanged =>
      refine hquiet _ rfl (Fate.unchanged he.1 he.2) ?_
      show callsFor _ _ _ = []
      rw [callsFor, if_pos he.1]
  | fetching => exact goesOn_fetching hs he
  | unreadable failure =>
      obtain ⟨hdiffer, hreads, hcopy⟩ := he
      refine hquiet _ rfl (Fate.failed hdiffer (fun h => hreads h.1) hcopy) ?_
      show callsFor _ _ _ = [(fetchCall job.ing).text]
      rw [callsFor, if_neg hdiffer, if_neg hreads]
  | fetched latest => exact hquiet _ rfl he rfl
  | publishing latest => exact goesOn_publishing hs hkeyed hwants he
  | rejected failure =>
      obtain ⟨hdiffer, hreads, haccepts, hcopy⟩ := he
      refine hquiet _ rfl (Fate.failed hdiffer (fun h => haccepts h.2) hcopy) ?_
      show callsFor _ _ _ = [(fetchCall job.ing).text, (Call.publish job.ing).text]
      rw [callsFor, if_neg hdiffer, if_pos hreads]
  | concluding outcome => exact hquiet _ rfl he rfl
  | settled result => exact hquiet _ rfl he rfl

end Errand

/-! ### All updates of a batch -/

/-- The outcome that an Ingress has if it should show some entries. -/
def outcomeFor (m : Memory) (entries : List Entry) (ing : Ingress) : UpdateOutcome :=
  if SameAddresses entries ing.published then .unchanged
  else if m.Reads ing ∧ m.Accepts ing then .updated
  else .failed

/-- The fate of an Ingress says what its outcome is. -/
theorem Fate.eq_outcomeFor {m m' : Memory} {entries : List Entry} {ing : Ingress}
    {outcome : UpdateOutcome} (h : Fate m m' entries ing outcome) :
    outcome = outcomeFor m entries ing := by
  rw [outcomeFor]
  split
  · next hsame => exact h.unchanged_iff.mpr hsame
  · next hdiffer =>
      split
      · next hcalls => exact h.updated_iff.mpr ⟨hdiffer, hcalls⟩
      · next hcalls =>
          cases outcome with
          | updated => exact absurd (h.updated_iff.mp rfl).2 hcalls
          | unchanged => exact absurd (h.unchanged_iff.mp rfl) hdiffer
          | failed => rfl

section Batch

variable (config : Config) (custom : CustomEntries) (token : Token) (entries : List Entry)

/-- The errands of a batch keep to what is known about them, and to the managed Ingresses. -/
structure Sound (h₀ h : Host Scene) (es : List Errand) : Prop where
  steady : Host.Steady h₀ h
  jobs : es.map Errand.job
    = (errands config custom token entries h₀.around.watched).map Errand.job
  sound : ∀ e ∈ es, e.Sound (wanted custom entries) h₀.around.cluster h.around.cluster
  calls : ∃ made, h.around.cluster.calls = h₀.around.cluster.calls ++ made
    ∧ made.Perm (es.flatMap (Errand.callsMade (wanted custom entries) h₀.around.cluster))
  elsewhere : ∀ key, (∀ e ∈ es, e.job.ing.metadata.key ≠ key) →
    h.around.cluster.ingresses.get? key = h₀.around.cluster.ingresses.get? key

variable {config custom token entries} {h₀ h : Host Scene} {es : List Errand}

/-- Each errand is about a managed Ingress, with its entries and the token of the batch. -/
theorem Sound.exists_managed (hes : Sound config custom token entries h₀ h es) {e : Errand}
    (he : e ∈ es) :
    ∃ ing ∈ h₀.around.watched.filter config.manages,
      e.job = (errand custom token entries ing).job :=
  exists_managed_of_jobs hes.jobs he

/-- Errands at different positions are about Ingresses with different keys. -/
theorem Sound.key_ne (hes : Sound config custom token entries h₀ h es)
    (hdistinct : (h₀.around.watched.map (·.metadata.key)).Nodup) {i j : Nat} {e e' : Errand}
    (hi : es[i]? = some e) (hj : es[j]? = some e') (hne : i ≠ j) :
    e'.job.ing.metadata.key ≠ e.job.ing.metadata.key :=
  key_ne_of_jobs hes.jobs hdistinct hi hj hne

/-- A step of one errand keeps what is known about all of them. -/
theorem Sound.step (hes : Sound config custom token entries h₀ h es) (hidle : token.Idle h₀)
    (hkeyed : h₀.around.cluster.Keyed)
    (hdistinct : (h₀.around.watched.map (·.metadata.key)).Nodup) {i : Nat} {e : Errand}
    (hi : es[i]? = some e) :
    Sound config custom token entries h₀ (e.next Scene.surroundings h).2
      (es.set i (e.next Scene.surroundings h).1) := by
  have hmem := List.mem_of_getElem? hi
  obtain ⟨ing, -, hjob⟩ := hes.exists_managed hmem
  have hwants : e.Wants (wanted custom entries) := by rw [Errand.Wants, hjob]; rfl
  have hidle' : e.job.token.Idle h := by rw [hjob]; exact hidle.of_steady hes.steady
  obtain ⟨hsound, more, hmore, hmade⟩ :=
    (hes.sound e hmem).next hes.steady hkeyed hidle' hwants
  have hjobs := Errand.map_job_set hi
    (show (e.next Scene.surroundings h).1.job = e.job from rfl)
  -- The errand writes no Ingress but its own.
  have hframe : ∀ key, e.job.ing.metadata.key ≠ key →
      (e.next Scene.surroundings h).2.around.cluster.ingresses.get? key
        = h.around.cluster.ingresses.get? key := by
    intro key hne
    refine Errand.get?_next (fun latest hstage => ?_) h
    have hlatest := hes.sound e hmem
    rw [Errand.Sound, hstage] at hlatest
    rw [hkeyed _ latest hlatest.2.2.1]
    exact hne
  refine ⟨hes.steady.next e, hjobs.trans hes.jobs, ?_, ?_, ?_⟩
  · intro e' he'
    obtain ⟨j, hj⟩ := List.mem_iff_getElem?.mp he'
    -- Another errand has another key, so that its own copy is not touched.
    by_cases hij : i = j
    · subst hij
      rw [List.getElem?_set_self (List.getElem?_eq_some_iff.mp hi).1] at hj
      cases hj
      exact hsound
    · rw [List.getElem?_set_ne hij] at hj
      refine (hes.sound e' (List.mem_of_getElem? hj)).congr (hframe _ ?_)
      exact (hes.key_ne hdistinct hi hj hij).symm
  · obtain ⟨made, hcalls, hperm⟩ := hes.calls
    refine ⟨made ++ more, ?_, ?_⟩
    · rw [hmore, hcalls, List.append_assoc]
    · exact (hperm.append_right more).trans (flatMap_set_perm _ hi hmade).symm
  · intro key hkey
    have hold : ∀ e' ∈ es, e'.job.ing.metadata.key ≠ key := by
      intro e' he'
      have hjob' : e'.job ∈ (es.set i (e.next Scene.surroundings h).1).map Errand.job := by
        rw [hjobs]
        exact List.mem_map_of_mem he'
      obtain ⟨e'', he'', heq⟩ := List.mem_map.mp hjob'
      rw [← heq]
      exact hkey e'' he''
    rw [hframe key (hold e hmem), hes.elsewhere key hold]

/-- The errands are about the managed Ingresses in their order. -/
theorem Sound.map_ing (hes : Sound config custom token entries h₀ h es) :
    es.map (·.job.ing) = h₀.around.watched.filter config.manages :=
  map_ing_of_jobs hes.jobs

/-- An errand that is over has given its Ingress its fate. -/
theorem Sound.fate (hes : Sound config custom token entries h₀ h es)
    (hsettled : ∀ e ∈ es, ∃ result, e.stage = .settled result) {e : Errand} (he : e ∈ es) :
    ∃ outcome, e.stage = .settled (some outcome)
      ∧ Fate h₀.around.cluster h.around.cluster (wanted custom entries e.job.ing) e.job.ing
        outcome := by
  obtain ⟨result, hstage⟩ := hsettled e he
  have hsound := hes.sound e he
  rw [Errand.Sound, hstage] at hsound
  cases result with
  | none => exact hsound.elim
  | some outcome => exact ⟨outcome, hstage, hsound⟩

/-- When all errands of a batch are over, each Ingress has had its fate. -/
theorem Sound.publication (hes : Sound config custom token entries h₀ h es)
    (hsettled : ∀ e ∈ es, ∃ result, e.stage = .settled result) {outcomes : List UpdateOutcome}
    (houtcomes : outcomes.Perm (es.filterMap Errand.result?)) :
    Publication config custom entries h₀.around h.around outcomes := by
  let fate : Ingress → UpdateOutcome := fun ing =>
    outcomeFor h₀.around.cluster (wanted custom entries ing) ing
  -- All errands are over, so they have no result and no calls but those of their fates.
  have hresults : es.filterMap Errand.result?
      = (h₀.around.watched.filter config.manages).map fate := by
    rw [← hes.map_ing, List.map_map, ← List.filterMap_eq_map]
    refine List.filterMap_congr fun e he => ?_
    obtain ⟨outcome, hstage, hfate⟩ := hes.fate hsettled he
    rw [Errand.result?, hstage, hfate.eq_outcomeFor]
    rfl
  have hcalls : es.flatMap (Errand.callsMade (wanted custom entries) h₀.around.cluster)
      = (h₀.around.watched.filter config.manages).flatMap fun ing =>
        callsFor h₀.around.cluster (wanted custom entries ing) ing := by
    rw [← hes.map_ing, List.flatMap_map]
    refine List.flatMap_congr fun e he => ?_
    obtain ⟨outcome, hstage, -⟩ := hes.fate hsettled he
    rw [Errand.callsMade, hstage]
  have hmanaged : ∀ {ing}, ing ∈ h₀.around.watched → config.manages ing = true →
      ∃ e ∈ es, e.job.ing = ing := by
    intro ing hing hmanages
    have hmem := List.mem_filter.mpr ⟨hing, hmanages⟩
    rw [← hes.map_ing] at hmem
    exact List.mem_map.mp hmem
  refine ⟨⟨fate, ?_, ?_⟩, ?_, ?_⟩
  · rw [← hresults]
    exact houtcomes
  · intro ing hing hmanages
    obtain ⟨e, he, rfl⟩ := hmanaged hing hmanages
    obtain ⟨outcome, -, hfate⟩ := hes.fate hsettled he
    rw [hfate.eq_outcomeFor] at hfate
    exact hfate
  · obtain ⟨made, hmade, hperm⟩ := hes.calls
    rw [hcalls] at hperm
    exact ⟨made, hmade, hperm⟩
  · intro key hkey
    refine hes.elsewhere key fun e he => ?_
    have hing : e.job.ing ∈ h₀.around.watched.filter config.manages := by
      rw [← hes.map_ing]
      exact List.mem_map_of_mem he
    obtain ⟨hwatched, hmanages⟩ := List.mem_filter.mp hing
    exact hkey _ hwatched hmanages

end Batch

/-! ### Every order -/

section Order

variable (config : Config) (custom : CustomEntries) (token : Token) (entries : List Entry)

/-- The invariant of a pass that makes a batch of updates: it first asks for the watched Ingresses,
and then makes the updates of those that are managed. -/
def soundInvariant {h₀ : Host Scene} (hidle : token.Idle h₀) (hkeyed : h₀.around.cluster.Keyed)
    (hdistinct : (h₀.around.watched.map (·.metadata.key)).Nodup) :
    PassInvariant Scene.surroundings where
  deciding d h := h₀.Alike h ∧ (.deciding d = Pass.ofUpdates (updates config custom token entries)
    ∨ d = .done (.ok ((h₀.around.watched.filter config.manages).map
      (update custom token entries))))
  making es h := Sound config custom token entries h₀ h es
  deciding_of_alike hd halike := ⟨hd.1.trans halike, hd.2⟩
  making_of_alike hes halike :=
    { hes with
      steady := hes.steady.of_alike halike
      sound := by rw [halike.around]; exact hes.sound
      calls := by rw [halike.around]; exact hes.calls
      elsewhere := by rw [halike.around]; exact hes.elsewhere }
  step_deciding := by
    rintro d h ⟨halike, hd | rfl⟩ hne
    · cases hd
      refine ⟨halike, .inr ?_⟩
      show (Program.done (.ok ((h.around.watched.filter config.manages).map _)) : Decision) = _
      rw [halike.around]
    · exact absurd rfl (hne _)
  begin_making := by
    rintro us h ⟨halike, hd | hd⟩
    · cases hd
    · cases hd
      refine ⟨_, runs_ofWork config custom token entries h₀.around.watched,
        (Host.Steady.refl h₀).of_alike halike, rfl, ?_, ⟨[], ?_, ?_⟩, ?_⟩
      · intro e he
        obtain ⟨ing, -, rfl⟩ := List.mem_map.mp he
        show h.around.cluster.copy? ing = _
        rw [halike.around]
        rfl
      · rw [halike.around, List.append_nil]
      · refine List.Perm.of_eq (List.flatMap_eq_nil_iff.mpr fun e he => ?_).symm
        obtain ⟨ing, -, rfl⟩ := List.mem_map.mp he
        exact rfl
      · intro key _
        rw [halike.around]
  step_making hes hi := hes.step hidle hkeyed hdistinct hi

variable {config custom token entries}

/-- A batch that has ended has given all managed Ingresses their fates. -/
theorem publication_of_holds {h₀ h : Host Scene} {hidle : token.Idle h₀}
    {hkeyed : h₀.around.cluster.Keyed}
    {hdistinct : (h₀.around.watched.map (·.metadata.key)).Nodup}
    {result : Except Error (List UpdateOutcome)}
    (hheld : (soundInvariant config custom token entries hidle hkeyed hdistinct).Holds
      (.ended result) h) :
    ∃ outcomes, result = .ok outcomes
      ∧ Publication config custom entries h₀.around h.around outcomes := by
  cases result with
  | error e =>
      obtain ⟨-, hd | hd⟩ := hheld
      · cases hd
      · cases hd
  | ok outcomes =>
      obtain ⟨es, hsettled, houtcomes, hes⟩ := hheld
      exact ⟨outcomes, rfl, hes.publication hsettled houtcomes⟩

/-- A batch that nothing cancels brings the managed Ingresses up to date with some entries, whatever
calls fail and whatever the settings are. The watched Ingresses have different keys, and the cluster
stores each of its own under its key.

- In every order of turns at whose end the batch has ended, each managed Ingress has had its fate.
- Every order that gives each position turn after turn comes to such an end.
- The pool's own order is one of those. -/
theorem publication_of_every_order (config : Config) (custom : CustomEntries) (token : Token)
    (entries : List Entry) (h : Host Scene) (hidle : token.Idle h)
    (hkeyed : h.around.cluster.Keyed)
    (hdistinct : (h.around.watched.map (·.metadata.key)).Nodup) :
    (∀ order result h', Pass.follow (Host.answers Scene.surroundings) order
          (Pass.ofUpdates (updates config custom token entries), h) = (.ended result, h') →
        ∃ outcomes, result = .ok outcomes
          ∧ Publication config custom entries h.around h'.around outcomes)
      ∧ (∀ order, Fair order → ∃ n, (Pass.follow (Host.answers Scene.surroundings)
          ((List.range n).map order)
          (Pass.ofUpdates (updates config custom token entries), h)).1.isEnded = true)
      ∧ ∃ outcomes h', (((Pass.ofUpdates (updates config custom token entries)).finish
          (Host.answers Scene.surroundings)).run h).value = (.ok outcomes, h')
        ∧ Publication config custom entries h.around h'.around outcomes := by
  let I := soundInvariant config custom token entries hidle hkeyed hdistinct
  have hstart : I.Holds (Pass.ofUpdates (updates config custom token entries)) h :=
    ⟨Host.Alike.refl h, .inl rfl⟩
  have hend : ∀ order result h', Pass.follow (Host.answers Scene.surroundings) order
      (Pass.ofUpdates (updates config custom token entries), h) = (.ended result, h') →
      ∃ outcomes, result = .ok outcomes
        ∧ Publication config custom entries h.around h'.around outcomes := by
    intro order result h' hfollow
    have hheld := I.follow order (x := (Pass.ofUpdates _, h)) hstart
    rw [hfollow] at hheld
    exact publication_of_holds hheld
  refine ⟨hend, fun order hfair => ?_, ?_⟩
  · exact (Pass.goesThrough_follow order _).exists_isEnded hfair 0 rfl
  · have hrestless : (Pass.ofUpdates (updates config custom token entries)).Restless := by
      refine ⟨trivial, fun ingresses _ us hus u hu => ?_⟩
      cases hus
      obtain ⟨ing, -, rfl⟩ := List.mem_map.mp hu
      exact restless_update custom token entries ing
    obtain ⟨order, horder⟩ := Pass.finish_follow (Host.answers Scene.surroundings) hrestless h
    obtain ⟨outcomes, hresult, hpublication⟩ := hend order _ _ horder
    exact ⟨outcomes, _, Prod.ext hresult rfl, hpublication⟩

/-- Three watched Ingresses: one that shows another address, one that shows the right one, and one
that cannot be written. -/
def mixedHost : Host Scene where
  around :=
    { cluster :=
        { Memory.put (Memory.put (Memory.put {} (.ingress (ingressShowing "a" ["2.2.2.2"])))
            (.ingress (ingressShowing "b" ["1.1.1.1"]))) (.ingress (ingressShowing "c" [])) with
          failing := ["update_ingress_status default/c"] }
      watched := [ingressShowing "a" ["2.2.2.2"], ingressShowing "b" ["1.1.1.1"],
        ingressShowing "c" []] }
  leadership := Leadership.holding "ingress-0"

/-- Of these three one is updated, one is left alone and one fails. -/
theorem publication_of_mixedHost :
    ∃ outcomes h', (((Pass.ofUpdates (updates {} (fun _ => none) .caller
        [{ ip := some "1.1.1.1" }])).finish (Host.answers Scene.surroundings)).run mixedHost).value
          = (.ok outcomes, h')
      ∧ outcomes.Perm [.updated, .unchanged, .failed] := by
  have hkeyed : mixedHost.around.cluster.Keyed :=
    ((Memory.keyed_empty.put (.ingress (ingressShowing "a" ["2.2.2.2"]))).put
      (.ingress (ingressShowing "b" ["1.1.1.1"]))).put (.ingress (ingressShowing "c" []))
  obtain ⟨-, -, outcomes, h', hfinish, hpublication⟩ :=
    publication_of_every_order {} (fun _ => none) .caller [{ ip := some "1.1.1.1" }] mixedHost
      ⟨rfl, rfl⟩ hkeyed (by decide)
  obtain ⟨fate, hperm, hfate⟩ := hpublication.outcomes
  -- A fate is determined by the cluster at first, and so can be computed.
  refine ⟨outcomes, h', hfinish, hperm.trans (List.Perm.of_eq ?_)⟩
  have hmanaged : mixedHost.around.watched.filter (Config.manages {})
      = mixedHost.around.watched := by
    decide
  have houtcome : ∀ ing ∈ mixedHost.around.watched, fate ing
      = outcomeFor mixedHost.around.cluster [{ ip := some "1.1.1.1" }] ing := by
    intro ing hing
    have hmem : ing ∈ mixedHost.around.watched.filter (Config.manages {}) := by rwa [hmanaged]
    exact (hfate ing hing (List.mem_filter.mp hmem).2).eq_outcomeFor
  rw [hmanaged, List.map_congr_left houtcome]
  decide

end Order

end IngressController.Status
