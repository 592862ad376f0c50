import IngressController.Proofs.Status.Publication
import IngressController.Proofs.Status.Stored
import IngressController.Proofs.Text.Map

/-!
# `IngressController.Proofs.Status.Undisturbed`: passes that go on by themselves

As long as nobody else does anything, a pass or the withdrawal is answered the same at all times
until it writes. So what it decides on is settled when it begins, and what its updates do is told by
the cluster in which they begin. They begin in a later host than the decision, which has made calls
in between, but stored nothing.

* `undisturbedInvariant`: a pass that decides on the updates of the managed Ingresses to some
  entries, and then makes them.
* `publication_of_undisturbed`: so if it ends, each managed Ingress has had its fate.
* `Publication.ne_failed`: none of them fails if all Ingresses of the cluster are watched as they
  are and no call fails.
-/

set_option autoImplicit false

namespace IngressController.Status

open Object
open Cluster (Memory)

/-! ### Updates that are settled in advance -/

section Updates

variable {h₀ : Host Scene} {token : Token}

/-- The invariant of the updates, if they begin in some later host. -/
def laterInvariant (setting : Setting) (entries : List Entry) {h₁ : Host Scene}
    (hsteady : Host.Steady h₀ h₁) (hidle : token.Idle h₀) (hkeyed : h₀.around.cluster.Keyed)
    (hdistinct : (h₀.around.watched.map (·.metadata.key)).Nodup) :
    PassInvariant Scene.surroundings :=
  soundInvariant setting.config setting.custom token entries (hidle.of_steady hsteady)
    (hsteady.keyed hkeyed) (by rw [hsteady.watched]; exact hdistinct)

/-- The invariant of a pass that decides to update the managed Ingresses to some entries. Until the
updates begin nothing is stored, and from then on they are a batch for these entries. -/
def undisturbedInvariant (setting : Setting) (entries : List Entry) (hidle : token.Idle h₀)
    (hkeyed : h₀.around.cluster.Keyed)
    (hdistinct : (h₀.around.watched.map (·.metadata.key)).Nodup) :
    PassInvariant Scene.surroundings where
  deciding d h := Host.Steady h₀ h ∧ h.stored = h₀.stored
    ∧ StoredProperty.DecidesOn h₀ (fun r => r = .ok
      ((h₀.around.watched.filter setting.config.manages).map
        (update setting.custom token entries))) d
  making es h := ∃ h₁, Host.Steady h₀ h₁ ∧ h₁.stored = h₀.stored
    ∧ Sound setting.config setting.custom token entries h₁ h es
  deciding_of_alike hd halike :=
    ⟨hd.1.of_alike halike, halike.stored_eq.trans hd.2.1, hd.2.2⟩
  making_of_alike := by
    rintro es h h' ⟨h₁, hsteady, hstored, hes⟩ halike
    exact ⟨h₁, hsteady, hstored,
      (laterInvariant setting entries hsteady hidle hkeyed hdistinct).making_of_alike hes halike⟩
  step_deciding := by
    rintro d h ⟨hsteady, hstored, hd⟩ -
    exact ⟨hsteady.step d, (hd.stored_step h).trans hstored, hd.step hsteady⟩
  begin_making := by
    rintro us h ⟨hsteady, hstored, hd⟩
    have hus : (Program.done (.ok us) : Decision) = .done (.ok
        ((h.around.watched.filter setting.config.manages).map
          (update setting.custom token entries))) := by
      rw [hsteady.watched]
      exact congrArg Program.done hd
    obtain ⟨es, hruns, hes⟩ :=
      (laterInvariant setting entries hsteady hidle hkeyed hdistinct).begin_making
        ⟨Host.Alike.refl h, .inr hus⟩
    exact ⟨es, hruns, h, hsteady, hstored, hes⟩
  step_making := by
    rintro es h i e ⟨h₁, hsteady, hstored, hes⟩ hi
    exact ⟨h₁, hsteady, hstored,
      (laterInvariant setting entries hsteady hidle hkeyed hdistinct).step_making hes hi⟩

/-- A pass that has ended undisturbed has given all managed Ingresses their fates, since some later
host that stores what was stored at first. -/
theorem publication_of_undisturbed {setting : Setting} {entries : List Entry} {h : Host Scene}
    {hidle : token.Idle h₀} {hkeyed : h₀.around.cluster.Keyed}
    {hdistinct : (h₀.around.watched.map (·.metadata.key)).Nodup}
    {result : Except Error (List UpdateOutcome)}
    (hheld : (undisturbedInvariant setting entries hidle hkeyed hdistinct).Holds
      (.ended result) h) :
    ∃ outcomes h₁, result = .ok outcomes ∧ Host.Steady h₀ h₁ ∧ h₁.stored = h₀.stored
      ∧ Publication setting.config setting.custom entries h₁.around h.around outcomes := by
  cases result with
  | error e =>
      obtain ⟨-, -, hd⟩ := hheld
      cases hd
  | ok outcomes =>
      obtain ⟨es, hsettled, houtcomes, h₁, hsteady, hstored, hes⟩ := hheld
      exact ⟨outcomes, h₁, rfl, hsteady, hstored, hes.publication hsettled houtcomes⟩

end Updates

/-! ### Ingresses that are watched as they are -/

/-- The Ingresses of a cluster have different keys. -/
theorem nodup_map_key {m : Memory} (hkeyed : m.Keyed) :
    (m.ingresses.values.map (·.metadata.key)).Nodup := by
  have hkeys : m.ingresses.values.map (·.metadata.key) = m.ingresses.keys := by
    rw [TextMap.values, List.map_map]
    refine List.map_congr_left fun entry hentry => ?_
    exact hkeyed entry.1 entry.2 ((m.ingresses.get?_eq_some_iff ..).mpr hentry)
  rw [hkeys]
  exact m.ingresses.nodup_keys

/-- As long as nothing is stored, the Ingresses are watched as they are if they were at first. -/
theorem Host.Steady.perm_watched {h₀ h : Host Scene} (hs : Host.Steady h₀ h)
    (hstored : h.stored = h₀.stored)
    (hwatched : h₀.around.watched.Perm h₀.around.cluster.ingresses.values) :
    h.around.watched.Perm h.around.cluster.ingresses.values := by
  rw [hs.watched, show h.around.cluster.ingresses = h₀.around.cluster.ingresses from
    congrArg Prod.fst hstored]
  exact hwatched

/-- Of a cluster that is watched as it is, an Ingress is watched exactly if it is its own copy. -/
theorem mem_watched_iff {m : Memory} {watched : List Ingress} (hkeyed : m.Keyed)
    (hwatched : watched.Perm m.ingresses.values) (ing : Ingress) :
    ing ∈ watched ↔ m.copy? ing = some ing := by
  rw [hwatched.mem_iff, TextMap.mem_values_iff]
  constructor
  · rintro ⟨key, hget⟩
    rw [Memory.copy?, hkeyed key ing hget]
    exact hget
  · exact fun hget => ⟨_, hget⟩

/-- If no call fails, the update of an Ingress that the cluster has does not fail. -/
theorem Fate.ne_failed {m m' : Memory} {entries : List Entry} {ing : Ingress}
    {outcome : UpdateOutcome} (hfate : Fate m m' entries ing outcome) (hsucceed : m.failing = [])
    (hcopy : (m.copy? ing).isSome = true) : outcome ≠ .failed := by
  have hnever := Memory.not_fails_of_succeeds hsucceed
  rw [hfate.eq_outcomeFor, outcomeFor]
  split
  · decide
  · rw [if_pos ⟨⟨hnever _, hcopy⟩, hnever _⟩]
    decide

/-- So no update of a batch fails if all Ingresses of the cluster are watched as they are. -/
theorem Publication.ne_failed {config : Config} {custom : CustomEntries} {entries : List Entry}
    {before after : Scene} {outcomes : List UpdateOutcome}
    (hp : Publication config custom entries before after outcomes)
    (hsucceed : before.cluster.failing = []) (hkeyed : before.cluster.Keyed)
    (hwatched : before.watched.Perm before.cluster.ingresses.values) :
    ∀ o ∈ outcomes, o ≠ .failed := by
  intro o ho
  obtain ⟨fate, hperm, hfate⟩ := hp.outcomes
  obtain ⟨ing, hing, rfl⟩ := List.mem_map.mp (hperm.mem_iff.mp ho)
  obtain ⟨hmem, hmanages⟩ := List.mem_filter.mp hing
  have hcopy := (mem_watched_iff hkeyed hwatched ing).mp hmem
  exact (hfate ing hmem hmanages).ne_failed hsucceed (by rw [hcopy]; rfl)

end IngressController.Status
