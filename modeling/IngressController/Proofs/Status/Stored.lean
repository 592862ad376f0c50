import IngressController.Proofs.Status.Turns

/-!
# `IngressController.Proofs.Status.Stored`: properties of what a cluster stores

While a pass or the withdrawal goes on, all that changes in a cluster in memory is what it stores:
the copies of the Ingresses and the writes. A decision stores nothing, since it makes no call about
an Ingress. So a property of what is stored becomes an invariant of a pass if the errands that are
decided on satisfy it and a step of any one errand keeps it: `StoredProperty.invariant`. Two passes
are apart if each one's errands keep what is said of the other's: `StoredProperty.apart`.
-/

set_option autoImplicit false

namespace IngressController.Status

open Object

/-- What the cluster of a host stores. -/
def Host.stored (h : Host Scene) : TextMap Ingress × List Ingress :=
  h.around.cluster.stored

/-- How a host answers. -/
def Host.reply (h : Host Scene) (q : Ask) : q.Answer :=
  ((Host.answers Scene.surroundings q).run h).value.1

/-- Answering a request that is not about the copies of Ingresses stores nothing. -/
theorem Host.stored_answer {q : Ask} (hq : q.IsSteady) (h : Host Scene) :
    ((Host.answers Scene.surroundings q).run h).value.2.stored = h.stored := by
  cases q with
  | call c =>
      rw [Host.value_call]
      exact h.around.cluster.stored_answer hq
  | ingresses => rfl
  | leading => rfl
  | shuttingDown => rfl
  | cancelled token => cases token <;> rfl

/-- Alike hosts store the same. -/
theorem Host.Alike.stored_eq {h h' : Host Scene} (halike : h.Alike h') : h'.stored = h.stored := by
  rw [Host.stored, Host.stored, halike.around]

/-- A property of what is stored while a pass goes on from a host:

- `decided`: what the pass decides on;
- `always`: what is stored at all times;
- `errands`: what is stored while errands are made. -/
structure StoredProperty (h₀ : Host Scene) where
  decided : Except Error (List Update) → Prop
  always : TextMap Ingress × List Ingress → Prop
  errands : List Errand → TextMap Ingress × List Ingress → Prop
  begin_errands : ∀ {us : List Update} {stored : TextMap Ingress × List Ingress},
    decided (.ok us) → always stored → ∃ es, Runs (Batch.ofWork us) es ∧ errands es stored
  step_errands : ∀ {es : List Errand} {h : Host Scene} {i : Nat} {e : Errand}, Host.Steady h₀ h →
    always h.stored → errands es h.stored → es[i]? = some e →
    always (e.next Scene.surroundings h).2.stored
      ∧ errands (es.set i (e.next Scene.surroundings h).1) (e.next Scene.surroundings h).2.stored

namespace StoredProperty

variable {h₀ h : Host Scene}

/-- A decision that asks for nothing about the copies of Ingresses, and comes to an end that
satisfies `post` if it is answered as the host answers. -/
def DecidesOn (h₀ : Host Scene) (post : Except Error (List Update) → Prop) (d : Decision) : Prop :=
  d.Ensures Ask.IsSteady (fun q a => a = h₀.reply q) post

/-- A step of such a decision leads to another one. -/
theorem DecidesOn.step {post : Except Error (List Update) → Prop} {d : Decision}
    (hd : DecidesOn h₀ post d) (hs : Host.Steady h₀ h) :
    DecidesOn h₀ post ((d.step (Host.answers Scene.surroundings)).run h).value.1 :=
  Program.Ensures.step hd h fun _ hq => hs.reply hq

/-- A step of such a decision stores nothing. -/
theorem DecidesOn.stored_step {post : Except Error (List Update) → Prop} {d : Decision}
    (hd : DecidesOn h₀ post d) (h : Host Scene) :
    ((d.step (Host.answers Scene.surroundings)).run h).value.2.stored = h.stored :=
  Program.Ensures.step_state (I := fun h' : Host Scene => h'.stored = h.stored) hd rfl
    fun _ hq => Host.stored_answer hq h

/-- The invariant of a pass with such a property. -/
def invariant (P : StoredProperty h₀) : PassInvariant Scene.surroundings where
  deciding d h := Host.Steady h₀ h ∧ P.always h.stored ∧ DecidesOn h₀ P.decided d
  making es h := Host.Steady h₀ h ∧ P.always h.stored ∧ P.errands es h.stored
  deciding_of_alike hd halike :=
    ⟨hd.1.of_alike halike, by rw [halike.stored_eq]; exact hd.2.1, hd.2.2⟩
  making_of_alike hes halike :=
    ⟨hes.1.of_alike halike, by rw [halike.stored_eq]; exact hes.2.1,
      by rw [halike.stored_eq]; exact hes.2.2⟩
  step_deciding := by
    rintro d h ⟨hsteady, halways, hd⟩ -
    refine ⟨hsteady.step d, ?_, hd.step hsteady⟩
    rw [hd.stored_step h]
    exact halways
  begin_making := by
    rintro us h ⟨hsteady, halways, hd⟩
    obtain ⟨es, hruns, herrands⟩ := P.begin_errands hd halways
    exact ⟨es, hruns, hsteady, halways, herrands⟩
  step_making := by
    rintro es h i e ⟨hsteady, halways, herrands⟩ hi
    exact ⟨hsteady.next e, P.step_errands hsteady halways herrands hi⟩

/-- The errands of one pass keep the property of another one, if what they store keeps it. -/
theorem apart {P P' : StoredProperty h₀}
    (halways : ∀ {es : List Errand} {h : Host Scene} {i : Nat} {e : Errand}, Host.Steady h₀ h →
      P.always h.stored → P'.always h.stored → P'.errands es h.stored → es[i]? = some e →
      P.always (e.next Scene.surroundings h).2.stored)
    (herrands : ∀ {es es' : List Errand} {h : Host Scene} {i : Nat} {e : Errand},
      Host.Steady h₀ h → P.always h.stored → P.errands es' h.stored → P'.always h.stored →
      P'.errands es h.stored → es[i]? = some e →
      P.errands es' (e.next Scene.surroundings h).2.stored) :
    P.invariant.Apart P'.invariant where
  decision := by
    rintro p d h hp ⟨hsteady, -, hd⟩
    refine hp.transfer ?_ ?_
    · rintro d' ⟨-, halways', hd'⟩
      exact ⟨hsteady.step d, by rw [hd.stored_step h]; exact halways', hd'⟩
    · rintro es ⟨-, halways', hes⟩
      exact ⟨hsteady.step d, by rw [hd.stored_step h]; exact halways',
        by rw [hd.stored_step h]; exact hes⟩
  errand := by
    rintro p es i e h hp ⟨hsteady, halways', hes⟩ hi
    refine hp.transfer ?_ ?_
    · rintro d ⟨-, hd, hdecides⟩
      exact ⟨hsteady.next e, halways hsteady hd halways' hes hi, hdecides⟩
    · rintro es' ⟨-, hd, hes'⟩
      exact ⟨hsteady.next e, halways hsteady hd halways' hes hi,
        herrands hsteady hd hes' halways' hes hi⟩

end StoredProperty

end IngressController.Status
