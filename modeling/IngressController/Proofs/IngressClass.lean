import IngressController.Controller.Basic

/-!
# One lock for each managed Ingress

Two rules decide which controllers write to an Ingress. Membership says which classes manage it,
and a lock, named after a class, lets one controller of that class write at a time. Each rule has
its own convention for the empty class: membership counts a controller without a class among those
of the default class for the Ingresses that ask for no class, and the lock of such a controller is
named after the default class.

The two conventions meet in the effective class of a controller, its class or else the default
one. A lock is told by the effective class alone (`lockName_eq_iff`), and all controllers that
manage an Ingress have one effective class, which the Ingress decides (`effective_of_manages`).
`OneLock` puts this together for two controllers with the same stem and the same default class.
It holds for all texts: the default class may be empty, and the Ingress may ask for nothing.

The converse of `effective_of_manages` fails. A controller without a class has the lock of the
default class, but an Ingress that names the default class is not its own. While it leads, nobody
writes to that Ingress (`manages_effective`, `idle_beside_default`).
-/

set_option autoImplicit false

namespace IngressController.IngressClass

open Object

/-- The class that a controller works for: its own, or else the default one. -/
def effective (controllerClass defaultClass : String) : String :=
  if controllerClass = "" then defaultClass else controllerClass

@[simp] theorem effective_empty (d : String) : effective "" d = d := rfl

theorem effective_of_ne {c : String} (d : String) (h : c ≠ "") : effective c d = c :=
  if_neg h

theorem lockName_def (stem c d : String) : lockName stem c d = stem ++ "-" ++ effective c d := rfl

/-- A lock is told by the effective class alone. -/
theorem lockName_eq_iff (stem d c₁ c₂ : String) :
    lockName stem c₁ d = lockName stem c₂ d ↔ effective c₁ d = effective c₂ d := by
  rw [lockName_def, lockName_def]
  exact String.append_right_inj (stem ++ "-")

/-- The classes that manage an Ingress: the one it asks for, which is the empty one if it asks for
none, and in that case the default class as well. -/
theorem manages_iff {c d : String} {ing : Ingress} :
    manages c d ing = true ↔ c = requested ing ∨ requested ing = "" ∧ c = d := by
  unfold manages
  by_cases h : requested ing = ""
  · simp [h]
  · rw [if_neg h, beq_iff_eq, eq_comm]
    simp [h]

/-- A controller that manages an Ingress has the effective class that the Ingress decides. -/
theorem effective_of_manages {c d : String} {ing : Ingress} (h : manages c d ing = true) :
    effective c d = effective (requested ing) d := by
  rcases manages_iff.mp h with rfl | ⟨hnone, rfl⟩
  · rfl
  · -- The controller of the default class: an Ingress without a class falls back on it too.
    by_cases hc : c = ""
    · rw [hc, hnone]
    · rw [effective_of_ne c hc, hnone, effective_empty]

/-- All controllers that manage an Ingress elect their leader under one lock. -/
theorem lockName_eq_of_manages (stem : String) {d c₁ c₂ : String} {ing : Ingress}
    (h₁ : manages c₁ d ing = true) (h₂ : manages c₂ d ing = true) :
    lockName stem c₁ d = lockName stem c₂ d := by
  rw [lockName_eq_iff, effective_of_manages h₁, effective_of_manages h₂]

/-- Whatever a controller manages, the controller of its effective class manages too. -/
theorem manages_effective {c d : String} {ing : Ingress} (h : manages c d ing = true) :
    manages (effective c d) d ing = true := by
  rw [manages_iff]
  by_cases hc : c = ""
  · -- Only Ingresses without a class are left to a controller without a class, or to the
    -- controller of an empty default class; both are the controller of the default class.
    subst hc
    rcases manages_iff.mp h with hnone | ⟨hnone, hd⟩
    · exact .inr ⟨hnone.symm, effective_empty d⟩
    · exact .inr ⟨hnone, effective_empty d⟩
  · rw [effective_of_ne d hc]
    exact manages_iff.mp h

/-- How the locks of two controllers and the Ingresses they manage belong together. -/
structure OneLock (stem d c₁ c₂ : String) : Prop where
  /-- The controllers of a common Ingress have one lock. -/
  common : ∀ ing : Ingress, manages c₁ d ing = true → manages c₂ d ing = true →
    lockName stem c₁ d = lockName stem c₂ d
  /-- One lock means one effective class. -/
  effective : lockName stem c₁ d = lockName stem c₂ d ↔
    IngressClass.effective c₁ d = IngressClass.effective c₂ d
  /-- Controllers with different locks have no Ingress in common. -/
  apart : lockName stem c₁ d ≠ lockName stem c₂ d →
    ∀ ing : Ingress, ¬ (manages c₁ d ing = true ∧ manages c₂ d ing = true)

/-- Membership and the names of the locks agree, for all texts. -/
theorem oneLock (stem d c₁ c₂ : String) : OneLock stem d c₁ c₂ where
  common _ h₁ h₂ := lockName_eq_of_manages stem h₁ h₂
  effective := lockName_eq_iff stem d c₁ c₂
  apart := by
    intro hne ing ⟨h₁, h₂⟩
    exact hne (lockName_eq_of_manages stem h₁ h₂)

/-- An Ingress without a class has two kinds of controllers under the one lock of the default
class, and a controller of another class has a lock of its own and leaves the Ingress alone. -/
theorem oneLock_of_unclassed :
    lockName "leader" "" "haproxy" = lockName "leader" "haproxy" "haproxy" ∧
      lockName "leader" "nginx" "haproxy" ≠ lockName "leader" "haproxy" "haproxy" ∧
      ¬ (manages "nginx" "haproxy" {} = true ∧ manages "haproxy" "haproxy" {} = true) := by
  have hother : lockName "leader" "nginx" "haproxy" ≠ lockName "leader" "haproxy" "haproxy" := by
    decide
  exact ⟨(oneLock "leader" "haproxy" "" "haproxy").common {} (by decide) (by decide), hother,
    (oneLock "leader" "haproxy" "nginx" "haproxy").apart hother {}⟩

/-- A controller without a class has the lock of the default class, and an Ingress that names the
default class is managed by the controller of that class only. -/
theorem idle_beside_default (stem : String) {d : String} {ing : Ingress}
    (hnamed : requested ing = d) (hd : d ≠ "") :
    lockName stem "" d = lockName stem d d ∧ manages d d ing = true ∧ manages "" d ing = false := by
  refine ⟨?_, ?_, ?_⟩
  · rw [lockName_eq_iff, effective_empty, effective_of_ne d hd]
  · exact manages_iff.mpr (.inl hnamed.symm)
  · rw [← Bool.not_eq_true, manages_iff]
    rintro (h | ⟨h, -⟩)
    · exact hd (hnamed ▸ h.symm)
    · exact hd (hnamed ▸ h)

end IngressController.IngressClass

namespace IngressController.Controller

open CommandLine

/-- Two controllers that keep the status of a common Ingress elect one leader between them, when
they agree on the stem of the locks, on the default class and on the namespace of their pods. -/
theorem electionConfig_lock_eq_of_manages {o₁ o₂ : Options} {pod₁ pod₂ : Status.PodDetails}
    {ing : Object.Ingress} (hstem : o₁.electionId = o₂.electionId)
    (hdefault : o₁.defaultIngressClass = o₂.defaultIngressClass)
    (hpods : pod₁.namespaceName = pod₂.namespaceName)
    (h₁ : o₁.statusConfig.manages ing = true) (h₂ : o₂.statusConfig.manages ing = true) :
    (electionConfig o₁ pod₁).name = (electionConfig o₂ pod₂).name ∧
      (electionConfig o₁ pod₁).namespaceName = (electionConfig o₂ pod₂).namespaceName := by
  refine ⟨?_, hpods⟩
  have h₁' : IngressClass.manages o₁.ingressClass o₂.defaultIngressClass ing = true := by
    rw [← hdefault]
    exact h₁
  show IngressClass.lockName o₁.electionId o₁.ingressClass o₁.defaultIngressClass
    = IngressClass.lockName o₂.electionId o₂.ingressClass o₂.defaultIngressClass
  rw [hstem, hdefault]
  exact IngressClass.lockName_eq_of_manages o₂.electionId h₁' h₂

end IngressController.Controller
