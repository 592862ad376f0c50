import IngressController.TcpService.Backend

/-!
# `IngressController.Proofs.TcpService.Selection`: the port of a Service that a text selects

A text selects a port of a Service by its name, by its target or by its number. Name and target go
before the number, however the ports are ordered: the text is read as a number only if no port has
it as its name or as the text of its target. Among several ports the first that is declared counts.

* `IsFirst`: the first element of a list with a property, which is what a search for it finds.
* `PortFor`: the port that a text selects.
* `findPort?_eq_some_iff`: it is the port that is found.
-/

set_option autoImplicit false

namespace IngressController.TcpService

open Object

/-! ### The first with a property -/

section First

variable {α : Type} {P : α → Prop} {p : α → Bool} {xs : List α} {x : α}

/-- An element of a list is the first one with a property. -/
def IsFirst (P : α → Prop) (xs : List α) (x : α) : Prop :=
  P x ∧ ∃ before after, xs = before ++ x :: after ∧ ∀ y ∈ before, ¬ P y

theorem IsFirst.mem (h : IsFirst P xs x) : x ∈ xs := by
  obtain ⟨-, before, after, rfl, -⟩ := h
  exact List.mem_append_right _ (List.mem_cons_self ..)

/-- A search finds the first element. -/
theorem find?_eq_some_iff_isFirst (h : ∀ x, p x = true ↔ P x) :
    xs.find? p = some x ↔ IsFirst P xs x := by
  simp only [List.find?_eq_some_iff_append, IsFirst, ← h, Bool.not_eq_true', Bool.not_eq_true]

/-- It finds nothing if there is none. -/
theorem find?_eq_none_iff_forall (h : ∀ x, p x = true ↔ P x) :
    xs.find? p = none ↔ ∀ x ∈ xs, ¬ P x := by
  simp only [List.find?_eq_none, h]

end First

/-! ### Ports of a Service -/

/-- The ports that a Service declares. -/
def declaredPorts (service : Service) : List ServicePort :=
  (service.spec.bind (·.ports)).getD []

/-- A port has a text for its name, or for its target in words or in digits. -/
def HasText (text : String) (port : ServicePort) : Prop :=
  port.name = some text ∨ port.target = some (.name text)
    ∨ ∃ number, port.target = some (.number number) ∧ Text.signedDecimal number = text

/-- The port of a Service that a text selects. -/
inductive PortFor (service : Service) (text : String) (port : ServicePort) : Prop
  /-- The first one that has the text for its name or its target. -/
  | byText (h : IsFirst (HasText text) (declaredPorts service) port)
  /-- If there is none, the first one with the number that the text is read as. -/
  | byNumber {number : Int} (hnone : ∀ p ∈ declaredPorts service, ¬ HasText text p)
      (hread : Text.readSigned? 32 text = some number)
      (h : IsFirst (·.port = number) (declaredPorts service) port)

section Ports

variable {service : Service} {text : String} {port : ServicePort}

theorem isNamed_iff (text : String) (port : ServicePort) :
    isNamed text port = true ↔ HasText text port := by
  rw [isNamed, HasText, Bool.or_eq_true, beq_iff_eq, beq_iff_eq]
  refine or_congr_right ?_
  cases port.target with
  | none => simp
  | some target => cases target <;> simp [targetText]

/-- A Service without a list of ports declares none. -/
theorem findPort?_eq (service : Service) (text : String) :
    findPort? service text = ((declaredPorts service).find? (isNamed text)).or
      ((Text.readSigned? 32 text).bind fun number =>
        (declaredPorts service).find? (·.port == number)) := by
  rw [findPort?, declaredPorts]
  cases service.spec with
  | none => cases Text.readSigned? 32 text <;> rfl
  | some spec =>
      cases hports : spec.ports with
      | none => cases Text.readSigned? 32 text <;> simp [hports]
      | some ports =>
          cases hfound : ports.find? (isNamed text) <;> simp [hports, hfound]

/-- The port that is found is the one that the text selects. -/
theorem findPort?_eq_some_iff :
    findPort? service text = some port ↔ PortFor service text port := by
  have hnumber : ∀ (number : Int) (p : ServicePort), (p.port == number) = true ↔ p.port = number :=
    fun _ _ => beq_iff_eq
  rw [findPort?_eq]
  constructor
  · intro h
    cases hfound : (declaredPorts service).find? (isNamed text) with
    | some p =>
        rw [hfound, Option.some_or, Option.some.injEq] at h
        subst h
        exact .byText ((find?_eq_some_iff_isFirst (isNamed_iff text)).mp hfound)
    | none =>
        rw [hfound, Option.none_or, Option.bind_eq_some_iff] at h
        obtain ⟨number, hread, hport⟩ := h
        exact .byNumber ((find?_eq_none_iff_forall (isNamed_iff text)).mp hfound) hread
          ((find?_eq_some_iff_isFirst (hnumber number)).mp hport)
  · rintro (h | ⟨hnone, hread, h⟩)
    · rw [(find?_eq_some_iff_isFirst (isNamed_iff text)).mpr h, Option.some_or]
    · rw [(find?_eq_none_iff_forall (isNamed_iff text)).mpr hnone, Option.none_or, hread,
        Option.bind_some, (find?_eq_some_iff_isFirst (hnumber _)).mpr h]

/-- None is found if the text selects none. -/
theorem findPort?_eq_none_iff :
    findPort? service text = none ↔ ∀ port, ¬ PortFor service text port := by
  simp only [Option.eq_none_iff_forall_ne_some, ne_eq, findPort?_eq_some_iff]

end Ports

end IngressController.TcpService
