import IngressController.Metrics.Registry

/-!
# `IngressController.Proofs.Metrics`: what a computation leaves in the registry

The measurements among the notes of a computation are recorded in their order, and each of them
changes one metric. A counter with a label goes up by one for this label and stays as it is for the
others.

* `Reported.measurements`: the measurements of a computation, part by part.
* `foldl_record_annotationErrors` and `getD_get?_foldl_increment`: some errors of annotations change
  one counter, by the number of errors of each feature.
-/

set_option autoImplicit false

namespace IngressController

/-! ### The measurements of a computation -/

namespace Reported

variable {α β : Type}

/-- The measurements among the notes. -/
def measurements (x : Reported α) : List Measurement :=
  x.notes.filterMap Note.measurement?

@[simp] theorem measurements_pure (a : α) : (pure a : Reported α).measurements = [] := rfl

@[simp] theorem measurements_bind (x : Reported α) (f : α → Reported β) :
    (x >>= f).measurements = x.measurements ++ (f x.value).measurements :=
  List.filterMap_append ..

@[simp] theorem measurements_map (f : α → β) (x : Reported α) :
    (f <$> x).measurements = x.measurements := by
  rw [← bind_pure_comp, measurements_bind, measurements_pure, List.append_nil]

@[simp] theorem measurements_log (level : Level) (message : String) :
    (log level message).measurements = [] := rfl

@[simp] theorem measurements_measure (m : Measurement) : (measure m).measurements = [m] := rfl

end Reported

/-! ### Counters -/

namespace Metrics

/-- A counter goes up by one for the label that is counted. -/
theorem getD_get?_increment (counter : TextMap Nat) (label label' : String) :
    ((increment counter label).get? label').getD 0
      = (counter.get? label').getD 0 + if label = label' then 1 else 0 := by
  rw [increment, TextMap.get?_insert]
  split
  · next h => rw [h, Option.getD_some]
  · rfl

/-- After some counts it has gone up by the number of times that the label is among them. -/
theorem getD_get?_foldl_increment (labels : List String) (counter : TextMap Nat) (label : String) :
    ((labels.foldl increment counter).get? label).getD 0
      = (counter.get? label).getD 0 + labels.count label := by
  induction labels generalizing counter with
  | nil => rfl
  | cons first rest ih =>
      rw [List.foldl_cons, ih, getD_get?_increment, List.count_cons]
      simp only [beq_iff_eq]
      omega

/-- Errors of annotations are counted in one metric. -/
theorem foldl_record_annotationErrors (features : List String) (r : Registry) :
    (features.map Measurement.annotationError).foldl Registry.record r
      = { r with annotationErrors := features.foldl increment r.annotationErrors } := by
  induction features generalizing r with
  | nil => rfl
  | cons first rest ih =>
      rw [List.map_cons, List.foldl_cons, ih]
      rfl

end Metrics

end IngressController
