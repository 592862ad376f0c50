/-!
# What a computation reports besides its result

Computations here are pure; what they would log and measure on the way is a list of notes that
comes with the result. `Reported` collects them in order, so a log line or a metric is data that
can be compared, and a caller that needs only the value drops them.
-/

set_option autoImplicit false

namespace IngressController

/-! ### Notes -/

/-- How urgent a log line is. -/
inductive Level where
  | debug
  | info
  | warn
  | error
  deriving DecidableEq, Repr

/-- The level in capitals, as it stands in front of a log line. -/
def Level.label : Level → String
  | .debug => "DEBUG"
  | .info => "INFO"
  | .warn => "WARN"
  | .error => "ERROR"

/-- Something that a metric counts or shows. -/
inductive Measurement where
  /-- One Ingress has been through a status pass, with this outcome. -/
  | statusUpdate (outcome : String)
  /-- A status pass has ended after so many milliseconds. -/
  | statusSync (success : Bool) (milliseconds : Nat)
  /-- A pass over the TCP services table has made so many backends. -/
  | tcpBackends (count : Nat)
  /-- An entry of the TCP services table has been skipped. -/
  | tcpSkip (reason : String)
  /-- An annotation of this feature could not be honoured. -/
  | annotationError (feature : String)
  /-- Leadership has been gained or lost. -/
  | leadership (leading : Bool)
  deriving DecidableEq

/-- One thing that is reported. -/
inductive Note where
  | log (level : Level) (message : String)
  | measure (measurement : Measurement)
  deriving DecidableEq

namespace Note

/-- The line of a log note: its level and its message. -/
def line? : Note → Option String
  | log level message => some (level.label ++ " " ++ message)
  | measure _ => none

/-- The measurement of a metric note. -/
def measurement? : Note → Option Measurement
  | log _ _ => none
  | measure m => some m

end Note

/-! ### Results with notes -/

/-- A value and the notes made on the way to it, in order. -/
structure Reported (α : Type) where
  value : α
  notes : List Note := []

namespace Reported

instance : Monad Reported where
  pure a := { value := a }
  bind x f := { value := (f x.value).value, notes := x.notes ++ (f x.value).notes }

variable {α β : Type}

@[simp] theorem value_pure (a : α) : (pure a : Reported α).value = a := rfl

@[simp] theorem notes_pure (a : α) : (pure a : Reported α).notes = [] := rfl

@[simp] theorem value_bind (x : Reported α) (f : α → Reported β) :
    (x >>= f).value = (f x.value).value := rfl

@[simp] theorem notes_bind (x : Reported α) (f : α → Reported β) :
    (x >>= f).notes = x.notes ++ (f x.value).notes := rfl

@[simp] theorem value_map (f : α → β) (x : Reported α) : (f <$> x).value = f x.value := rfl

instance : LawfulMonad Reported :=
  LawfulMonad.mk' _ (fun x => by cases x; simp [Functor.map]) (fun _ _ => by simp [bind, pure])
    (fun _ _ _ => by simp [bind, List.append_assoc])

/-- Makes one note. -/
def note (n : Note) : Reported Unit :=
  { value := (), notes := [n] }

/-- Logs a line of a level. -/
def log (level : Level) (message : String) : Reported Unit :=
  note (.log level message)

/-- Takes a measurement. -/
def measure (m : Measurement) : Reported Unit :=
  note (.measure m)

end Reported

end IngressController
