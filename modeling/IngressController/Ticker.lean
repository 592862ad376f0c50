/-!
# Timers that tick at intervals

A ticker is due at once and then after every period. A tick that is seen late can either delay all
later ones, so that there is a whole period to the next, or be left out, so that later ones keep to
the multiples of the period. A tick seen within five milliseconds is not late.
-/

set_option autoImplicit false

namespace IngressController

/-- A timer with its period and the time of its next tick, in milliseconds. -/
structure Ticker where
  period : Nat
  next : Nat
  deriving DecidableEq

namespace Ticker

/-- A timer that is due at a time. -/
def start (period now : Nat) : Ticker where
  period := period
  next := now

/-- Whether a tick is due. -/
def isDue (t : Ticker) (now : Nat) : Bool :=
  decide (t.next ≤ now)

/-- Whether the tick that is due is seen late. -/
def isLate (t : Ticker) (now : Nat) : Bool :=
  decide (t.next + 5 < now)

/-- The timer after the tick that is due; a late one delays the next. -/
def tickDelaying (t : Ticker) (now : Nat) : Ticker :=
  { t with next := if t.isLate now then now + t.period else t.next + t.period }

/-- The timer after the tick that is due; ticks missed by then are left out. -/
def tickSkipping (t : Ticker) (now : Nat) : Ticker :=
  { t with next := if t.isLate now then now + t.period - (now - t.next) % t.period
    else t.next + t.period }

end Ticker

end IngressController
