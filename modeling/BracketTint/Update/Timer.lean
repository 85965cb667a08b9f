/-!
# Quiet Timers

A quiet timer tells when nothing has happened for a while. It is started at each event, and it is
due once the delay has passed since the last start. Times are milliseconds from some common origin
and need not come in order: a time before the last start counts as no time at all.
-/

namespace BracketTint

/-- A timer that waits for a pause. -/
structure QuietTimer where
  /-- The length of the pause, in milliseconds. -/
  delay : Nat
  /-- When the timer was last started, if it runs. -/
  since : Option Nat := none
deriving DecidableEq, Repr

namespace QuietTimer

/-- The delay of a timer if none is chosen. -/
def defaultDelay : Nat := 200

/-- Starts the timer, again if it runs. -/
def start (t : QuietTimer) (now : Nat) : QuietTimer := { t with since := some now }

/-- Stops the timer. -/
def stop (t : QuietTimer) : QuietTimer := { t with since := none }

/-- Whether the timer runs and its delay has passed. -/
def isDue (t : QuietTimer) (now : Nat) : Bool :=
  t.since.any fun start => decide (t.delay ≤ now - start)

end QuietTimer

end BracketTint
