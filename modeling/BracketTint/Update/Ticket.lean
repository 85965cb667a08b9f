/-!
# Tickets

Each waiting update has a ticket, which may be handed out. Whoever holds it can cancel the update as
long as it waits, and can see later whether it was cancelled. A ticket is only a number: what it
stands for is in the register of all tickets that were issued. A cancelled ticket stays cancelled.
-/

namespace BracketTint

/-- The ticket of an update. -/
structure Ticket where
  number : Nat
deriving DecidableEq, Repr

/-- The register of tickets. -/
structure Tickets where
  /-- How many tickets were issued; they are numbered from zero. -/
  issued : Nat := 0
  /-- The cancelled tickets. -/
  cancelled : List Ticket := []
deriving DecidableEq, Repr

namespace Tickets

/-- The ticket that is issued next. -/
def next (t : Tickets) : Ticket := ⟨t.issued⟩

/-- Issues a ticket. -/
def issue (t : Tickets) : Tickets := { t with issued := t.issued + 1 }

/-- Cancels a ticket. -/
def cancel (t : Tickets) (ticket : Ticket) : Tickets :=
  { t with cancelled := ticket :: t.cancelled }

/-- Whether a ticket is cancelled. -/
def isCancelled (t : Tickets) (ticket : Ticket) : Bool := t.cancelled.contains ticket

end Tickets

end BracketTint
