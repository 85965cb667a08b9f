import BracketTint.Splice
import BracketTint.Update.Ticket
import BracketTint.Update.Timer

/-!
# Waiting Updates

A backlog holds what has happened to a document since it was last scanned, as one splice. The splice
waits as an update with a ticket until the document has been quiet for a while. A new splice takes
the place of the waiting one, whose ticket is cancelled, and covers both. An update that is taken
out but not carried out, because its ticket was cancelled, comes back as a carried splice; it has no
timer and waits for the next splice, or for the next time that everything is taken.
-/

namespace BracketTint

/-- A splice that waits to be applied. -/
structure Update where
  splice : Splice
  ticket : Ticket
deriving DecidableEq, Repr

/-- The updates of a document that wait. -/
structure Backlog where
  timer : QuietTimer
  /-- The update that waits for the timer. -/
  pending : Option Update := none
  /-- What is left of an update that was not carried out. -/
  carried : Option Splice := none
deriving DecidableEq, Repr

/-- The result of taking an update out of a backlog. -/
structure Taken where
  update : Option Update
  backlog : Backlog
  tickets : Tickets
deriving DecidableEq, Repr

namespace Backlog

/-- The backlog that waits for a pause of `delay` milliseconds, with nothing in it. -/
def ofDelay (delay : Nat) : Backlog := { timer := { delay } }

/-- Composes a splice that may be missing with one that follows it. -/
def compose (first : Option Splice) (second : Splice) : Except Fault Splice :=
  match first with
  | some s => s.andThen second
  | none => .ok second

/-- Adds a splice. It joins what waits already, under a new ticket, and the timer starts anew. -/
def schedule (b : Backlog) (splice : Splice) (now : Nat) (tickets : Tickets) :
    Except Fault (Backlog × Tickets) := do
  let timer := b.timer.start now
  match b.pending with
  | some stale =>
    let joined ← stale.splice.andThen splice
    let tickets := tickets.cancel stale.ticket
    return ({ b with timer, pending := some ⟨joined, tickets.next⟩ }, tickets.issue)
  | none =>
    let joined ← compose b.carried splice
    return ({ timer, pending := some ⟨joined, tickets.next⟩ }, tickets.issue)

/-- Takes out the waiting update, due or not. A carried splice comes out as an update of its own if
no other waits. -/
def take (b : Backlog) (tickets : Tickets) : Taken :=
  let timer := b.timer.stop
  match b.pending, b.carried with
  | some update, carried => ⟨some update, { timer, carried }, tickets⟩
  | none, some splice => ⟨some ⟨splice, tickets.next⟩, { timer }, tickets.issue⟩
  | none, none => ⟨none, { timer }, tickets⟩

/-- Takes out the waiting update if it is due. -/
def takeReady (b : Backlog) (now : Nat) (tickets : Tickets) : Taken :=
  if b.timer.isDue now then b.take tickets else ⟨none, b, tickets⟩

/-- Takes back the splice of an update that was not carried out. It came before whatever waits now.
-/
def carry (b : Backlog) (splice : Splice) : Except Fault Backlog := do
  match b.pending with
  | some update =>
    let joined ← splice.andThen update.splice
    return { b with pending := some { update with splice := joined } }
  | none =>
    let joined ← compose b.carried splice
    return { b with carried := some joined }

/-- Empties the backlog and cancels the ticket of the waiting update. -/
def clear (b : Backlog) (tickets : Tickets) : Backlog × Tickets :=
  ({ timer := b.timer.stop },
    match b.pending with
    | some update => tickets.cancel update.ticket
    | none => tickets)

/-- Whether anything waits. -/
def isWaiting (b : Backlog) : Bool := b.pending.isSome || b.carried.isSome

/-- The ticket of the waiting update. -/
def ticket? (b : Backlog) : Option Ticket := b.pending.map (·.ticket)

end Backlog

end BracketTint
