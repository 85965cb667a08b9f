import BracketTint.Proofs.Splice
import BracketTint.Update.Backlog

/-!
# What a Backlog Owes

A document is scanned at one time, and its text goes on changing. Between the text it was scanned
from and the text it has now lies what waits in its backlog: nothing, if the two are the same, or
one splice that describes how the one became the other (`Bridges`). Each operation on a backlog
keeps track of this:

* `Backlog.schedule_eq` — a change of the text joins what waits, under a new ticket;
* `Backlog.Takes` — whatever waits is taken out as a whole or left alone (`Backlog.takes_take`,
  `Backlog.takes_takeReady`);
* `Backlog.carry_eq` — what was taken out in vain comes back.

A backlog never holds a pending and a carried splice at once (`Backlog.Sound`), so there is one
splice to speak of (`Backlog.waiting?`). Its timer runs exactly while an update is pending
(`Backlog.Timed`).
-/

namespace BracketTint

/-- What lies between two texts: nothing if they are the same, or else a splice that describes
how the one became the other. -/
def Bridges (waiting : Option Splice) (base lines : List String) : Prop :=
  match waiting with
  | none => base = lines
  | some splice => splice.Describes base lines

/-- What bridges two texts and a splice that describes the next change are composed without a
fault, and describe the whole change together. -/
theorem Bridges.compose {waiting : Option Splice} {base middle after : List String}
    {splice : Splice} (hbridges : Bridges waiting base middle)
    (hsplice : splice.Describes middle after) (hbase : base.length < Word.half)
    (hmiddle : middle.length < Word.half) (hafter : after.length < Word.half) :
    ∃ both, Backlog.compose waiting splice = .ok both ∧ both.Describes base after := by
  cases waiting with
  | none =>
      obtain rfl : base = middle := hbridges
      exact ⟨splice, rfl, hsplice⟩
  | some first => exact Splice.Describes.andThen hbridges hsplice hbase hmiddle hafter

namespace Tickets

/-- Only issued tickets are cancelled. -/
def WellFormed (t : Tickets) : Prop := ∀ ticket ∈ t.cancelled, ticket.number < t.issued

/-- A ticket that is not issued yet is not cancelled. -/
theorem WellFormed.not_isCancelled {t : Tickets} (h : t.WellFormed) {ticket : Ticket}
    (hticket : t.issued ≤ ticket.number) : t.isCancelled ticket = false := by
  have hnot : ticket ∉ t.cancelled := fun hmem => absurd (h ticket hmem) (Nat.not_lt.2 hticket)
  simpa [isCancelled] using hnot

/-- Cancelling an issued ticket. -/
theorem WellFormed.cancel {t : Tickets} (h : t.WellFormed) {ticket : Ticket}
    (hticket : ticket.number < t.issued) : (t.cancel ticket).WellFormed := by
  intro other hother
  rcases List.mem_cons.1 hother with rfl | hother
  · exact hticket
  · exact h other hother

/-- Issuing more tickets. -/
theorem WellFormed.of_le {t t' : Tickets} (h : t.WellFormed)
    (hcancelled : t'.cancelled = t.cancelled) (hissued : t.issued ≤ t'.issued) :
    t'.WellFormed := by
  intro ticket hmem
  rw [hcancelled] at hmem
  exact Nat.lt_of_lt_of_le (h ticket hmem) hissued

end Tickets

namespace Backlog

/-- The splice that waits, pending or carried. -/
def waiting? (b : Backlog) : Option Splice :=
  match b.pending with
  | some update => some update.splice
  | none => b.carried

theorem isWaiting_eq_isSome (b : Backlog) : b.isWaiting = b.waiting?.isSome := by
  cases h : b.pending <;> simp [isWaiting, waiting?, h]

theorem pending_of_waiting? {b : Backlog} (h : b.waiting? = none) : b.pending = none := by
  cases hp : b.pending with
  | none => rfl
  | some update => simp [waiting?, hp] at h

/-- The pending update has an issued ticket, and nothing is carried beside it. -/
structure Sound (b : Backlog) (issued : Nat) : Prop where
  ticket_lt : ∀ update, b.pending = some update → update.ticket.number < issued
  carried_eq : ∀ update, b.pending = some update → b.carried = none

/-- A backlog in which no update is pending is sound. -/
theorem sound_of_pending {b : Backlog} (h : b.pending = none) (issued : Nat) : b.Sound issued :=
  ⟨by simp [h], by simp [h]⟩

/-- A backlog in which an update waits under the ticket that was issued last. -/
theorem sound_next (issued : Nat) (timer : QuietTimer) (splice : Splice) :
    Sound ⟨timer, some ⟨splice, ⟨issued⟩⟩, none⟩ (issued + 1) := by
  refine ⟨fun update hupdate => ?_, fun _ _ => rfl⟩
  obtain rfl := Option.some.inj hupdate
  exact Nat.lt_succ_self issued

theorem Sound.of_le {b : Backlog} {issued issued' : Nat} (h : b.Sound issued)
    (hle : issued ≤ issued') : b.Sound issued' :=
  ⟨fun u hu => Nat.lt_of_lt_of_le (h.ticket_lt u hu) hle, h.carried_eq⟩

/-- **What scheduling does.** The new splice is composed with what waits, pending or carried, and
that is the only thing that can fault. The result waits under the next ticket, while the ticket of
the update that waited before is cancelled, as when a backlog is cleared. -/
theorem schedule_eq {b : Backlog} {t : Tickets} (hb : b.Sound t.issued) (splice : Splice)
    (now : Nat) :
    b.schedule splice now t = compose b.waiting? splice >>= fun both =>
      .ok (⟨b.timer.start now, some ⟨both, t.next⟩, none⟩, (b.clear t).2.issue) := by
  obtain ⟨timer, pending, carried⟩ := b
  cases pending with
  | some stale =>
      obtain rfl : carried = none := hb.carried_eq stale rfl
      rfl
  | none => rfl

/-- A cleared backlog is empty, and the ticket that it cancels was issued. -/
theorem clear_spec {b : Backlog} {t : Tickets} (hb : b.Sound t.issued) (ht : t.WellFormed) :
    (b.clear t).1.waiting? = none ∧ (b.clear t).1.pending = none ∧
      (b.clear t).2.issued = t.issued ∧ (b.clear t).2.WellFormed := by
  obtain ⟨timer, pending, carried⟩ := b
  cases pending with
  | none => exact ⟨rfl, rfl, rfl, ht⟩
  | some update => exact ⟨rfl, rfl, rfl, ht.cancel (hb.ticket_lt update rfl)⟩

/-- **What taking does.** No ticket is cancelled by it. Either no update comes out and all that
waited still waits, or what waited comes out as an update and nothing is left. -/
structure Takes (b : Backlog) (t : Tickets) (taken : Taken) : Prop where
  cancelled_eq : taken.tickets.cancelled = t.cancelled
  issued_le : t.issued ≤ taken.tickets.issued
  sound : taken.backlog.Sound taken.tickets.issued
  outcome : taken.update = none ∧ taken.backlog.waiting? = b.waiting? ∨
    ∃ update, taken.update = some update ∧ b.waiting? = some update.splice ∧
      taken.backlog.waiting? = none

/-- Taking out the waiting update, due or not. -/
theorem takes_take {b : Backlog} {t : Tickets} (hb : b.Sound t.issued) :
    b.Takes t (b.take t) := by
  obtain ⟨timer, pending, carried⟩ := b
  cases pending with
  | some update =>
      obtain rfl : carried = none := hb.carried_eq update rfl
      exact ⟨rfl, Nat.le_refl _, sound_of_pending rfl _, .inr ⟨update, rfl, rfl, rfl⟩⟩
  | none =>
      cases carried with
      | some splice =>
          exact ⟨rfl, Nat.le_succ _, sound_of_pending rfl _,
            .inr ⟨⟨splice, t.next⟩, rfl, rfl, rfl⟩⟩
      | none => exact ⟨rfl, Nat.le_refl _, sound_of_pending rfl _, .inl ⟨rfl, rfl⟩⟩

/-- Taking out the waiting update if it is due. -/
theorem takes_takeReady {b : Backlog} {t : Tickets} (now : Nat) (hb : b.Sound t.issued) :
    b.Takes t (b.takeReady now t) := by
  rw [takeReady]
  split
  · exact takes_take hb
  · exact ⟨rfl, Nat.le_refl _, hb, .inl ⟨rfl, rfl⟩⟩

/-- A splice that comes back to an empty backlog is carried. -/
theorem carry_eq {b : Backlog} (h : b.waiting? = none) (splice : Splice) :
    b.carry splice = .ok { b with carried := some splice } := by
  obtain ⟨timer, pending, carried⟩ := b
  cases pending with
  | some update => exact absurd h (by simp [waiting?])
  | none =>
      obtain rfl : carried = none := h
      rfl

/-- The timer of a backlog has a given delay, and it runs exactly while an update is pending. -/
structure Timed (b : Backlog) (delay : Nat) : Prop where
  delay_eq : b.timer.delay = delay
  since_isSome : b.timer.since.isSome = b.pending.isSome

theorem Timed.take {b : Backlog} {delay : Nat} (h : b.Timed delay) (t : Tickets) :
    (b.take t).backlog.Timed delay := by
  obtain ⟨timer, pending, carried⟩ := b
  cases pending with
  | some update => exact ⟨h.delay_eq, rfl⟩
  | none => cases carried <;> exact ⟨h.delay_eq, rfl⟩

theorem Timed.takeReady {b : Backlog} {delay : Nat} (h : b.Timed delay) (now : Nat) (t : Tickets) :
    (b.takeReady now t).backlog.Timed delay := by
  rw [Backlog.takeReady]
  split
  · exact h.take t
  · exact h

end Backlog

end BracketTint
