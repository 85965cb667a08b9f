import BracketTint.Proofs.Backlog

/-!
# Updates That Are Out

An update that was taken out of a backlog is out: whoever took it either applies it or gives its
splice back, and before that the text may change again. A `Ledger` is a backlog with the texts
around it: the text up to which updates were applied (`base`), the present text (`lines`), and what
is out, with the text at the time it was handed out.

At each moment two stretches lie between `base` and `lines`. What is out leads from `base` to the
text at the hand-out (`origin`), and what waits leads from there to `lines`; if nothing is out, the
first stretch is empty (`Ledger.Inv`). Each operation moves the border between the two:

* a change makes the second stretch longer;
* a hand-out turns the second stretch into the first;
* an update that is applied drops the first stretch, and one that comes back is joined to the
  second, in front of it.

So no edit is lost (`Ledger.no_edit_lost`): while nothing is out, what waits describes how `base`
became `lines`.
-/

namespace BracketTint

/-- A backlog and the texts around it. -/
structure Ledger where
  backlog : Backlog
  tickets : Tickets
  /-- The text up to which updates were applied. -/
  base : List String
  /-- The present text. -/
  lines : List String
  /-- The update that was handed out and is neither applied nor back, with the text at that time. -/
  out : Option (Update × List String)

namespace Ledger

variable {l l' : Ledger}

/-- A text of which nothing waits. -/
def start (delay : Nat) (lines : List String) : Ledger := ⟨.ofDelay delay, {}, lines, lines, none⟩

/-- The ledger after someone asked for an update. -/
def ask (l : Ledger) (taken : Taken) : Ledger :=
  { l with
    backlog := taken.backlog
    tickets := taken.tickets
    out := (taken.update.map fun update => (update, l.lines)).or l.out }

/-- What can happen to a ledger. Changes are told truthfully, and no update is handed out while
another one is out. Texts have fewer lines than half of all words, as all texts in memory do. -/
inductive Step (l : Ledger) : Ledger → Prop where
  /-- The text changes. -/
  | schedule (splice : Splice) (now : Nat) (lines : List String) {b : Backlog} {t : Tickets}
      (hbounded : lines.length < Word.half) (hsplice : splice.Describes l.lines lines)
      (hschedule : l.backlog.schedule splice now l.tickets = .ok (b, t)) :
      Step l { l with backlog := b, tickets := t, lines }
  /-- Someone asks for what waits. -/
  | take (hout : l.out = none ∨ (l.backlog.take l.tickets).update = none) :
      Step l (l.ask (l.backlog.take l.tickets))
  /-- Someone asks for what is due. -/
  | takeReady (now : Nat)
      (hout : l.out = none ∨ (l.backlog.takeReady now l.tickets).update = none) :
      Step l (l.ask (l.backlog.takeReady now l.tickets))
  /-- The update that is out is applied. -/
  | apply {update : Update} {lines : List String} (hout : l.out = some (update, lines)) :
      Step l { l with base := lines, out := none }
  /-- The splice of the update that is out comes back. -/
  | carry {update : Update} {lines : List String} {b : Backlog}
      (hout : l.out = some (update, lines)) (hcarry : l.backlog.carry update.splice = .ok b) :
      Step l { l with backlog := b, out := none }
  /-- The present text is scanned, and all else is forgotten. -/
  | cancel : Step l
      { l with
        backlog := (l.backlog.clear l.tickets).1
        tickets := (l.backlog.clear l.tickets).2
        base := l.lines
        out := none }

/-- The ledgers that can come about. -/
inductive Reachable (delay : Nat) : Ledger → Prop where
  | start {lines : List String} (hbounded : lines.length < Word.half) :
      Reachable delay (start delay lines)
  | step {l l' : Ledger} (h : Reachable delay l) (hstep : l.Step l') : Reachable delay l'

/-- The text at which what waits begins: the one at the hand-out, if something is out. -/
def origin (l : Ledger) : List String := (l.out.map Prod.snd).getD l.base

/-- What is out leads from the base to the origin, and what waits from there to the present text. A
carried splice would have to stand before what is out, so there is none. -/
structure Inv (l : Ledger) : Prop where
  sound : l.backlog.Sound l.tickets.issued
  tickets : l.tickets.WellFormed
  base_lt : l.base.length < Word.half
  origin_lt : l.origin.length < Word.half
  lines_lt : l.lines.length < Word.half
  outgoing : Bridges (l.out.map fun entry => entry.1.splice) l.base l.origin
  waiting : Bridges l.backlog.waiting? l.origin l.lines
  carried_eq : l.out ≠ none → l.backlog.carried = none

/-! ### One operation -/

theorem Inv.start {lines : List String} (delay : Nat) (hlines : lines.length < Word.half) :
    (start delay lines).Inv :=
  ⟨Backlog.sound_of_pending rfl _, fun _ hticket => absurd hticket List.not_mem_nil, hlines,
    hlines, hlines, rfl, rfl, fun hout => absurd rfl hout⟩

/-- **A change** never faults. It is joined to what waits, and what is out stays. -/
theorem Inv.schedule (h : l.Inv) {splice : Splice} {lines : List String} (now : Nat)
    (hlines : lines.length < Word.half) (hsplice : splice.Describes l.lines lines) :
    ∃ b t, l.backlog.schedule splice now l.tickets = .ok (b, t) ∧
      Inv { l with backlog := b, tickets := t, lines } := by
  obtain ⟨-, -, hissued, htickets⟩ := Backlog.clear_spec h.sound h.tickets
  obtain ⟨both, hboth, hdescribes⟩ :=
    h.waiting.compose hsplice h.origin_lt h.lines_lt hlines
  refine ⟨⟨l.backlog.timer.start now, some ⟨both, l.tickets.next⟩, none⟩,
    (l.backlog.clear l.tickets).2.issue, ?_, ?_, htickets.of_le rfl (Nat.le_succ _), h.base_lt,
    h.origin_lt, hlines, h.outgoing, hdescribes, fun _ => rfl⟩
  · rw [Backlog.schedule_eq h.sound, hboth, ok_bind]
  · dsimp only [Tickets.issue]
    rw [hissued]
    exact Backlog.sound_next l.tickets.issued _ both

/-- **A hand-out.** Whatever is handed out is all that waited. -/
theorem Inv.ask (h : l.Inv) {taken : Taken} (htakes : l.backlog.Takes l.tickets taken)
    (hcarried : l.backlog.carried = none → taken.backlog.carried = none)
    (hout : l.out = none ∨ taken.update = none) : (l.ask taken).Inv := by
  have htickets := h.tickets.of_le htakes.cancelled_eq htakes.issued_le
  rcases htakes.outcome with ⟨hnone, hwaiting⟩ | ⟨update, hsome, hwaiting, hempty⟩
  · have hsame : (l.ask taken).out = l.out := by rw [Ledger.ask, hnone]; rfl
    have horigin : (l.ask taken).origin = l.origin := by rw [origin, hsame]; rfl
    refine ⟨htakes.sound, htickets, h.base_lt, ?_, h.lines_lt, ?_, ?_, ?_⟩
    · rw [horigin]
      exact h.origin_lt
    · rw [hsame, horigin]
      exact h.outgoing
    · rw [horigin]
      exact hwaiting ▸ h.waiting
    · intro hne
      exact hcarried (h.carried_eq (hsame ▸ hne))
  · -- nothing was out, so the second stretch starts at the base and becomes the first
    have hfree : l.out = none := hout.resolve_right (by simp [hsome])
    have hnow : (l.ask taken).out = some (update, l.lines) := by rw [Ledger.ask, hsome]; rfl
    have horigin : (l.ask taken).origin = l.lines := by rw [origin, hnow]; rfl
    have hbase : l.origin = l.base := by rw [origin, hfree]; rfl
    have hstretch := h.waiting
    rw [hwaiting, hbase] at hstretch
    refine ⟨htakes.sound, htickets, h.base_lt, ?_, h.lines_lt, ?_, ?_, fun _ => ?_⟩
    · rw [horigin]
      exact h.lines_lt
    · rw [hnow, horigin]
      exact hstretch
    · rw [horigin]
      change Bridges taken.backlog.waiting? l.lines l.lines
      rw [hempty]
      rfl
    · have hpending := Backlog.pending_of_waiting? hempty
      rwa [Backlog.waiting?, hpending] at hempty

/-- **An update is applied.** What waits begins where it ended. -/
theorem Inv.apply (h : l.Inv) {update : Update} {lines : List String}
    (hout : l.out = some (update, lines)) : Inv { l with base := lines, out := none } := by
  have horigin : l.origin = lines := by rw [origin, hout]; rfl
  have hlines := h.origin_lt
  have hwaiting := h.waiting
  rw [horigin] at hlines hwaiting
  exact ⟨h.sound, h.tickets, hlines, hlines, h.lines_lt, rfl, hwaiting,
    fun hne => absurd rfl hne⟩

/-- **An update comes back** without a fault. It goes in front of what waits. -/
theorem Inv.carry (h : l.Inv) {update : Update} {lines : List String}
    (hout : l.out = some (update, lines)) :
    ∃ b, l.backlog.carry update.splice = .ok b ∧ Inv { l with backlog := b, out := none } := by
  have horigin : l.origin = lines := by rw [origin, hout]; rfl
  have hcarried := h.carried_eq (by simp [hout])
  have hlines := h.origin_lt
  have hwaiting := h.waiting
  have houtgoing := h.outgoing
  rw [horigin] at hlines hwaiting houtgoing
  rw [hout] at houtgoing
  cases hpending : l.backlog.pending with
  | none =>
      have hidle : l.backlog.waiting? = none := by rw [Backlog.waiting?, hpending, hcarried]
      rw [hidle] at hwaiting
      obtain rfl : lines = l.lines := hwaiting
      refine ⟨{ l.backlog with carried := some update.splice }, Backlog.carry_eq hidle _,
        Backlog.sound_of_pending ?_ _, h.tickets, h.base_lt, h.base_lt, h.lines_lt, rfl, ?_,
        fun hne => absurd rfl hne⟩
      · exact hpending
      · rw [Backlog.waiting?, hpending]
        exact houtgoing
  | some next =>
      have hnext : next.splice.Describes lines l.lines := by
        rwa [Backlog.waiting?, hpending] at hwaiting
      obtain ⟨both, hboth, hdescribes⟩ :=
        Splice.Describes.andThen houtgoing hnext h.base_lt hlines h.lines_lt
      refine ⟨{ l.backlog with pending := some { next with splice := both } }, ?_, ⟨?_, ?_⟩,
        h.tickets, h.base_lt, h.base_lt, h.lines_lt, rfl, hdescribes, fun hne => absurd rfl hne⟩
      · simp only [Backlog.carry, hpending, hboth, ok_bind, pure_eq_ok]
      · intro later hlater
        obtain rfl := Option.some.inj hlater
        exact h.sound.ticket_lt next hpending
      · intro _ _
        exact hcarried

/-- **All is forgotten**, and the present text is the base. -/
theorem Inv.cancel (h : l.Inv) :
    Inv { l with
      backlog := (l.backlog.clear l.tickets).1
      tickets := (l.backlog.clear l.tickets).2
      base := l.lines
      out := none } := by
  obtain ⟨hwaiting, hpending, -, htickets⟩ := Backlog.clear_spec h.sound h.tickets
  refine ⟨Backlog.sound_of_pending hpending _, htickets, h.lines_lt, h.lines_lt, h.lines_lt, rfl,
    ?_, fun hne => absurd rfl hne⟩
  rw [hwaiting]
  rfl

/-! ### Whole runs -/

/-- **The step.** -/
theorem Inv.step (h : l.Inv) (hstep : l.Step l') : l'.Inv := by
  cases hstep with
  | schedule splice now lines hbounded hsplice hschedule =>
      obtain ⟨b', t', hschedule', hinv⟩ := h.schedule now hbounded hsplice
      obtain ⟨rfl, rfl⟩ := Prod.mk.inj (Except.ok.inj (hschedule'.symm.trans hschedule))
      exact hinv
  | take hout =>
      refine h.ask (Backlog.takes_take h.sound) (fun hcarried => ?_) hout
      cases hpending : l.backlog.pending <;> simp [Backlog.take, hpending, hcarried]
  | takeReady now hout =>
      refine h.ask (Backlog.takes_takeReady now h.sound) (fun hcarried => ?_) hout
      rw [Backlog.takeReady]
      split
      · cases hpending : l.backlog.pending <;> simp [Backlog.take, hpending, hcarried]
      · exact hcarried
  | apply hout => exact h.apply hout
  | carry hout hcarry =>
      obtain ⟨b, hcarry', hinv⟩ := h.carry hout
      obtain rfl := Except.ok.inj (hcarry'.symm.trans hcarry)
      exact hinv
  | cancel => exact h.cancel

/-- **The run.** -/
theorem Reachable.inv {delay : Nat} (h : Reachable delay l) : l.Inv := by
  induction h with
  | start hbounded => exact .start delay hbounded
  | step _ hstep ih => exact ih.step hstep

/-- **No edit is lost.** In every ledger that can come about

* a pending and a carried splice are never there at once;
* while nothing is out, whichever of them is there describes how the base became the present text,
  and the two texts are the same if neither is there;
* a change that is told truthfully does not fault, nor does an update that comes back. -/
theorem no_edit_lost {delay : Nat} (h : Reachable delay l) :
    (l.backlog.pending = none ∨ l.backlog.carried = none) ∧
    (l.out = none →
      (∀ update, l.backlog.pending = some update → update.splice.Describes l.base l.lines) ∧
      (∀ splice, l.backlog.carried = some splice → splice.Describes l.base l.lines) ∧
      (l.backlog.pending = none → l.backlog.carried = none → l.base = l.lines)) ∧
    (∀ splice now lines, lines.length < Word.half → splice.Describes l.lines lines →
      ∃ b t, l.backlog.schedule splice now l.tickets = .ok (b, t)) ∧
    ∀ update lines, l.out = some (update, lines) →
      ∃ b, l.backlog.carry update.splice = .ok b := by
  have hinv := h.inv
  refine ⟨?_, fun hout => ?_, fun splice now lines hlines hsplice => ?_,
    fun update lines hout => ?_⟩
  · cases hpending : l.backlog.pending with
    | none => exact .inl rfl
    | some update => exact .inr (hinv.sound.carried_eq update hpending)
  · have hbase : l.origin = l.base := by rw [origin, hout]; rfl
    have hwaiting := hinv.waiting
    rw [hbase] at hwaiting
    refine ⟨fun update hpending => ?_, fun splice hcarried => ?_, fun hpending hcarried => ?_⟩
    · rwa [Backlog.waiting?, hpending] at hwaiting
    · cases hpending : l.backlog.pending with
      | none => rwa [Backlog.waiting?, hpending, hcarried] at hwaiting
      | some update =>
          have hnone := hinv.sound.carried_eq update hpending
          exact absurd (hnone.symm.trans hcarried) (by simp)
    · rwa [Backlog.waiting?, hpending, hcarried] at hwaiting
  · obtain ⟨b, t, hschedule, -⟩ := hinv.schedule now hlines hsplice
    exact ⟨b, t, hschedule⟩
  · obtain ⟨b, hcarry, -⟩ := hinv.carry hout
    exact ⟨b, hcarry⟩

/-- A line is replaced, the update goes out, a line comes in below, and then the update comes back:
one splice describes both changes. -/
theorem no_edit_lost_returned :
    ∃ l, Reachable 100 l ∧ l.out = none ∧ l.base = ["x"] ∧ l.lines = ["(", ")"] ∧
      ∃ update, l.backlog.pending = some update ∧ update.splice = ⟨0, 1, 2⟩ ∧
        update.splice.Describes l.base l.lines := by
  have hstart : Reachable 100 (start 100 ["x"]) := .start (by decide)
  have hreplaced := hstart.step
    (.schedule ⟨0, 1, 1⟩ 0 ["("] (by decide) ⟨by decide, by decide, ["("], rfl, rfl⟩ rfl)
  have hgiven := hreplaced.step (.take (.inl rfl))
  have hadded := hgiven.step
    (.schedule ⟨1, 1, 1⟩ 5 ["(", ")"] (by decide) ⟨by decide, by decide, [")"], rfl, rfl⟩ rfl)
  have hreturned := hadded.step (.carry rfl rfl)
  exact ⟨_, hreturned, rfl, rfl, rfl, _, rfl, rfl, ((no_edit_lost hreturned).2.1 rfl).1 _ rfl⟩

end Ledger

end BracketTint
