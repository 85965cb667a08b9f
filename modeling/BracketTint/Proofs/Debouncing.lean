import BracketTint.Proofs.Backlog

/-!
# When an Update Comes Out

An update is held back until its document has been quiet for a while. A backlog does not know what
was asked of it before. It has a timer and, in places of their own, an update that is pending and a
splice that is carried; nothing but the operations themselves keeps the three in step, and what is
due is taken out by the same operation that falls back on the carried splice.

This module says when an update comes out without mention of timers. A run of operations leaves a
log of what was asked and what came out, and the log alone decides (`Backlog.Awaited`): a splice was
scheduled, nothing was given out or dropped after it, and the delay has passed since the last such
splice. Nothing is expected of a run but that it does not fault: times need not come in order,
splices may be of any kind, and the register of tickets, which others use as well, may be a
different one at each operation.

* **One operation** starts the timer, stops it or leaves it alone, as the log says
  (`Backlog.Timed.perform`);
* **the run** keeps the timer at the last splice that is awaited (`Backlog.Keeps.performAll`);
* `Backlog.takeReady_isSome_iff` — an update comes out exactly when it is due. A carried splice
  never comes out this way, and as long as nothing comes out nothing changes.
-/

namespace BracketTint

/-- A timer is due exactly if its delay has passed since it was started. A time before the start
counts as no time at all. -/
theorem QuietTimer.isDue_iff (timer : QuietTimer) (now : Nat) : timer.isDue now = true ↔
    ∃ start, timer.since = some start ∧ (timer.delay : Int) ≤ max 0 ((now : Int) - start) := by
  have hpassed (start : Nat) :
      timer.delay ≤ now - start ↔ (timer.delay : Int) ≤ max 0 ((now : Int) - start) := by omega
  simp only [isDue, Option.any_eq_true, decide_eq_true_eq, hpassed]

namespace Backlog

/-! ### Operations and their log -/

/-- What can be asked of a backlog. -/
inductive Operation where
  | schedule (splice : Splice) (now : Nat)
  | takeReady (now : Nat)
  | take
  | carry (splice : Splice)
  | clear
deriving DecidableEq, Repr

/-- An operation that was carried out, and the update that it gave out. -/
structure Entry where
  operation : Operation
  update : Option Update
deriving DecidableEq, Repr

namespace Entry

/-- The time at which the operation scheduled a splice. -/
def scheduledAt? (e : Entry) : Option Nat :=
  match e.operation with
  | .schedule _ now => some now
  | _ => none

/-- Whether the operation ended the wait: it gave out an update, or took or dropped whatever was
there. -/
def ends (e : Entry) : Bool :=
  match e.operation with
  | .takeReady _ => e.update.isSome
  | .take | .clear => true
  | .schedule .. | .carry _ => false

end Entry

/-- The last splice of a log was scheduled at `start`, and the wait has not ended since. -/
def Awaited (log : List Entry) (start : Nat) : Prop :=
  ∃ earlier entry later, log = earlier ++ entry :: later ∧ entry.scheduledAt? = some start ∧
    ∀ e ∈ later, e.scheduledAt? = none ∧ e.ends = false

/-- Carries out an operation. -/
def perform (b : Backlog) (t : Tickets) : Operation → Except Fault Taken
  | .schedule splice now => do
    let (b, t) ← b.schedule splice now t
    return ⟨none, b, t⟩
  | .takeReady now => .ok (b.takeReady now t)
  | .take => .ok (b.take t)
  | .carry splice => do
    let b ← b.carry splice
    return ⟨none, b, t⟩
  | .clear => .ok ⟨none, (b.clear t).1, (b.clear t).2⟩

/-- Carries out operations one after another, each with the register of tickets that there is at the
time, and keeps a log. -/
def performAll (b : Backlog) : List (Tickets × Operation) → Except Fault (List Entry × Backlog)
  | [] => .ok ([], b)
  | (t, operation) :: rest => do
    let taken ← b.perform t operation
    let (log, b) ← taken.backlog.performAll rest
    return (⟨operation, taken.update⟩ :: log, b)

variable {b b' : Backlog} {t t' : Tickets} {delay : Nat} {operation : Operation} {taken : Taken}
  {splice : Splice} {now : Nat} {log : List Entry}

/-- What is awaited after one more operation: the splice that it scheduled, or else what was awaited
before, if the wait goes on. -/
theorem awaited_concat {e : Entry} {start : Nat} :
    Awaited (log ++ [e]) start ↔ e.scheduledAt? = some start ∨
      e.scheduledAt? = none ∧ e.ends = false ∧ Awaited log start := by
  constructor
  · rintro ⟨earlier, entry, later, hlog, hentry, hlater⟩
    rcases List.eq_nil_or_concat later with rfl | ⟨between, last, rfl⟩
    · obtain ⟨-, hlast⟩ := List.append_inj' hlog rfl
      obtain rfl := List.singleton_inj.1 hlast
      exact .inl hentry
    · rw [List.concat_eq_append] at hlog hlater
      rw [← List.cons_append, ← List.append_assoc] at hlog
      obtain ⟨rfl, hlast⟩ := List.append_inj' hlog rfl
      obtain rfl := List.singleton_inj.1 hlast
      obtain ⟨hbetween, hend⟩ := List.forall_mem_append.1 hlater
      obtain ⟨hnone, hends⟩ := hend e List.mem_cons_self
      exact .inr ⟨hnone, hends, earlier, entry, between, rfl, hentry, hbetween⟩
  · rintro (hentry | ⟨hnone, hends, earlier, entry, later, rfl, hentry, hlater⟩)
    · exact ⟨log, e, [], rfl, hentry, fun _ hmem => absurd hmem List.not_mem_nil⟩
    · refine ⟨earlier, entry, later ++ [e], by simp, hentry, List.forall_mem_append.2 ⟨hlater, ?_⟩⟩
      exact List.forall_mem_singleton.2 ⟨hnone, hends⟩

/-! ### One operation -/

/-- Scheduling starts the timer, and an update is pending. -/
theorem timer_schedule (h : b.schedule splice now t = .ok (b', t')) :
    b'.timer = b.timer.start now ∧ b'.pending.isSome = true := by
  obtain ⟨timer, pending, carried⟩ := b
  cases pending with
  | some | none =>
      obtain ⟨both, -, hb⟩ := bind_eq_ok_iff.1 h
      obtain ⟨rfl, -⟩ := Prod.mk.inj (Except.ok.inj hb)
      exact ⟨rfl, rfl⟩

/-- A splice that comes back does not touch the timer, and makes no update pending. -/
theorem timer_carry (h : b.carry splice = .ok b') :
    b'.timer = b.timer ∧ b'.pending.isSome = b.pending.isSome := by
  obtain ⟨timer, pending, carried⟩ := b
  cases pending with
  | some | none =>
      obtain ⟨both, -, hb⟩ := bind_eq_ok_iff.1 h
      obtain rfl := Except.ok.inj hb
      exact ⟨rfl, rfl⟩

/-- Taking everything out stops the timer. -/
theorem since_take (b : Backlog) (t : Tickets) : (b.take t).backlog.timer.since = none := by
  obtain ⟨timer, pending, carried⟩ := b
  cases pending <;> cases carried <;> rfl

/-- **What is due is what is pending.** If the timer runs exactly while an update is pending, then
an update that is taken out as due was pending, and otherwise all stays as it is. -/
theorem Timed.takeReady_cases (h : b.Timed delay) (now : Nat) (t : Tickets) :
    b.timer.isDue now = false ∧ b.takeReady now t = ⟨none, b, t⟩ ∨
      b.timer.isDue now = true ∧ ∃ update, b.pending = some update ∧
        (b.takeReady now t).update = some update := by
  cases hdue : b.timer.isDue now with
  | false => exact .inl ⟨rfl, by rw [Backlog.takeReady, hdue, if_neg Bool.false_ne_true]⟩
  | true =>
      obtain ⟨start, hstart, -⟩ := (b.timer.isDue_iff now).1 hdue
      have hpending : b.pending.isSome = true := by rw [← h.since_isSome, hstart, Option.isSome_some]
      obtain ⟨update, hupdate⟩ := Option.isSome_iff_exists.1 hpending
      refine .inr ⟨rfl, update, hupdate, ?_⟩
      rw [Backlog.takeReady, hdue, if_pos rfl, Backlog.take, hupdate]

/-- **One operation.** The timer is stopped if the operation ends the wait, it is started if a splice
is scheduled, and otherwise it is left alone; and it runs exactly while an update is pending, as
before. -/
theorem Timed.perform (h : b.Timed delay) (hperform : b.perform t operation = .ok taken) :
    let e : Entry := ⟨operation, taken.update⟩
    taken.backlog.Timed delay ∧
      taken.backlog.timer.since = if e.ends then none else e.scheduledAt?.or b.timer.since := by
  cases operation with
  | schedule splice now =>
      obtain ⟨⟨b', t'⟩, hschedule, htaken⟩ := bind_eq_ok_iff.1 hperform
      obtain rfl := Except.ok.inj htaken
      obtain ⟨htimer, hpending⟩ := timer_schedule hschedule
      refine ⟨⟨?_, ?_⟩, congrArg QuietTimer.since htimer⟩
      · rw [htimer]
        exact h.delay_eq
      · rw [htimer, hpending]
        rfl
  | takeReady now =>
      obtain rfl := Except.ok.inj hperform
      refine ⟨h.takeReady now t, ?_⟩
      rcases h.takeReady_cases now t with ⟨-, hsame⟩ | ⟨hdue, update, -, hupdate⟩
      · rw [hsame]
        rfl
      · have hsince : (b.takeReady now t).backlog.timer.since = none := by
          rw [Backlog.takeReady, if_pos hdue, since_take]
        simp only [Entry.ends, hupdate, Option.isSome_some, if_true, hsince]
  | take =>
      obtain rfl := Except.ok.inj hperform
      exact ⟨h.take t, since_take b t⟩
  | carry splice =>
      obtain ⟨b', hcarry, htaken⟩ := bind_eq_ok_iff.1 hperform
      obtain rfl := Except.ok.inj htaken
      obtain ⟨htimer, hpending⟩ := timer_carry hcarry
      refine ⟨⟨?_, ?_⟩, congrArg QuietTimer.since htimer⟩
      · rw [htimer]
        exact h.delay_eq
      · rw [htimer, hpending]
        exact h.since_isSome
  | clear =>
      obtain rfl := Except.ok.inj hperform
      exact ⟨⟨h.delay_eq, rfl⟩, rfl⟩

/-! ### Whole runs -/

/-- A backlog keeps the time of what its log awaits. -/
structure Keeps (b : Backlog) (delay : Nat) (log : List Entry) : Prop extends b.Timed delay where
  since_eq_some_iff : ∀ start, b.timer.since = some start ↔ Awaited log start

/-- At first nothing is awaited. -/
theorem keeps_ofDelay (delay : Nat) : (ofDelay delay).Keeps delay [] := by
  refine ⟨⟨rfl, rfl⟩, fun start => ⟨(fun hsince => nomatch hsince), ?_⟩⟩
  rintro ⟨earlier, entry, later, hlog, -⟩
  exact absurd hlog.symm (by simp)

/-- **The step.** -/
theorem Keeps.perform (h : b.Keeps delay log) (hperform : b.perform t operation = .ok taken) :
    taken.backlog.Keeps delay (log ++ [⟨operation, taken.update⟩]) := by
  obtain ⟨htimed, hsince⟩ := h.toTimed.perform hperform
  refine ⟨htimed, fun start => ?_⟩
  rw [hsince, awaited_concat, ← h.since_eq_some_iff start]
  cases operation with
  | takeReady now => cases taken.update <;> simp [Entry.ends, Entry.scheduledAt?]
  | schedule | take | carry | clear => simp [Entry.ends, Entry.scheduledAt?]

/-- **The run.** -/
theorem Keeps.performAll (h : b.Keeps delay log) {operations : List (Tickets × Operation)}
    {entries : List Entry} (hrun : b.performAll operations = .ok (entries, b')) :
    b'.Keeps delay (log ++ entries) := by
  induction operations generalizing b log entries with
  | nil =>
      obtain ⟨rfl, rfl⟩ := Prod.mk.inj (Except.ok.inj hrun)
      rwa [List.append_nil]
  | cons step rest ih =>
      obtain ⟨t, operation⟩ := step
      obtain ⟨taken, hperform, hrest⟩ := bind_eq_ok_iff.1 hrun
      obtain ⟨⟨later, last⟩, hlater, hentries⟩ := bind_eq_ok_iff.1 hrest
      obtain ⟨rfl, rfl⟩ := Prod.mk.inj (Except.ok.inj hentries)
      have hkeeps := ih (h.perform hperform) hlater
      rwa [List.append_assoc] at hkeeps

/-- **Updates come out exactly when they are due.** After any run of operations on a backlog, with
any delay and any times, in whatever order they come:

* asking for what is due gives out an update if and only if a splice was scheduled after the wait
  last ended, and the delay has passed since the last splice was scheduled;
* a carried splice with no update pending does not come out;
* if nothing comes out, the backlog and the tickets stay as they are. -/
theorem takeReady_isSome_iff {operations : List (Tickets × Operation)}
    (hrun : (ofDelay delay).performAll operations = .ok (log, b)) (now : Nat) (t : Tickets) :
    ((b.takeReady now t).update.isSome = true ↔
      ∃ start, Awaited log start ∧ (delay : Int) ≤ max 0 ((now : Int) - start)) ∧
    (∀ splice, b.carried = some splice → b.pending = none → (b.takeReady now t).update = none) ∧
    ((b.takeReady now t).update = none → b.takeReady now t = ⟨none, b, t⟩) := by
  have hkeeps := (keeps_ofDelay delay).performAll hrun
  have hiff := b.timer.isDue_iff now
  simp only [hkeeps.since_eq_some_iff, hkeeps.delay_eq, List.nil_append] at hiff
  rw [← hiff]
  rcases hkeeps.toTimed.takeReady_cases now t with ⟨hnot, hsame⟩ | ⟨hdue, update, hpending, hupdate⟩
  · refine ⟨?_, fun _ _ _ => ?_, fun _ => hsame⟩
    · simp [hsame, hnot]
    · rw [hsame]
  · refine ⟨?_, fun _ _ hnone => ?_, fun hnone => ?_⟩
    · simp [hupdate, hdue]
    · exact absurd (hpending.symm.trans hnone) (by simp)
    · exact absurd (hupdate.symm.trans hnone) (by simp)

/-- A splice is scheduled, another one at an earlier time, and a third one comes back: the time of
the second one counts. -/
theorem takeReady_isSome_iff_backwards :
    let operations : List Operation :=
      [.schedule ⟨3, 4, 1⟩ 50, .takeReady 149, .schedule ⟨0, 0, 1⟩ 20, .carry ⟨2, 3, 1⟩]
    ∃ log b, (ofDelay 100).performAll (operations.map ({}, ·)) = .ok (log, b) ∧
      Awaited log 20 ∧ (b.takeReady 120 {}).update.isSome = true ∧
      (b.takeReady 119 {}).update = none ∧ b.takeReady 119 {} = ⟨none, b, {}⟩ := by
  intro operations
  have hrun : ∃ log b, (ofDelay 100).performAll (operations.map ({}, ·)) = .ok (log, b) ∧
      Awaited log 20 ∧ (b.takeReady 119 {}).update = none := by
    refine ⟨_, _, rfl, ⟨[⟨.schedule ⟨3, 4, 1⟩ 50, none⟩, ⟨.takeReady 149, none⟩],
      ⟨.schedule ⟨0, 0, 1⟩ 20, none⟩, [⟨.carry ⟨2, 3, 1⟩, none⟩], rfl, rfl, by decide⟩, rfl⟩
  obtain ⟨log, b, hrun, hawaited, hnone⟩ := hrun
  exact ⟨log, b, hrun, hawaited,
    (takeReady_isSome_iff hrun 120 {}).1.2 ⟨20, hawaited, by decide⟩, hnone,
    (takeReady_isSome_iff hrun 119 {}).2.2 hnone⟩

end Backlog

end BracketTint
