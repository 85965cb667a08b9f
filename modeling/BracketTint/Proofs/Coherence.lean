import BracketTint.Proofs.Call

/-!
# A Workspace Stays Coherent

What a workspace has of a document fits together (`Slot.Neat`): only an open document has a
backlog, it was scanned under the present scheme, its timer has the delay of the scheme and runs
exactly while an update is pending, an update that is pending and a splice that is carried are never
there together, and without a delay nothing waits. No operation on a slot breaks this, whatever the
text and the splice are.

What a call can make of a document is said once (`Slot.Becomes`), case by case and with what is
known in each. All that holds of a document throughout is seen from there.

## Main results

* `Slot.becomes_of_answer` — all that can come of a call;
* `Slot.Neat.answer` — after any call a document is neat under the scheme of the moment;
* `Slot.waiting?_of_answer` — what waits after a call had waited before, or is that and a change
  together;
* `Slot.Neat.ticket?_of_answer` — a document has the ticket that it had before the call, or the one
  that the call issued for it;
* `Workspace.Coherent.of_answers` — the step: a call on a coherent workspace leads to a coherent
  one.
-/

namespace BracketTint

/-- A backlog whose timer fits it, in which one splice waits at most, and none without a delay. -/
structure Backlog.Neat (b : Backlog) (delay : Nat) : Prop extends b.Timed delay where
  single : b.pending = none ∨ b.carried = none
  idle : delay = 0 → b.waiting? = none

/-- An empty backlog whose timer does not run. -/
theorem Backlog.neat_stop {timer : QuietTimer} {delay : Nat} (h : timer.delay = delay) :
    Backlog.Neat { timer := timer.stop } delay :=
  ⟨⟨h, rfl⟩, .inl rfl, fun _ => rfl⟩

namespace Slot

variable {s s' : Slot} {id : DocumentId} {scheme : Scheme} {text : Option (List String)}
  {cancelled : Bool} {next : Ticket} {call : Call}

/-! ### What can come of a call -/

/-- **What carrying out an update leads to**, if nothing else waits: the document is as it was, the
splice is carried back, the document is closed, or it is updated. -/
theorem run_cases {splice : Splice} {applied : Bool} (hwaiting : s.waiting? = none)
    (hrun : s.run text cancelled splice = .ok (applied, s')) :
    (s.backlog = none ∨ s.document = none) ∧ s' = s ∨
    (cancelled = true ∧ ∃ b, s.backlog = some b ∧ b.waiting? = none ∧
      s' = ⟨s.document, some { b with carried := some splice }⟩) ∨
    text = none ∧ s' = {} ∨
    ∃ lines d d' effort, cancelled = false ∧ text = some lines ∧ s.document = some d ∧
      d.update splice lines = .ok (d', effort) ∧ s' = ⟨some d', s.backlog⟩ := by
  unfold run at hrun
  split at hrun
  next hcancelled =>
    cases hb : s.backlog with
    | none =>
        rw [hb] at hrun
        exact .inl ⟨.inl rfl, (Prod.mk.inj (Except.ok.inj hrun)).2.symm⟩
    | some b =>
        have hempty : b.waiting? = none := by simpa [waiting?, hb] using hwaiting
        rw [hb] at hrun
        simp only [Backlog.carry_eq hempty, ok_bind, pure_eq_ok] at hrun
        exact .inr (.inl ⟨hcancelled, b, rfl, hempty, (Prod.mk.inj (Except.ok.inj hrun)).2.symm⟩)
  next hvalid =>
    cases text with
    | none => exact .inr (.inr (.inl ⟨rfl, (Prod.mk.inj (Except.ok.inj hrun)).2.symm⟩))
    | some lines =>
        cases hd : s.document with
        | none =>
            rw [hd] at hrun
            exact .inl ⟨.inr rfl, (Prod.mk.inj (Except.ok.inj hrun)).2.symm⟩
        | some d =>
            rw [hd] at hrun
            obtain ⟨⟨d', effort⟩, hupdate, hresult⟩ := bind_eq_ok_iff.1 hrun
            exact .inr (.inr (.inr ⟨lines, d, d', effort, Bool.eq_false_iff.2 hvalid, rfl, rfl,
              hupdate, (Prod.mk.inj (Except.ok.inj hresult)).2.symm⟩))

/-- **What comes of what waits**: it is left alone until the timer is due, and then it is taken out
and runs, if it is anything at all. -/
theorem deliver_cases {due : QuietTimer → Bool} {applied : Bool}
    (hdeliver : s.deliver due text cancelled = .ok (applied, s')) :
    (s.backlog.any fun b => due b.timer) = false ∧ s' = s ∨
    s.waiting? = none ∧ s' = s.clear ∨
    ∃ splice, s.waiting? = some splice ∧
      s.clear.run text cancelled splice = .ok (applied, s') := by
  rw [deliver] at hdeliver
  split at hdeliver
  next =>
    cases hwaiting : s.waiting? with
    | none =>
        rw [hwaiting] at hdeliver
        exact .inr (.inl ⟨rfl, (Prod.mk.inj (Except.ok.inj hdeliver)).2.symm⟩)
    | some splice =>
        rw [hwaiting] at hdeliver
        exact .inr (.inr ⟨splice, rfl, hdeliver⟩)
  next hdue =>
    exact .inl ⟨Bool.eq_false_iff.2 hdue, (Prod.mk.inj (Except.ok.inj hdeliver)).2.symm⟩

/-- Where something waits there is a backlog, and it stays when what waits is taken out. -/
theorem backlog_clear_ne_none {splice : Splice} (h : s.waiting? = some splice) :
    s.clear.backlog ≠ none := by
  intro hnone
  rw [waiting?, Option.map_eq_none_iff.1 hnone] at h
  cases h

/-- **What comes of a flush**: all that waits is due. -/
theorem flush_cases (hflush : s.delivered (fun _ => true) text cancelled = .ok s') :
    s.waiting? = none ∧ s' = s.clear ∨
    ∃ splice applied, s.waiting? = some splice ∧
      s.clear.run text cancelled splice = .ok (applied, s') := by
  obtain ⟨⟨applied, s''⟩, hdeliver, hs⟩ := bind_eq_ok_iff.1 hflush
  obtain rfl : s'' = s' := Except.ok.inj hs
  rcases deliver_cases hdeliver with ⟨hdue, rfl⟩ | hidle | ⟨splice, hwaiting, hrun⟩
  · have hnone : s''.backlog = none := by
      cases hb : s''.backlog with
      | none => rfl
      | some b => simp [hb] at hdue
    refine .inl ⟨?_, ?_⟩
    · rw [waiting?, hnone, Option.bind_none]
    · rw [clear, hnone, Option.map_none, ← hnone]
  · exact .inl hidle
  · exact .inr ⟨splice, applied, hwaiting, hrun⟩

/-- The timer of the backlog that is there, or of a new one. -/
def timer (s : Slot) (delay : Nat) : QuietTimer := (s.backlog.getD (.ofDelay delay)).timer

/-- **What a change of an open document does.** It is joined to what waits. Without a delay it is
due at once, and is taken out again. -/
theorem change_of_isOpen (hopen : s.isOpen = true) (splice : Splice) (now : Nat) :
    s.change scheme text splice now next = Backlog.compose s.waiting? splice >>= fun both =>
      if scheme.delay = 0 then
        Slot.run text false both ⟨s.document, some { timer := (s.timer scheme.delay).stop }⟩ >>=
          fun result => .ok result.2
      else
        .ok ⟨s.document, some ⟨(s.timer scheme.delay).start now, some ⟨both, next⟩, none⟩⟩ := by
  rw [change, if_pos hopen, schedule]
  cases Backlog.compose s.waiting? splice <;> rfl

variable (id scheme text cancelled next s) in
/-- **What a call can make of a document.** -/
inductive Becomes : Call → Slot → Prop where
  /-- The call is about other documents, or there is nothing to do. -/
  | kept {call : Call} (hscheme : call.schemeAfter scheme = scheme)
      (hdiscards : call.Discards id → s.isOpen = false) : Becomes call s
  /-- The document is opened, also once more. What waits for it stays. -/
  | opened (now : Nat) : Becomes (.event (.opened id) now) (s.scan scheme text)
  /-- A document is shown, or changed, that was not open. -/
  | found {call : Call} (hclosed : s.isOpen = false) (hscheme : call.schemeAfter scheme = scheme) :
      Becomes call (s.scan scheme text)
  | closed (now : Nat) : Becomes (.event (.closed id) now) {}
  /-- A change waits, together with what waited before. -/
  | waits {splice both : Splice} (now : Nat) (hopen : s.isOpen = true)
      (hboth : Backlog.compose s.waiting? splice = .ok both) (hdelay : scheme.delay ≠ 0) :
      Becomes (.event (.changed id splice) now)
        ⟨s.document, some ⟨(s.timer scheme.delay).start now, some ⟨both, next⟩, none⟩⟩
  /-- Without a delay a change is carried out at once. -/
  | changed {splice both : Splice} (now : Nat) {applied : Bool} {s' : Slot}
      (hopen : s.isOpen = true) (hboth : Backlog.compose s.waiting? splice = .ok both)
      (hdelay : scheme.delay = 0)
      (hrun : Slot.run text false both
        ⟨s.document, some { timer := (s.timer scheme.delay).stop }⟩ = .ok (applied, s')) :
      Becomes (.event (.changed id splice) now) s'
  /-- There is a new scheme. What waits is forgotten. -/
  | configured (scheme' : Scheme) (now : Nat) :
      Becomes (.event (.configured scheme') now) ({ s with backlog := none }.reset scheme' text)
  | polled {now : Nat} {applied : Bool} {s' : Slot}
      (hdeliver : s.deliver (·.isDue now) text cancelled = .ok (applied, s')) :
      Becomes (.poll now) s'
  | flushed {applied : Bool} {s' : Slot}
      (hdeliver : s.deliver (fun _ => true) text cancelled = .ok (applied, s')) : Becomes .flush s'
  /-- The document is scanned anew, alone or with all others. What waits is dropped. -/
  | refreshed {touched : Option DocumentId} (htouched : touched = none ∨ touched = some id) :
      Becomes (.reset touched) (s.refresh scheme text)

theorem becomes_of_change {splice : Splice} {now : Nat}
    (hchange : s.change scheme text splice now next = .ok s') :
    s.Becomes id scheme text cancelled next (.event (.changed id splice) now) s' := by
  cases hopen : s.isOpen with
  | false =>
      rw [change, if_neg (Bool.eq_false_iff.1 hopen)] at hchange
      obtain rfl := Except.ok.inj hchange
      exact .found hopen rfl
  | true =>
      rw [change_of_isOpen hopen] at hchange
      obtain ⟨both, hboth, hchange⟩ := bind_eq_ok_iff.1 hchange
      split at hchange
      next hzero =>
        obtain ⟨⟨applied, s''⟩, hrun, hs⟩ := bind_eq_ok_iff.1 hchange
        obtain rfl : s'' = s' := Except.ok.inj hs
        exact .changed now hopen hboth hzero hrun
      next hdelay =>
        obtain rfl := Except.ok.inj hchange
        exact .waits now hopen hboth hdelay

/-- **The call**, for one document. -/
theorem becomes_of_answer (hanswer : s.answer id scheme text cancelled next call = .ok s') :
    s.Becomes id scheme text cancelled next call s' := by
  cases call with
  | event event now =>
      cases event with
      | opened opened =>
          obtain rfl := Except.ok.inj hanswer
          split
          next heq => exact heq ▸ .opened now
          next => exact .kept rfl fun hdiscards => hdiscards.elim
      | closed closed =>
          obtain rfl := Except.ok.inj hanswer
          split
          next heq => exact heq ▸ .closed now
          next hne => exact .kept rfl fun heq => absurd heq hne
      | changed changed splice =>
          rw [Slot.answer] at hanswer
          split at hanswer
          next heq => exact heq ▸ becomes_of_change hanswer
          next hne =>
            obtain rfl := Except.ok.inj hanswer
            exact .kept rfl fun heq => absurd heq hne
      | shown ids =>
          obtain rfl := Except.ok.inj hanswer
          rw [Slot.ensureOpen]
          split
          · split
            · exact .kept rfl fun hdiscards => hdiscards.elim
            next hclosed => exact .found (Bool.eq_false_iff.2 hclosed) rfl
          · exact .kept rfl fun hdiscards => hdiscards.elim
      | configured scheme' =>
          obtain rfl := Except.ok.inj hanswer
          exact .configured scheme' now
  | poll now =>
      obtain ⟨⟨applied, s''⟩, hdeliver, hs⟩ := bind_eq_ok_iff.1 hanswer
      obtain rfl : s'' = s' := Except.ok.inj hs
      exact .polled hdeliver
  | flush =>
      obtain ⟨⟨applied, s''⟩, hdeliver, hs⟩ := bind_eq_ok_iff.1 hanswer
      obtain rfl : s'' = s' := Except.ok.inj hs
      exact .flushed hdeliver
  | reset touched =>
      cases touched with
      | none =>
          obtain rfl := Except.ok.inj hanswer
          rw [Slot.reset]
          split
          · exact .refreshed (.inl rfl)
          next hclosed => exact .kept rfl fun _ => Bool.eq_false_iff.2 hclosed
      | some touched =>
          obtain rfl := Except.ok.inj hanswer
          split
          next heq => exact .refreshed (.inr (congrArg some heq))
          next hne => exact .kept rfl fun heq => absurd heq hne

/-! ### A slot stays neat -/

/-- What a workspace has of a document fits together, and fits the scheme. -/
structure Neat (s : Slot) (scheme : Scheme) : Prop where
  isOpen : ∀ b, s.backlog = some b → s.isOpen = true
  scheme_eq : ∀ d, s.document = some d → d.scheme = scheme
  backlog : ∀ b, s.backlog = some b → b.Neat scheme.delay

theorem neat_empty (scheme : Scheme) : Slot.Neat {} scheme :=
  ⟨(fun _ hb => nomatch hb), (fun _ hd => nomatch hd), (fun _ hb => nomatch hb)⟩

/-- A backlog is left as it is by a scan, and the scan may be the first one under its scheme. -/
theorem neat_scan (hbacklog : ∀ b, s.backlog = some b → b.Neat scheme.delay)
    (text : Option (List String)) : (s.scan scheme text).Neat scheme := by
  cases text with
  | none => exact neat_empty scheme
  | some lines =>
      refine ⟨fun _ _ => rfl, fun d hd => ?_, hbacklog⟩
      obtain rfl := Option.some.inj hd
      rfl

/-- After a backlog is forgotten, a document that is open is scanned under the new scheme. -/
theorem neat_reset_forget (s : Slot) (scheme : Scheme) (text : Option (List String)) :
    ({ s with backlog := none }.reset scheme text : Slot).Neat scheme := by
  rw [Slot.reset]
  split
  next => exact neat_scan (s := ⟨s.document, none⟩) (fun _ hb => by simp at hb) text
  next hclosed =>
    refine ⟨fun _ hb => by simp at hb, fun d hd => ?_, fun _ hb => by simp at hb⟩
    exact absurd (Option.isSome_of_eq_some hd) hclosed

/-- Another backlog that is neat. -/
theorem Neat.put (h : s.Neat scheme) (hopen : s.isOpen = true) {b : Backlog}
    (hb : b.Neat scheme.delay) : Slot.Neat ⟨s.document, some b⟩ scheme :=
  ⟨fun _ _ => hopen, h.scheme_eq, fun _ hb' => Option.some.inj hb' ▸ hb⟩

/-- The backlog to which a change is added has the delay of the scheme. -/
theorem Neat.delay_timer (h : s.Neat scheme) : (s.timer scheme.delay).delay = scheme.delay := by
  cases hb : s.backlog with
  | none => rw [timer, hb, Option.getD_none]; rfl
  | some b => rw [timer, hb, Option.getD_some, (h.backlog b hb).delay_eq]

theorem Neat.clear (h : s.Neat scheme) : s.clear.Neat scheme := by
  refine ⟨fun b hb => ?_, h.scheme_eq, fun b hb => ?_⟩
  · obtain ⟨b', hb', -⟩ := Option.map_eq_some_iff.1 hb
    exact h.isOpen b' hb'
  · obtain ⟨b', hb', rfl⟩ := Option.map_eq_some_iff.1 hb
    exact Backlog.neat_stop (h.backlog b' hb').delay_eq

/-- Where something waits there is a delay. -/
theorem Neat.delay_ne_zero (h : s.Neat scheme) {splice : Splice}
    (hwaiting : s.waiting? = some splice) : scheme.delay ≠ 0 := by
  intro hzero
  obtain ⟨b, hb, hwaits⟩ := Option.bind_eq_some_iff.1 hwaiting
  exact absurd (((h.backlog b hb).idle hzero).symm.trans hwaits) (by simp)

/-- A document that is not open has no backlog. -/
theorem Neat.backlog_of_closed (h : s.Neat scheme) (hclosed : s.isOpen = false) :
    s.backlog = none :=
  Option.eq_none_iff_forall_ne_some.2 fun b hb =>
    absurd ((h.isOpen b hb).symm.trans hclosed) (by simp)

theorem Neat.waiting?_of_closed (h : s.Neat scheme) (hclosed : s.isOpen = false) :
    s.waiting? = none := by
  rw [waiting?, h.backlog_of_closed hclosed, Option.bind_none]

/-- **Carrying out an update** of a document for which nothing else waits. A splice comes back only
where there is a delay. -/
theorem Neat.run (h : s.Neat scheme) (hwaiting : s.waiting? = none) {splice : Splice}
    (hdelay : cancelled = true → scheme.delay ≠ 0) {applied : Bool}
    (hrun : s.run text cancelled splice = .ok (applied, s')) : s'.Neat scheme := by
  rcases run_cases hwaiting hrun with ⟨-, rfl⟩ | ⟨hcancelled, b, hb, hempty, rfl⟩ | ⟨-, rfl⟩ |
    ⟨lines, d, d', effort, -, -, hd, hupdate, rfl⟩
  · exact h
  · have hneat := h.backlog b hb
    have hpending : b.pending = none := Backlog.pending_of_waiting? hempty
    exact h.put (h.isOpen b hb) ⟨⟨hneat.delay_eq, hneat.since_isSome⟩, .inl hpending,
      fun hzero => absurd hzero (hdelay hcancelled)⟩
  · exact neat_empty scheme
  · refine ⟨fun _ _ => rfl, fun d'' hd'' => ?_, h.backlog⟩
    obtain rfl := Option.some.inj hd''
    exact (Document.scheme_update hupdate).trans (h.scheme_eq d hd)

/-- **Carrying out what waits.** -/
theorem Neat.deliver (h : s.Neat scheme) {due : QuietTimer → Bool} {applied : Bool}
    (hdeliver : s.deliver due text cancelled = .ok (applied, s')) : s'.Neat scheme := by
  rcases deliver_cases hdeliver with ⟨-, rfl⟩ | ⟨-, rfl⟩ | ⟨splice, hwaiting, hrun⟩
  · exact h
  · exact h.clear
  · exact h.clear.run (waiting?_clear s) (fun _ => h.delay_ne_zero hwaiting) hrun

/-- **The call**, for one document. Whatever is done to it, it is neat afterwards. -/
theorem Neat.answer (h : s.Neat scheme)
    (hanswer : s.answer id scheme text cancelled next call = .ok s') :
    s'.Neat (call.schemeAfter scheme) := by
  have hdelay := h.delay_timer
  cases becomes_of_answer hanswer with
  | kept hscheme => exact hscheme.symm ▸ h
  | opened now => exact neat_scan h.backlog text
  | found hclosed hscheme => exact hscheme.symm ▸ neat_scan h.backlog text
  | closed now => exact neat_empty scheme
  | waits now hopen hboth hne =>
      exact h.put hopen ⟨⟨hdelay, rfl⟩, .inr rfl, fun hzero => absurd hzero hne⟩
  | changed now hopen hboth hzero hrun =>
      refine (h.put hopen (Backlog.neat_stop hdelay)).run rfl (fun hcancelled => ?_) hrun
      exact absurd hcancelled Bool.false_ne_true
  | configured scheme' now => exact neat_reset_forget s scheme' text
  | polled hdeliver => exact h.deliver hdeliver
  | flushed hdeliver => exact h.deliver hdeliver
  | refreshed htouched => exact neat_scan h.clear.backlog text

/-! ### What waits, and under which ticket -/

/-- What a backlog has after a scan it had before. -/
theorem bind_of_scan {α : Type} {f : Backlog → Option α} {a : α}
    (h : (s.scan scheme text).backlog.bind f = some a) : s.backlog.bind f = some a := by
  cases text with
  | none => cases h
  | some lines => exact h

/-- An update that has run leaves nothing waiting, unless it was cancelled and came back. -/
theorem waiting?_run (hwaiting : s.waiting? = none) {splice : Splice} {applied : Bool}
    (hrun : s.run text cancelled splice = .ok (applied, s')) :
    s'.waiting? = none ∨ cancelled = true ∧ s'.waiting? = some splice := by
  rcases run_cases hwaiting hrun with
    ⟨-, rfl⟩ | ⟨hcancelled, b, -, hempty, rfl⟩ | ⟨-, rfl⟩ | ⟨_, _, _, _, -, -, -, -, rfl⟩
  · exact .inl hwaiting
  · refine .inr ⟨hcancelled, ?_⟩
    rw [waiting?, Option.bind_some, Backlog.waiting?, Backlog.pending_of_waiting? hempty]
  · exact .inl rfl
  · exact .inl hwaiting

/-- What waits is carried out if it is due, and otherwise stays, or comes back. -/
theorem waiting?_deliver {due : QuietTimer → Bool} {applied : Bool}
    (hdeliver : s.deliver due text cancelled = .ok (applied, s')) :
    s'.waiting? = none ∨ s'.waiting? = s.waiting? ∧
      (cancelled = true ∨ (s.backlog.any fun b => due b.timer) = false) := by
  rcases deliver_cases hdeliver with ⟨hdue, rfl⟩ | ⟨-, rfl⟩ | ⟨splice, hwaiting, hrun⟩
  · exact .inr ⟨rfl, .inr hdue⟩
  · exact .inl (waiting?_clear s)
  · rcases waiting?_run (waiting?_clear s) hrun with hnone | ⟨hcancelled, hsome⟩
    · exact .inl hnone
    · exact .inr ⟨hsome.trans hwaiting.symm, .inl hcancelled⟩

/-- Nothing waits after a backlog was forgotten. -/
theorem waiting?_reset_forget (s : Slot) (scheme : Scheme) (text : Option (List String)) :
    ({ s with backlog := none }.reset scheme text : Slot).waiting? = none := by
  rw [Slot.reset]
  split
  · cases text <;> rfl
  · rfl

/-- **What waits after a call**: what had waited before, or that and a change together. -/
theorem waiting?_of_answer {splice : Splice}
    (hanswer : s.answer id scheme text cancelled next call = .ok s')
    (h : s'.waiting? = some splice) :
    s.waiting? = some splice ∨ ∃ change now, call = .event (.changed id change) now ∧
      Backlog.compose s.waiting? change = .ok splice := by
  have hnone {s : Slot} (hnone : s.waiting? = none) (hsome : s.waiting? = some splice) : False :=
    absurd (hnone.symm.trans hsome) (by simp)
  have hkept {due : QuietTimer → Bool} {applied : Bool}
      (hdeliver : s.deliver due text cancelled = .ok (applied, s')) : s.waiting? = some splice := by
    rcases waiting?_deliver hdeliver with hdue | ⟨hsame, -⟩
    · exact (hnone hdue h).elim
    · exact hsame.symm.trans h
  cases becomes_of_answer hanswer with
  | kept => exact .inl h
  | opened now => exact .inl (bind_of_scan h)
  | found => exact .inl (bind_of_scan h)
  | closed now => exact nomatch h
  | waits now hopen hboth hdelay =>
      obtain rfl := Option.some.inj h
      exact .inr ⟨_, now, rfl, hboth⟩
  | changed now hopen hboth hdelay hrun =>
      rcases waiting?_run rfl hrun with hempty | ⟨hcancelled, -⟩
      · exact (hnone hempty h).elim
      · exact absurd hcancelled Bool.false_ne_true
  | configured scheme' now => exact (hnone (waiting?_reset_forget s scheme' text) h).elim
  | polled hdeliver => exact .inl (hkept hdeliver)
  | flushed hdeliver => exact .inl (hkept hdeliver)
  | refreshed htouched => exact (hnone (waiting?_clear s) (bind_of_scan h)).elim

theorem ticket?_of_waiting? (h : s.waiting? = none) : s.ticket? = none := by
  cases hb : s.backlog with
  | none => rw [ticket?, hb, Option.bind_none]
  | some b =>
      rw [waiting?, hb, Option.bind_some] at h
      rw [ticket?, hb, Option.bind_some, Backlog.ticket?, Backlog.pending_of_waiting? h,
        Option.map_none]

/-- An update that has run leaves no other one pending. -/
theorem ticket?_run (hwaiting : s.waiting? = none) {splice : Splice} {applied : Bool}
    (hrun : s.run text cancelled splice = .ok (applied, s')) : s'.ticket? = none := by
  have hticket := ticket?_of_waiting? hwaiting
  rcases run_cases hwaiting hrun with
    ⟨-, rfl⟩ | ⟨-, b, hb, -, rfl⟩ | ⟨-, rfl⟩ | ⟨_, _, _, _, -, -, -, -, rfl⟩
  · exact hticket
  · rw [ticket?, hb, Option.bind_some] at hticket
    exact hticket
  · rfl
  · exact hticket

/-- What was due is no longer pending, and what was not due is left alone. -/
theorem ticket?_deliver {due : QuietTimer → Bool} {applied : Bool}
    (hdeliver : s.deliver due text cancelled = .ok (applied, s')) :
    s'.ticket? = none ∨ (s.backlog.any fun b => due b.timer) = false ∧ s' = s := by
  rcases deliver_cases hdeliver with hnot | ⟨-, rfl⟩ | ⟨splice, -, hrun⟩
  · exact .inr hnot
  · exact .inl (ticket?_clear s)
  · exact .inl (ticket?_run (waiting?_clear s) hrun)

/-- After a flush no update is pending. -/
theorem ticket?_of_flush (hflush : s.delivered (fun _ => true) text cancelled = .ok s') :
    s'.ticket? = none := by
  rcases flush_cases hflush with ⟨-, rfl⟩ | ⟨splice, applied, -, hrun⟩
  · exact ticket?_clear s
  · exact ticket?_run (waiting?_clear s) hrun

/-- After a flush nothing waits, unless a ticket was cancelled. -/
theorem waiting?_of_flush (hflush : s.delivered (fun _ => true) text false = .ok s') :
    s'.waiting? = none := by
  rcases flush_cases hflush with ⟨-, rfl⟩ | ⟨splice, applied, -, hrun⟩
  · exact waiting?_clear s
  · rcases waiting?_run (waiting?_clear s) hrun with hnone | ⟨hcancelled, -⟩
    · exact hnone
    · exact absurd hcancelled Bool.false_ne_true

/-- **Where a ticket comes from.** After a call a document has the ticket that it had before, unless
that was discarded, or the one that was issued for a change of the document. -/
theorem Neat.ticket?_of_answer (h : s.Neat scheme) {ticket : Ticket}
    (hanswer : s.answer id scheme text cancelled next call = .ok s')
    (hticket : s'.ticket? = some ticket) :
    s.ticket? = some ticket ∧ ¬ call.Discards id ∨
      ticket = next ∧ s.isOpen = true ∧ ∃ splice now, call = .event (.changed id splice) now := by
  have hnone {s : Slot} (hnone : s.ticket? = none) (hsome : s.ticket? = some ticket) : False :=
    absurd (hnone.symm.trans hsome) (by simp)
  have hopen (hticket : s.ticket? = some ticket) : s.isOpen ≠ false := fun hclosed =>
    hnone (ticket?_of_waiting? (h.waiting?_of_closed hclosed)) hticket
  have hkept {due : QuietTimer → Bool} {applied : Bool}
      (hdeliver : s.deliver due text cancelled = .ok (applied, s')) : s.ticket? = some ticket := by
    rcases ticket?_deliver hdeliver with hdue | ⟨-, rfl⟩
    · exact (hnone hdue hticket).elim
    · exact hticket
  cases becomes_of_answer hanswer with
  | kept hscheme hdiscards =>
      exact .inl ⟨hticket, fun hdiscarded => hopen hticket (hdiscards hdiscarded)⟩
  | opened now => exact .inl ⟨bind_of_scan hticket, not_false⟩
  | found hclosed hscheme => exact absurd hclosed (hopen (bind_of_scan hticket))
  | closed now => cases hticket
  | waits now hopened hboth hdelay =>
      exact .inr ⟨(Option.some.inj hticket).symm, hopened, _, now, rfl⟩
  | changed now hopened hboth hdelay hrun => exact (hnone (ticket?_run rfl hrun) hticket).elim
  | configured scheme' now =>
      exact (hnone (ticket?_of_waiting? (waiting?_reset_forget s scheme' text)) hticket).elim
  | polled hdeliver => exact .inl ⟨hkept hdeliver, not_false⟩
  | flushed hdeliver => exact .inl ⟨hkept hdeliver, not_false⟩
  | refreshed htouched => exact (hnone (ticket?_clear s) (bind_of_scan hticket)).elim

end Slot

namespace Workspace

variable {w w' : Workspace} {texts : Texts} {call : Call} {id : DocumentId}

/-- All that a workspace has fits together. -/
structure Coherent (w : Workspace) : Prop where
  tickets : w.tickets.WellFormed
  neat : ∀ id, (w.slot id).Neat w.scheme
  ticket_lt : ∀ id ticket, w.ticket? id = some ticket → ticket.number < w.tickets.issued

theorem coherent_start (scheme : Scheme) : ({ scheme } : Workspace).Coherent :=
  ⟨fun _ hticket => absurd hticket List.not_mem_nil, fun _ => Slot.neat_empty scheme,
    (fun _ _ hticket => nomatch hticket)⟩

/-- A coherent workspace is sound. -/
theorem Coherent.sound (h : w.Coherent) : w.Sound where
  tickets := h.tickets
  isOpen id b hb := (h.neat id).isOpen b hb
  backlog id b hb := by
    refine ⟨fun update hupdate => h.ticket_lt id update.ticket ?_, fun update hupdate => ?_⟩
    · rw [ticket?, hb, Option.bind_some, Backlog.ticket?, hupdate, Option.map_some]
    · rcases ((h.neat id).backlog b hb).single with hnone | hnone
      · exact absurd (hnone.symm.trans hupdate) (by simp)
      · exact hnone

/-- After a call a document has the ticket that it had before, unless that was discarded, or the one
that was issued for a change of the document. -/
theorem Answers.ticket?_cases (hanswers : w.Answers texts call w') (h : w.Coherent)
    {ticket : Ticket} (hticket : w'.ticket? id = some ticket) :
    w.ticket? id = some ticket ∧ ¬ call.Discards id ∨
      ticket = w.tickets.next ∧ w.tickets.issued < w'.tickets.issued ∧
        ∃ splice now, call = .event (.changed id splice) now := by
  rcases (h.neat id).ticket?_of_answer (hanswers.slot_eq id) hticket with
    hold | ⟨hnext, hopen, splice, now, hcall⟩
  · exact .inl hold
  · exact .inr ⟨hnext, hanswers.issued_lt id splice now hcall hopen, splice, now, hcall⟩

/-- **The step.** A call on a coherent workspace leads to a coherent one. -/
theorem Coherent.of_answers (h : w.Coherent) (hanswers : w.Answers texts call w') :
    w'.Coherent where
  tickets ticket hticket := by
    have hcancelled : w'.tickets.isCancelled ticket = true := by
      simpa [Tickets.isCancelled] using hticket
    refine Nat.lt_of_lt_of_le ?_ hanswers.issued_le
    rcases (hanswers.isCancelled_iff ticket).1 hcancelled with hold | ⟨id, -, hid⟩
    · exact h.tickets ticket (by simpa [Tickets.isCancelled] using hold)
    · exact h.ticket_lt id ticket hid
  neat id := by
    rw [hanswers.scheme_eq]
    exact (h.neat id).answer (hanswers.slot_eq id)
  ticket_lt id ticket hticket := by
    rcases hanswers.ticket?_cases h hticket with ⟨hold, -⟩ | ⟨rfl, hlt, -⟩
    · exact Nat.lt_of_lt_of_le (h.ticket_lt id ticket hold) hanswers.issued_le
    · exact hlt

/-- Cancelling a ticket that was issued. -/
theorem Coherent.cancel (h : w.Coherent) {ticket : Ticket}
    (hticket : ticket.number < w.tickets.issued) : (w.cancel ticket).Coherent :=
  ⟨h.tickets.cancel hticket, h.neat, h.ticket_lt⟩

end Workspace

end BracketTint
