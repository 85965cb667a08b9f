import BracketTint.Proofs.Host
import BracketTint.Proofs.Revision

/-!
# What No Editor Can Break

An editor may forget its duties: texts may change without a word or go away, splices may be wrong,
and documents may be opened at any time. Then documents need no longer be the scans of their texts.
But each open document is the scan of some text under the present scheme (`Slot.Scanned`), as long
as texts have room.

So updates can always be carried out, whatever their splices are (`Slot.Scanned.deliver`). The only
call that can fault is a change, where splices are joined before they are carried out.

## Main results

* `Slot.Scanned.answer` — after any call a document that is open is the scan of some text;
* `Workspace.Coherent.answer_eq_error_iff` — a call faults exactly if it tells of a change that
  cannot be joined to what waits;
* `Host.Steady.perform`, `Host.Steady.performAll` — the step and the run.
-/

namespace BracketTint

namespace Slot

variable {s s' : Slot} {id : DocumentId} {scheme : Scheme} {text : Option (List String)}
  {cancelled : Bool} {next : Ticket} {call : Call} {splice : Splice} {fault : Fault}

/-- If a document is open, it is the scan of some text. -/
def Scanned (s : Slot) (scheme : Scheme) : Prop :=
  ∀ d, s.document = some d → ∃ base : List String, base.length < Word.half ∧ d = .parse scheme base

theorem scanned_scan (htext : ∀ lines, text = some lines → lines.length < Word.half) (s : Slot)
    (scheme : Scheme) : (s.scan scheme text).Scanned scheme := by
  intro d hd
  cases text with
  | none => exact nomatch hd
  | some lines => exact ⟨lines, htext lines rfl, (Option.some.inj hd).symm⟩

/-- The document after what waits was taken out is the same one. -/
theorem Scanned.taken (h : s.Scanned scheme) (timer : QuietTimer) :
    Slot.Scanned ⟨s.document, some { timer := timer.stop }⟩ scheme := h

/-- **Carrying out an update** of a document for which nothing else waits. There is no fault. -/
theorem Scanned.run (h : s.Scanned scheme)
    (htext : ∀ lines, text = some lines → lines.length < Word.half) (hwaiting : s.waiting? = none)
    (cancelled : Bool) (splice : Splice) :
    ∃ result, s.run text cancelled splice = .ok result ∧ result.2.Scanned scheme := by
  cases cancelled with
  | true =>
      cases hb : s.backlog with
      | none => exact ⟨(false, s), by simp [Slot.run, hb], h⟩
      | some b =>
          have hempty : b.waiting? = none := by simpa [waiting?, hb] using hwaiting
          refine ⟨(false, ⟨s.document, some { b with carried := some splice }⟩), ?_, h⟩
          simp [Slot.run, hb, Backlog.carry_eq hempty]
  | false =>
      cases text with
      | none => exact ⟨(false, {}), by simp [Slot.run], fun _ hd => by cases hd⟩
      | some lines =>
          cases hd : s.document with
          | none => exact ⟨(false, s), by simp [Slot.run, hd], h⟩
          | some d =>
              obtain ⟨base, hbase, rfl⟩ := h d hd
              have hlines := htext lines rfl
              obtain ⟨effort, hupdate, hheld⟩ :=
                Document.update_eq_parse_heldText scheme (r := ⟨splice, lines⟩) hbase hlines
              refine ⟨_, run_of_update hd hupdate, fun d' hd' => ?_⟩
              exact ⟨_, hheld ▸ hlines, (Option.some.inj hd').symm⟩

/-- **Carrying out what waits.** There is no fault. -/
theorem Scanned.deliver (h : s.Scanned scheme)
    (htext : ∀ lines, text = some lines → lines.length < Word.half) (due : QuietTimer → Bool)
    (cancelled : Bool) :
    ∃ result, s.deliver due text cancelled = .ok result ∧ result.2.Scanned scheme := by
  rw [Slot.deliver]
  split
  · split
    · exact ⟨_, rfl, h⟩
    · exact Scanned.run (s := s.clear) h htext (waiting?_clear s) cancelled _
  · exact ⟨_, rfl, h⟩

/-- **The call**, for one document. -/
theorem Scanned.answer (h : s.Scanned scheme)
    (htext : ∀ lines, text = some lines → lines.length < Word.half)
    (hanswer : s.answer id scheme text cancelled next call = .ok s') :
    s'.Scanned (call.schemeAfter scheme) := by
  have hdelivered {due : QuietTimer → Bool} {applied : Bool}
      (hdeliver : s.deliver due text cancelled = .ok (applied, s')) : s'.Scanned scheme := by
    obtain ⟨result, hresult, hscanned⟩ := h.deliver htext due cancelled
    obtain rfl := Except.ok.inj (hdeliver.symm.trans hresult)
    exact hscanned
  cases becomes_of_answer hanswer with
  | kept hscheme => exact hscheme.symm ▸ h
  | opened now => exact scanned_scan htext s scheme
  | found hclosed hscheme => exact hscheme.symm ▸ scanned_scan htext s scheme
  | closed now => exact fun _ hd => nomatch hd
  | waits => exact h
  | @changed _ both _ _ _ _ _ _ hrun =>
      obtain ⟨result, hresult, hscanned⟩ :=
        (h.taken (s.timer scheme.delay)).run htext rfl false both
      obtain rfl := Except.ok.inj (hrun.symm.trans hresult)
      exact hscanned
  | configured scheme' now =>
      rw [Slot.reset]
      split
      next => exact scanned_scan htext _ scheme'
      next hclosed => exact fun d hd => absurd (Option.isSome_of_eq_some hd) hclosed
  | polled hdeliver => exact hdelivered hdeliver
  | flushed hdeliver => exact hdelivered hdeliver
  | refreshed htouched => exact scanned_scan htext s.clear scheme

/-- A change faults exactly if it cannot be joined to what waits. -/
theorem Scanned.change_eq_error_iff (h : s.Scanned scheme) (hneat : s.Neat scheme)
    (htext : ∀ lines, text = some lines → lines.length < Word.half) (now : Nat) (next : Ticket) :
    s.change scheme text splice now next = .error fault ↔
      Backlog.compose s.waiting? splice = .error fault := by
  cases hopen : s.isOpen with
  | false =>
      rw [Slot.change, if_neg (Bool.eq_false_iff.1 hopen), hneat.waiting?_of_closed hopen]
      simp [Backlog.compose]
  | true =>
      rw [change_of_isOpen hopen, bind_eq_error_iff]
      refine or_iff_left ?_
      rintro ⟨both, -, hfault⟩
      split at hfault
      · obtain ⟨result, hresult, -⟩ := (h.taken (s.timer scheme.delay)).run htext rfl false both
        rw [hresult] at hfault
        cases hfault
      · cases hfault

/-- **A call faults**, for one document, exactly if it tells of a change of the document that cannot
be joined to what waits. -/
theorem Scanned.answer_eq_error_iff (h : s.Scanned scheme) (hneat : s.Neat scheme)
    (htext : ∀ lines, text = some lines → lines.length < Word.half) :
    s.answer id scheme text cancelled next call = .error fault ↔
      ∃ splice now, call = .event (.changed id splice) now ∧
        Backlog.compose s.waiting? splice = .error fault := by
  have hdelivered (due : QuietTimer → Bool) : s.delivered due text cancelled ≠ .error fault := by
    obtain ⟨result, hresult, -⟩ := h.deliver htext due cancelled
    simp [delivered, hresult]
  cases call with
  | event event now =>
      cases event with
      | changed changed splice =>
          rw [Slot.answer]
          split
          next heq =>
            subst heq
            rw [h.change_eq_error_iff hneat htext]
            simp
          next hne => simp [hne]
      | opened opened => simp [Slot.answer]
      | closed closed => simp [Slot.answer]
      | shown ids => simp [Slot.answer]
      | configured scheme' => simp [Slot.answer]
  | poll now => simp [Slot.answer, hdelivered]
  | flush => simp [Slot.answer, hdelivered]
  | reset touched => cases touched <;> simp [Slot.answer]

end Slot

namespace Workspace

variable {w w' : Workspace} {texts : Texts} {call : Call} {fault : Fault}

/-- **A call faults** exactly if it tells of a change that cannot be joined to what waits. -/
theorem Coherent.answer_eq_error_iff (h : w.Coherent)
    (hscanned : ∀ id, (w.slot id).Scanned w.scheme) (htexts : Bounded texts) :
    w.answer texts call = .error fault ↔
      ∃ id splice now, call = .event (.changed id splice) now ∧
        Backlog.compose (w.waiting? id) splice = .error fault := by
  constructor
  · intro hfault
    obtain ⟨id, hid⟩ := h.sound.exists_answer_eq_error hfault
    exact ⟨id, ((hscanned id).answer_eq_error_iff (h.neat id) (htexts id)).1 hid⟩
  · rintro ⟨id, splice, now, rfl, hfault⟩
    have hopen : w.isOpen id = true := by
      refine Bool.of_not_eq_false fun hclosed => ?_
      have hwaiting : w.waiting? id = none := (h.neat id).waiting?_of_closed hclosed
      rw [hwaiting] at hfault
      exact nomatch hfault
    have hchange := ((hscanned id).change_eq_error_iff (h.neat id) (htexts id) now
      w.tickets.next).2 hfault
    change w.change texts id splice now = _
    rw [h.sound.change_of_open hopen, hchange]
    rfl

end Workspace

namespace Host

variable {host host' : Host} {texts : Texts} {request : Request} {fault : Fault}

/-- What holds of a host whatever it does, as long as the texts have room. -/
structure Steady (host : Host) : Prop extends host.Inv where
  scanned : ∀ id, (host.workspace.slot id).Scanned host.workspace.scheme

theorem steady_start (scheme : Scheme) : (start scheme).Steady :=
  ⟨inv_start scheme, fun _ _ hd => nomatch hd⟩

/-- **The step**: any request that does not fault. -/
theorem Steady.perform (h : host.Steady) (htexts : Workspace.Bounded texts)
    (hperform : host.perform texts request = .ok host') : host'.Steady := by
  refine ⟨h.toInv.perform hperform, ?_⟩
  cases request with
  | call call =>
      obtain ⟨-, hanswers⟩ := h.toInv.answers hperform
      intro id
      rw [hanswers.scheme_eq]
      exact (h.scanned id).answer (htexts id) (hanswers.slot_eq id)
  | hold id =>
      obtain rfl := Except.ok.inj hperform
      exact h.scanned
  | cancel id index =>
      rcases perform_cancel_cases hperform with ⟨-, rfl⟩ | ⟨ticket, -, rfl⟩ <;> exact h.scanned

/-- **The run.** -/
theorem Steady.performAll (h : host.Steady) {run : List (Texts × Request)}
    (hbounded : ∀ step ∈ run, Workspace.Bounded step.1) (hrun : host.performAll run = .ok host') :
    host'.Steady := by
  induction run generalizing host with
  | nil => exact Except.ok.inj hrun ▸ h
  | cons step rest ih =>
      obtain ⟨htexts, hrest⟩ := List.forall_mem_cons.1 hbounded
      obtain ⟨middle, hperform, hrun⟩ := bind_eq_ok_iff.1 hrun
      exact ih (h.perform htexts hperform) hrest hrun

/-- A request faults exactly if it tells of a change that cannot be joined to what waits. -/
theorem Steady.perform_eq_error_iff (h : host.Steady) (htexts : Workspace.Bounded texts) :
    host.perform texts request = .error fault ↔
      ∃ id splice now, request = .call (.event (.changed id splice) now) ∧
        Backlog.compose (host.workspace.waiting? id) splice = .error fault := by
  cases request with
  | call call =>
      have hanswer : host.perform texts (.call call) = .error fault ↔
          host.workspace.answer texts call = .error fault := by
        rw [Host.perform, bind_eq_error_iff]
        simp
      rw [hanswer, h.coherent.answer_eq_error_iff h.scanned htexts]
      simp
  | hold id => simp [Host.perform]
  | cancel id index =>
      rw [Host.perform]
      split <;> simp

end Host

end BracketTint
