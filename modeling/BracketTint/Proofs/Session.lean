import BracketTint.Proofs.Integrity

/-!
# Sessions

A session is all that happens to a host from the start on, together with the texts that the editor
has: the editor changes texts and tells of it, the clock is asked, documents are scanned anew, and
whoever asked for the ticket of a waiting update may cancel it, then or later. The editor has two
duties (`Session.Allows`):

* while a document is open its text stays, but for changes that are told at once and truthfully;
* an open document is not opened once more while changes of it wait.

A document is the scan of some earlier text, its base. It is kept track of (`Slot.Tracks`) as long
as what waits for it bridges the base and the text of the moment: then the next update that runs
brings the document up to date, whatever it is joined from. An update whose ticket was cancelled
comes back and bridges the two as before.

As long as the editor fulfils its duties, no request faults, all documents are kept track of
(`Session.Inv.perform`), and so no change is lost (`Session.no_change_lost`): a document for which
nothing waits is the scan of its text under the scheme configured last, and two flushes leave
nothing waiting. One flush is not enough, since an update whose ticket was cancelled comes back.
-/

namespace BracketTint

/-! ### What the editor tells -/

/-- Whether a call tells how the text of a document changed. -/
def Call.Tells (id : DocumentId) (before after : Option (List String)) : Call → Prop
  | .event (.changed changed splice) _ =>
    if id = changed then
      ∃ lines lines', before = some lines ∧ after = some lines' ∧ splice.Describes lines lines'
    else after = before
  | _ => after = before

/-- Whether a request tells how the text of a document changed. -/
def Request.Tells (id : DocumentId) (before after : Option (List String)) : Request → Prop
  | .call made => made.Tells id before after
  | _ => after = before

/-- A call that leaves alone what waits for a document is not about a change of its text. -/
theorem Call.Tells.eq_of_not_discards {id : DocumentId} {before after : Option (List String)}
    {call : Call} (h : call.Tells id before after) (hkept : ¬ call.Discards id) :
    after = before := by
  cases call with
  | event event now =>
      cases event with
      | changed changed splice => rwa [Tells, if_neg (Ne.symm hkept)] at h
      | opened opened => exact h
      | closed closed => exact h
      | shown ids => exact h
      | configured scheme => exact h
  | poll now => exact h
  | flush => exact h
  | reset touched => exact h

namespace Slot

variable {s s' : Slot} {id : DocumentId} {scheme : Scheme} {text before : Option (List String)}
  {cancelled : Bool} {next : Ticket} {call : Call} {splice : Splice} {waiting : Option Splice}

/-! ### Keeping track of one document -/

/-- If a document is open, it is the scan of a base text under the scheme, and what waits bridges
the base and the text of the document. -/
def Tracks (s : Slot) (scheme : Scheme) (text : Option (List String)) (waiting : Option Splice) :
    Prop :=
  ∀ d, s.document = some d → ∃ base lines, text = some lines ∧ base.length < Word.half ∧
    d = .parse scheme base ∧ Bridges waiting base lines

theorem Tracks.scanned (h : s.Tracks scheme text waiting) : s.Scanned scheme := by
  intro d hd
  obtain ⟨base, -, -, hbase, heq, -⟩ := h d hd
  exact ⟨base, hbase, heq⟩

theorem tracks_of_closed (h : s.isOpen = false) : s.Tracks scheme text waiting := fun d hd =>
  absurd ((Option.isSome_of_eq_some hd).symm.trans h) (by simp)

/-- Only the text of the document itself matters, and only if it is open. -/
theorem Tracks.of_text (h : s.Tracks scheme before waiting)
    (htext : s.isOpen = true → text = before) : s.Tracks scheme text waiting := by
  intro d hd
  rw [htext (Option.isSome_of_eq_some hd)]
  exact h d hd

/-- A document is scanned for which nothing waits. -/
theorem tracks_scan (htext : ∀ lines, text = some lines → lines.length < Word.half)
    (hwaiting : s.waiting? = none) (scheme : Scheme) :
    (s.scan scheme text).Tracks scheme text (s.scan scheme text).waiting? := by
  intro d hd
  cases text with
  | none => exact nomatch hd
  | some lines =>
      have hidle : (s.scan scheme (some lines)).waiting? = none := hwaiting
      rw [hidle]
      exact ⟨lines, lines, rfl, htext lines rfl, (Option.some.inj hd).symm, rfl⟩

/-- **Carrying out an update** that bridges base and text. If it was cancelled it comes back, and
otherwise the document becomes the scan of its text. -/
theorem Tracks.run (h : s.Tracks scheme text (some splice))
    (htext : ∀ lines, text = some lines → lines.length < Word.half) (hbacklog : s.backlog ≠ none)
    (hwaiting : s.waiting? = none) {applied : Bool}
    (hrun : s.run text cancelled splice = .ok (applied, s')) :
    s'.Tracks scheme text s'.waiting? := by
  rcases run_cases hwaiting hrun with ⟨hnone, rfl⟩ | ⟨-, b, -, hempty, rfl⟩ | ⟨-, rfl⟩ |
    ⟨lines, d, d', effort, -, rfl, hd, hupdate, rfl⟩
  · rw [or_iff_right hbacklog] at hnone
    exact tracks_of_closed (by rw [isOpen, hnone, Option.isSome_none])
  · rw [waiting?, Option.bind_some, Backlog.waiting?, Backlog.pending_of_waiting? hempty]
    exact h
  · exact tracks_of_closed rfl
  · obtain ⟨base, _, ⟨rfl⟩, hbase, rfl, hbridges⟩ := h d hd
    have hlines := htext lines rfl
    obtain ⟨effort', hupdate'⟩ := Document.update_of_faithful scheme (r := ⟨splice, lines⟩) hbase
      hlines (Revision.faithful_of_describes hbridges)
    obtain ⟨rfl, -⟩ := Prod.mk.inj (Except.ok.inj (hupdate.symm.trans hupdate'))
    have hidle : Slot.waiting? ⟨some (.parse scheme lines), s.backlog⟩ = none := hwaiting
    rw [hidle]
    exact fun _ hd' => ⟨lines, lines, rfl, hlines, (Option.some.inj hd').symm, rfl⟩

/-- **Carrying out what waits.** -/
theorem Tracks.deliver (h : s.Tracks scheme text s.waiting?)
    (htext : ∀ lines, text = some lines → lines.length < Word.half) {due : QuietTimer → Bool}
    {applied : Bool} (hdeliver : s.deliver due text cancelled = .ok (applied, s')) :
    s'.Tracks scheme text s'.waiting? := by
  rcases deliver_cases hdeliver with ⟨-, rfl⟩ | ⟨hidle, rfl⟩ | ⟨splice, hwaiting, hrun⟩
  · exact h
  · rw [waiting?_clear, ← hidle]
    exact h
  · have hflying : s.clear.Tracks scheme text (some splice) := hwaiting ▸ h
    exact hflying.run htext (backlog_clear_ne_none hwaiting) (waiting?_clear s) hrun

/-- **A change** that is told truthfully joins what waits without a fault, and the two together
bridge the base and the new text. -/
theorem Tracks.compose (h : s.Tracks scheme before s.waiting?)
    (hbefore : ∀ lines, before = some lines → lines.length < Word.half)
    (htext : ∀ lines, text = some lines → lines.length < Word.half) (hopen : s.isOpen = true)
    {now : Nat} (htold : (Call.event (.changed id splice) now).Tells id before text) :
    ∃ both, Backlog.compose s.waiting? splice = .ok both ∧
      s.Tracks scheme text (some both) := by
  rw [Call.Tells, if_pos rfl] at htold
  obtain ⟨middle, lines, hmiddle, hlines, hsplice⟩ := htold
  obtain ⟨d, hd⟩ := Option.isSome_iff_exists.1 hopen
  obtain ⟨base, _, hmiddle', hbase, rfl, hbridges⟩ := h d hd
  obtain rfl := Option.some.inj (hmiddle.symm.trans hmiddle')
  obtain ⟨both, hboth, hdescribes⟩ :=
    hbridges.compose hsplice hbase (hbefore _ hmiddle) (htext lines hlines)
  refine ⟨both, hboth, fun d' hd' => ?_⟩
  obtain rfl := Option.some.inj (hd.symm.trans hd')
  exact ⟨base, lines, hlines, hbase, rfl, hdescribes⟩

/-- **The call**, for one document whose editor fulfils its duties. -/
theorem Tracks.answer (h : s.Tracks scheme before s.waiting?) (hneat : s.Neat scheme)
    (hbefore : ∀ lines, before = some lines → lines.length < Word.half)
    (htext : ∀ lines, text = some lines → lines.length < Word.half)
    (htold : s.isOpen = true → call.Tells id before text)
    (hopened : ∀ now, call = .event (.opened id) now → s.waiting? = none)
    (hanswer : s.answer id scheme text cancelled next call = .ok s') :
    s'.Tracks (call.schemeAfter scheme) text s'.waiting? := by
  cases becomes_of_answer hanswer with
  | kept hscheme hdiscards =>
      rw [hscheme]
      refine h.of_text fun hopen => (htold hopen).eq_of_not_discards fun hdiscarded => ?_
      exact absurd (hopen.symm.trans (hdiscards hdiscarded)) (by simp)
  | opened now => exact tracks_scan htext (hopened now rfl) scheme
  | found hclosed hscheme =>
      rw [hscheme]
      exact tracks_scan htext (hneat.waiting?_of_closed hclosed) scheme
  | closed now => exact tracks_of_closed rfl
  | waits now hopen hboth hdelay =>
      obtain ⟨both', hboth', htracks⟩ := h.compose hbefore htext hopen (htold hopen)
      obtain rfl := Except.ok.inj (hboth.symm.trans hboth')
      exact htracks
  | changed now hopen hboth hdelay hrun =>
      obtain ⟨both', hboth', htracks⟩ := h.compose hbefore htext hopen (htold hopen)
      obtain rfl := Except.ok.inj (hboth.symm.trans hboth')
      exact htracks.run (s := ⟨s.document, some { timer := _ }⟩) htext (by simp) rfl hrun
  | configured scheme' now =>
      rw [Slot.reset]
      split
      next => exact tracks_scan (s := Slot.clear ⟨s.document, none⟩) htext rfl scheme'
      next hclosed => exact tracks_of_closed (Bool.eq_false_iff.2 hclosed)
  | polled hdeliver => exact (h.of_text htold).deliver htext hdeliver
  | flushed hdeliver => exact (h.of_text htold).deliver htext hdeliver
  | refreshed htouched => exact tracks_scan htext (waiting?_clear s) scheme

end Slot

/-- A host, and the editor whose texts it works on. -/
structure Session extends Host where
  /-- The scheme that was configured last. -/
  scheme : Scheme
  /-- The texts that the editor has. -/
  texts : Texts

namespace Session

variable {s s' : Session} {texts : Texts} {request : Request}

/-- The session in which nothing has happened. -/
def start (scheme : Scheme) (texts : Texts) : Session := ⟨.start scheme, scheme, texts⟩

/-- A request, at which the editor has these texts. -/
def perform (s : Session) (texts : Texts) (request : Request) : Except Fault Session := do
  let host ← s.toHost.perform texts request
  return ⟨host, request.schemeAfter s.scheme, texts⟩

/-- **The duties of the editor.** Texts have fewer lines than half of all words, as all texts in
memory do. -/
structure Allows (s : Session) (texts : Texts) (request : Request) : Prop where
  bounded : Workspace.Bounded texts
  told : ∀ id, s.workspace.isOpen id = true → request.Tells id (s.texts id) (texts id)
  opened : ∀ id now, request = .call (.event (.opened id) now) → s.workspace.isOpen id = true →
    s.workspace.isWaiting id = false

/-- The sessions that can come about. -/
inductive Reachable (scheme : Scheme) : Session → Prop where
  | start {texts : Texts} (hbounded : Workspace.Bounded texts) :
      Reachable scheme (start scheme texts)
  | step {s s' : Session} (h : Reachable scheme s) (texts : Texts) (request : Request)
      (hallows : s.Allows texts request) (hperform : s.perform texts request = .ok s') :
      Reachable scheme s'

/-- All open documents are kept track of, under the scheme configured last. -/
structure Inv (s : Session) : Prop extends s.toHost.Inv where
  scheme_eq : s.workspace.scheme = s.scheme
  bounded : Workspace.Bounded s.texts
  tracks : ∀ id, (s.workspace.slot id).Tracks s.workspace.scheme (s.texts id)
    (s.workspace.waiting? id)

/-! ### One request -/

theorem Inv.steady (h : s.Inv) : s.toHost.Steady :=
  ⟨h.toInv, fun id => (h.tracks id).scanned⟩

/-- What the duties allow does not fault. -/
theorem Inv.perform_ok (h : s.Inv) (hallows : s.Allows texts request) :
    ∃ host, s.toHost.perform texts request = .ok host := by
  cases hperform : s.toHost.perform texts request with
  | ok host => exact ⟨host, rfl⟩
  | error fault =>
      obtain ⟨id, splice, now, rfl, hfault⟩ :=
        (h.steady.perform_eq_error_iff hallows.bounded).1 hperform
      cases hopen : s.workspace.isOpen id with
      | false =>
          have hidle : s.workspace.waiting? id = none :=
            (h.coherent.neat id).waiting?_of_closed hopen
          rw [hidle] at hfault
          exact nomatch hfault
      | true =>
          have htold : (Call.event (.changed id splice) now).Tells id (s.texts id) (texts id) :=
            hallows.told id hopen
          obtain ⟨both, hboth, -⟩ :=
            (h.tracks id).compose (h.bounded id) (hallows.bounded id) hopen htold
          exact absurd (hboth.symm.trans hfault) (by simp)

/-- What happens to a document is kept track of. -/
theorem Inv.tracks_perform (h : s.Inv) (hallows : s.Allows texts request) {host : Host}
    (hperform : s.toHost.perform texts request = .ok host) (id : DocumentId) :
    (host.workspace.slot id).Tracks host.workspace.scheme (texts id)
      (host.workspace.waiting? id) := by
  cases request with
  | call call =>
      obtain ⟨-, hanswers⟩ := h.toInv.answers hperform
      rw [hanswers.scheme_eq]
      refine (h.tracks id).answer (h.coherent.neat id) (h.bounded id) (hallows.bounded id)
        (hallows.told id) (fun now hcall => ?_) (hanswers.slot_eq id)
      cases hopen : s.workspace.isOpen id with
      | false => exact (h.coherent.neat id).waiting?_of_closed hopen
      | true =>
          exact Workspace.isWaiting_eq_false_iff.1
            (hallows.opened id now (congrArg _ hcall) hopen)
  | hold held =>
      obtain rfl := Except.ok.inj hperform
      exact (h.tracks id).of_text (hallows.told id)
  | cancel held index =>
      rcases Host.perform_cancel_cases hperform with ⟨-, rfl⟩ | ⟨ticket, -, rfl⟩ <;>
        exact (h.tracks id).of_text (hallows.told id)

/-- **The step.** What the duties allow does not fault, and the invariant holds afterwards. -/
theorem Inv.perform (h : s.Inv) (hallows : s.Allows texts request) :
    ∃ s', s.perform texts request = .ok s' ∧ s'.Inv := by
  obtain ⟨host, hperform⟩ := h.perform_ok hallows
  refine ⟨⟨host, request.schemeAfter s.scheme, texts⟩, ?_, h.toInv.perform hperform, ?_,
    hallows.bounded, h.tracks_perform hallows hperform⟩
  · rw [Session.perform, hperform]
    rfl
  · rw [Host.scheme_perform h.toInv hperform, h.scheme_eq]

/-- **A flush.** Afterwards no update is pending, and nothing waits if none was pending before. -/
theorem Inv.flush (h : s.Inv) (hperform : s.perform texts (.call .flush) = .ok s') :
    (∀ id, s'.workspace.ticket? id = none) ∧
      ((∀ id, s.workspace.ticket? id = none) → ∀ id, s'.workspace.isWaiting id = false) := by
  obtain ⟨host, hflush, hs⟩ := bind_eq_ok_iff.1 hperform
  obtain rfl := Except.ok.inj hs
  obtain ⟨-, hanswers⟩ := h.toInv.answers hflush
  refine ⟨fun id => Slot.ticket?_of_flush (hanswers.slot_eq id), fun hnone id => ?_⟩
  have hslot := hanswers.slot_eq id
  rw [Workspace.isRevoked, hnone id, Option.any_none] at hslot
  exact Workspace.isWaiting_eq_false_iff.2 (Slot.waiting?_of_flush hslot)

/-! ### Whole sessions -/

theorem Inv.start (scheme : Scheme) (hbounded : Workspace.Bounded texts) :
    (Session.start scheme texts).Inv :=
  ⟨Host.inv_start scheme, rfl, hbounded, fun _ => Slot.tracks_of_closed rfl⟩

/-- **The run.** The invariant holds in all sessions that can come about. -/
theorem Reachable.inv {scheme : Scheme} (h : Reachable scheme s) : s.Inv := by
  induction h with
  | start hbounded => exact .start scheme hbounded
  | step h texts request hallows hperform ih =>
      obtain ⟨s', hperform', hinv⟩ := ih.perform hallows
      rw [hperform] at hperform'
      exact Except.ok.inj hperform' ▸ hinv

/-- An open document for which nothing waits is the scan of its text. -/
theorem Inv.eq_parse (h : s.Inv) {id : DocumentId} {d : Document}
    (hd : s.workspace.documents.get? id = some d) (hwaiting : s.workspace.isWaiting id = false) :
    ∃ lines, s.texts id = some lines ∧ d = .parse s.scheme lines := by
  obtain ⟨base, lines, htext, -, rfl, hbridges⟩ := h.tracks id d hd
  rw [Workspace.isWaiting_eq_false_iff.1 hwaiting] at hbridges
  obtain rfl : base = lines := hbridges
  exact ⟨base, htext, by rw [h.scheme_eq]⟩

/-- **No change is lost.** In every session that can come about

* each open document for which nothing waits is the scan of its text under the scheme configured
  last;
* two flushes, one after the other, leave nothing waiting;
* whatever the duties allow next does not fault. -/
theorem no_change_lost {scheme : Scheme} (h : Reachable scheme s) :
    (∀ id d, s.workspace.documents.get? id = some d → s.workspace.isWaiting id = false →
      ∃ lines, s.texts id = some lines ∧ d = .parse s.scheme lines) ∧
    (∀ texts₁ texts₂, s.Allows texts₁ (.call .flush) →
      ∃ s₁, s.perform texts₁ (.call .flush) = .ok s₁ ∧
        (s₁.Allows texts₂ (.call .flush) → ∃ s₂, s₁.perform texts₂ (.call .flush) = .ok s₂ ∧
          ∀ id, s₂.workspace.isWaiting id = false)) ∧
    ∀ texts request, s.Allows texts request → ∃ s', s.perform texts request = .ok s' := by
  refine ⟨fun id d hd hwaiting => h.inv.eq_parse hd hwaiting, fun texts₁ texts₂ hallows₁ => ?_,
    fun texts request hallows => ?_⟩
  · obtain ⟨s₁, hperform₁, hinv⟩ := h.inv.perform hallows₁
    refine ⟨s₁, hperform₁, fun hallows₂ => ?_⟩
    obtain ⟨s₂, hperform₂, -⟩ := hinv.perform hallows₂
    obtain ⟨hpending, -⟩ := h.inv.flush hperform₁
    obtain ⟨-, hidle⟩ := hinv.flush hperform₂
    exact ⟨s₂, hperform₂, hidle hpending⟩
  · obtain ⟨s', hperform, -⟩ := h.inv.perform hallows
    exact ⟨s', hperform⟩

/-- A document is opened, a line goes into its text, and the ticket of the waiting change is asked
for and cancelled. -/
theorem no_change_lost_cancelled :
    ∃ scheme s, Reachable scheme s ∧ s.workspace.isWaiting "a" = true ∧
      s.workspace.tickets.cancelled = [⟨0⟩] ∧
      (∀ id d, s.workspace.documents.get? id = some d → s.workspace.isWaiting id = false →
        ∃ lines, s.texts id = some lines ∧ d = .parse s.scheme lines) ∧
      (∀ texts₁ texts₂, s.Allows texts₁ (.call .flush) →
        ∃ s₁, s.perform texts₁ (.call .flush) = .ok s₁ ∧
          (s₁.Allows texts₂ (.call .flush) → ∃ s₂, s₁.perform texts₂ (.call .flush) = .ok s₂ ∧
            ∀ id, s₂.workspace.isWaiting id = false)) ∧
      ∀ texts request, s.Allows texts request → ∃ s', s.perform texts request = .ok s' := by
  have hbefore := Workspace.bounded_single "a" ["(", ")"] (by decide)
  have hafter := Workspace.bounded_single "a" ["(", "(", ")"] (by decide)
  have htold (id : DocumentId) : (Call.event (.changed "a" ⟨1, 1, 1⟩) 5).Tells id
      (Texts.single "a" ["(", ")"] id) (Texts.single "a" ["(", "(", ")"] id) := by
    rw [Call.Tells, Texts.single, Texts.single]
    split
    · exact ⟨_, _, rfl, rfl, by decide, by decide, ["("], rfl, rfl⟩
    · rfl
  have hopened : Reachable ⟨[⟨'(', ')', ["a", "b"], "c"⟩], .consecutive, false, true, 100⟩ _ :=
    (Reachable.start hbefore).step (.single "a" ["(", ")"]) (.call (.event (.opened "a") 0))
      ⟨hbefore, fun _ _ => rfl, fun _ _ _ hopen => absurd hopen Bool.false_ne_true⟩ rfl
  have hchanged := hopened.step (.single "a" ["(", "(", ")"])
    (.call (.event (.changed "a" ⟨1, 1, 1⟩) 5)) ⟨hafter, fun id _ => htold id, by simp⟩ rfl
  have hheld := hchanged.step (.single "a" ["(", "(", ")"]) (.hold "a")
    ⟨hafter, fun _ _ => rfl, by simp⟩ rfl
  have hcancelled := hheld.step (.single "a" ["(", "(", ")"]) (.cancel "a" 0)
    ⟨hafter, fun _ _ => rfl, by simp⟩ rfl
  exact ⟨_, _, hcancelled, rfl, rfl, no_change_lost hcancelled⟩

end Session

end BracketTint
