import BracketTint.Proofs.Order

/-!
# What a Call Does

A workspace is called for events and to carry out updates or scan documents anew (`Call`). This
module says once what a call does (`Workspace.Answers`), document by document and without mention
of an order:

* the slot of each document is answered by itself (`Slot.answer`), given the scheme, the text of
  the document, whether its ticket is cancelled, and the ticket that is issued next;
* the tickets that a call cancels are those of the updates that it drops (`Call.Drops`).

The workspace has to be sound for this (`Sound.answers`). Texts and splices may be any. A call
faults only where a document by itself does (`Sound.exists_answer_eq_error`).
-/

namespace BracketTint

/-- The scheme after an event. -/
def Event.schemeAfter (scheme : Scheme) : Event → Scheme
  | .configured scheme' => scheme'
  | _ => scheme

/-- What a workspace is called for. -/
inductive Call where
  /-- The editor tells of an event. -/
  | event (event : Event) (now : Nat)
  | poll (now : Nat)
  | flush
  /-- A document, or all open documents, are scanned anew. -/
  | reset (id : Option DocumentId)

namespace Call

/-- The scheme after a call. -/
def schemeAfter (scheme : Scheme) : Call → Scheme
  | .event told _ => told.schemeAfter scheme
  | _ => scheme

/-- Whether a call drops the update that waits for a document and cancels its ticket. A new scheme
drops all updates, but cancels no ticket. -/
def Drops (text : Option (List String)) (id : DocumentId) : Call → Prop
  | .event (.opened opened) _ => opened = id ∧ text = none
  | .event (.closed touched) _ | .event (.changed touched _) _ | .reset (some touched) =>
    touched = id
  | .reset none => True
  | _ => False

/-- Whether a call discards the update that waits for a document, or puts another one in its
place. -/
def Discards (id : DocumentId) : Call → Prop
  | .event (.closed touched) _ | .event (.changed touched _) _ | .reset (some touched) =>
    touched = id
  | .event (.configured _) _ | .reset none => True
  | _ => False

instance decidableDiscards (id : DocumentId) : (call : Call) → Decidable (call.Discards id)
  | .event (.closed touched) _ | .event (.changed touched _) _ | .reset (some touched) =>
    inferInstanceAs (Decidable (touched = id))
  | .event (.configured _) _ | .reset none => inferInstanceAs (Decidable True)
  | .event (.opened _) _ | .event (.shown _) _ | .poll _ | .flush =>
    inferInstanceAs (Decidable False)

/-- Whether a call brings a new scheme. -/
def Configures : Call → Prop
  | .event (.configured _) _ => True
  | _ => False

/-- A call that discards an update cancels its ticket, unless there is a new scheme. -/
theorem Discards.drops_iff {id : DocumentId} {call : Call} (h : call.Discards id)
    (text : Option (List String)) : call.Drops text id ↔ ¬ call.Configures := by
  cases call with
  | event event now =>
      cases event with
      | closed closed => exact iff_of_true h not_false
      | changed changed splice => exact iff_of_true h not_false
      | configured scheme => exact iff_of_false not_false (not_not_intro trivial)
      | opened opened => exact absurd h not_false
      | shown ids => exact absurd h not_false
  | poll now => exact absurd h not_false
  | flush => exact absurd h not_false
  | reset touched =>
      cases touched with
      | none => exact iff_of_true trivial not_false
      | some touched => exact iff_of_true h not_false

end Call

namespace Slot

/-- Scans a text anew if the document is open. -/
def reset (scheme : Scheme) (text : Option (List String)) (s : Slot) : Slot :=
  if s.isOpen then s.refresh scheme text else s

/-- Takes out what waits and carries it out, if the timer is due. -/
def delivered (due : QuietTimer → Bool) (text : Option (List String)) (cancelled : Bool)
    (s : Slot) : Except Fault Slot := do
  let (_, s) ← s.deliver due text cancelled
  return s

/-- What a call does to the slot of a document. -/
def answer (id : DocumentId) (scheme : Scheme) (text : Option (List String)) (cancelled : Bool)
    (next : Ticket) (s : Slot) : Call → Except Fault Slot
  | .event (.opened opened) _ => .ok (if opened = id then s.scan scheme text else s)
  | .event (.closed closed) _ => .ok (if closed = id then {} else s)
  | .event (.changed changed splice) now =>
    if changed = id then s.change scheme text splice now next else .ok s
  | .event (.shown ids) _ => .ok (if id ∈ ids then s.ensureOpen scheme text else s)
  | .event (.configured scheme) _ => .ok ({ s with backlog := none }.reset scheme text)
  | .poll now => s.delivered (·.isDue now) text cancelled
  | .flush => s.delivered (fun _ => true) text cancelled
  | .reset none => .ok (s.reset scheme text)
  | .reset (some touched) => .ok (if touched = id then s.refresh scheme text else s)

end Slot

namespace Workspace

variable {w w' : Workspace} {texts : Texts} {id : DocumentId}

/-- Answers a call, for which the editor has these texts. -/
def answer (w : Workspace) (texts : Texts) : Call → Except Fault Workspace
  | .event event now => w.handle texts event now
  | .poll now => do
    let (_, w) ← w.poll texts now
    return w
  | .flush => do
    let (_, w) ← w.flush texts
    return w
  | .reset id => .ok (w.reset texts id)

/-- Whether the ticket of the update that waits for a document is cancelled. -/
def isRevoked (w : Workspace) (id : DocumentId) : Bool :=
  (w.ticket? id).any w.tickets.isCancelled

/-- **What a call does.** Each document is answered by itself. Tickets are cancelled for the updates
that the call drops, and a change of an open document is given a new one. -/
structure Answers (w : Workspace) (texts : Texts) (call : Call) (w' : Workspace) : Prop where
  scheme_eq : w'.scheme = call.schemeAfter w.scheme
  slot_eq : ∀ id, (w.slot id).answer id w.scheme (texts id) (w.isRevoked id) w.tickets.next call =
    .ok (w'.slot id)
  issued_le : w.tickets.issued ≤ w'.tickets.issued
  issued_lt : ∀ id splice now, call = .event (.changed id splice) now → w.isOpen id = true →
    w.tickets.issued < w'.tickets.issued
  isCancelled_iff : ∀ ticket, w'.tickets.isCancelled ticket = true ↔
    w.tickets.isCancelled ticket = true ∨
      ∃ id, call.Drops (texts id) id ∧ w.ticket? id = some ticket

/-- **The frame**: a call that concerns one document, and cancels at most the ticket of that
document. -/
theorem answers_put {call : Call} {s : Slot} {tickets : Tickets}
    (hscheme : call.schemeAfter w.scheme = w.scheme)
    (hself : (w.slot id).answer id w.scheme (texts id) (w.isRevoked id) w.tickets.next call = .ok s)
    (hothers : ∀ other, other ≠ id → ∀ s text cancelled next,
      Slot.answer other w.scheme text cancelled next s call = .ok s)
    (hdrops : ∀ other text, call.Drops text other → other = id)
    (hissued : tickets.issued = w.tickets.issued ∨ tickets.issued = w.tickets.issued + 1)
    (hlt : ∀ other splice now, call = .event (.changed other splice) now →
      w.isOpen other = true → tickets.issued = w.tickets.issued + 1)
    (hcancelled : ∀ ticket, tickets.isCancelled ticket = true ↔
      w.tickets.isCancelled ticket = true ∨
        call.Drops (texts id) id ∧ w.ticket? id = some ticket) :
    w.Answers texts call (w.put id s tickets) where
  scheme_eq := hscheme.symm
  slot_eq other := by
    rw [slot_put]
    by_cases hne : other = id
    · rw [hne, if_pos rfl, hself]
    · rw [if_neg hne, hothers other hne]
  issued_le := by
    rw [tickets_put]
    omega
  issued_lt other splice now hcall hopen := by
    rw [tickets_put, hlt other splice now hcall hopen]
    exact Nat.lt_succ_self _
  isCancelled_iff ticket := by
    rw [tickets_put, hcancelled]
    refine or_congr_right ⟨fun hdropped => ⟨id, hdropped⟩, ?_⟩
    rintro ⟨other, hdropped, hticket⟩
    obtain rfl := hdrops other _ hdropped
    exact ⟨hdropped, hticket⟩

/-- A call that concerns one document, issues no ticket and cancels the ticket of the document. -/
theorem answers_put_cancel? {call : Call} {s : Slot}
    (hscheme : call.schemeAfter w.scheme = w.scheme)
    (hself : (w.slot id).answer id w.scheme (texts id) (w.isRevoked id) w.tickets.next call = .ok s)
    (hothers : ∀ other, other ≠ id → ∀ s text cancelled next,
      Slot.answer other w.scheme text cancelled next s call = .ok s)
    (hdrops : ∀ other text, call.Drops text other → other = id)
    (hchanged : ∀ other splice now, call ≠ .event (.changed other splice) now)
    (hdropped : call.Drops (texts id) id) :
    w.Answers texts call (w.put id s (w.tickets.cancel? (w.ticket? id))) := by
  refine answers_put hscheme hself hothers hdrops (.inl (Tickets.issued_cancel? _ _))
    (fun other splice now hcall => absurd hcall (hchanged other splice now)) fun ticket => ?_
  rw [Tickets.isCancelled_cancel?, and_iff_right hdropped]

/-- **Opening a document**, whatever waits for it. -/
theorem answers_opened (w : Workspace) (texts : Texts) (id : DocumentId) (now : Nat) :
    w.Answers texts (.event (.opened id) now) (w.openDocument texts id) := by
  rw [openDocument_eq_put]
  refine answers_put rfl ?_ (fun other hne _ _ _ _ => ?_) (fun _ _ h => h.1.symm) (.inl ?_)
    (fun _ _ _ hcall => nomatch hcall) fun ticket => ?_
  · rw [Slot.answer, if_pos rfl]
  · rw [Slot.answer, if_neg (Ne.symm hne)]
  · split
    · rfl
    · exact Tickets.issued_cancel? _ _
  · cases htext : texts id with
    | some lines => simp [Call.Drops]
    | none => simp [Call.Drops, Tickets.isCancelled_cancel?]

/-- **Closing a document.** -/
theorem answers_closed (w : Workspace) (texts : Texts) (id : DocumentId) (now : Nat) :
    w.Answers texts (.event (.closed id) now) (w.close id) := by
  rw [close_eq_put]
  refine answers_put_cancel? rfl ?_ (fun other hne _ _ _ _ => ?_) (fun _ _ h => h.symm)
    (fun _ _ _ hcall => nomatch hcall) rfl
  · rw [Slot.answer, if_pos rfl]
  · rw [Slot.answer, if_neg (Ne.symm hne)]

/-- **Scanning a document anew.** -/
theorem answers_reset_some (w : Workspace) (texts : Texts) (id : DocumentId) :
    w.Answers texts (.reset (some id)) (w.refresh texts id) := by
  rw [refresh_eq_put]
  refine answers_put_cancel? rfl ?_ (fun other hne _ _ _ _ => ?_) (fun _ _ h => h.symm)
    (fun _ _ _ hcall => nomatch hcall) rfl
  · rw [Slot.answer, if_pos rfl]
  · rw [Slot.answer, if_neg (Ne.symm hne)]

/-- **A change.** -/
theorem Sound.answers_changed (h : w.Sound) {splice : Splice} {now : Nat}
    (hchange : w.change texts id splice now = .ok w') :
    w.Answers texts (.event (.changed id splice) now) w' := by
  have hothers (other : DocumentId) (hne : other ≠ id) (s : Slot) (text : Option (List String))
      (cancelled : Bool) (next : Ticket) : Slot.answer other w.scheme text cancelled next s
        (.event (.changed id splice) now) = .ok s := by
    rw [Slot.answer, if_neg (Ne.symm hne)]
  cases hopen : w.isOpen id with
  | false =>
      have hslot : (w.slot id).isOpen = false := hopen
      rw [h.change_of_closed hopen] at hchange
      obtain rfl := Except.ok.inj hchange
      refine answers_put rfl ?_ hothers (fun _ _ h => Eq.symm h) (.inl rfl) ?_ fun ticket => ?_
      · rw [Slot.answer, if_pos rfl, Slot.change, if_neg (Bool.eq_false_iff.1 hslot)]
      · intro other _ _ hcall hother
        injection hcall with hevent
        injection hevent with hid
        exact absurd (hother.symm.trans (hid ▸ hopen)) (by simp)
      · simp [h.ticket?_of_closed hopen]
  | true =>
      rw [h.change_of_open hopen] at hchange
      obtain ⟨s, hs, hput⟩ := bind_eq_ok_iff.1 hchange
      obtain rfl := Except.ok.inj hput
      have hissued : (w.tickets.cancel? (w.ticket? id)).issue.issued = w.tickets.issued + 1 :=
        congrArg (· + 1) (Tickets.issued_cancel? _ _)
      refine answers_put rfl ?_ hothers (fun _ _ h => Eq.symm h) (.inr hissued)
        (fun _ _ _ _ _ => hissued) fun ticket => ?_
      · rw [Slot.answer, if_pos rfl, hs]
      · rw [Tickets.isCancelled_issue, Tickets.isCancelled_cancel?]
        exact or_congr_right (and_iff_right rfl).symm

/-- **Showing documents.** No ticket is cancelled. -/
theorem Sound.answers_shown (h : w.Sound) (texts : Texts) (ids : List DocumentId) (now : Nat) :
    w.Answers texts (.event (.shown ids) now) (ids.foldl (·.ensureOpen texts ·) w) := by
  obtain ⟨hscheme, htickets, hslot⟩ :=
    foldl_ensureOpen (fun _ hclosed => h.ticket?_of_closed hclosed) texts ids
  refine ⟨hscheme, fun id => ?_, Nat.le_of_eq (congrArg _ htickets.symm),
    (fun _ _ _ hcall => nomatch hcall), fun ticket => ?_⟩
  · rw [Slot.answer, hslot]
  · simp [htickets, Call.Drops]

/-- What scanning all open documents anew does to one document. -/
theorem Rescans.slot_eq_reset (h : w.Rescans texts w.documents.keys w') (id : DocumentId) :
    w'.slot id = (w.slot id).reset w.scheme (texts id) := by
  have hmem : id ∈ w.documents.keys ↔ (w.slot id).isOpen = true := by
    rw [Table.mem_keys_iff, Slot.isOpen, Option.isSome_iff_exists]
    rfl
  rw [h.slot_eq, Slot.reset]
  simp only [hmem]

/-- **Scanning all open documents anew.** All tickets are cancelled. -/
theorem Sound.answers_reset_none (h : w.Sound) (texts : Texts) :
    w.Answers texts (.reset none) (w.reset texts none) := by
  have hrescans : w.Rescans texts w.documents.keys (w.reset texts none) :=
    rescans_foldl (Table.nodup_keys _) w texts
  refine ⟨hrescans.scheme_eq, fun id => ?_, Nat.le_of_eq hrescans.issued_eq.symm,
    (fun _ _ _ hcall => nomatch hcall), fun ticket => ?_⟩
  · rw [Slot.answer, hrescans.slot_eq_reset]
  · rw [hrescans.isCancelled_iff]
    refine or_congr_right (exists_congr fun id => and_congr_left fun hticket => ?_)
    refine iff_of_true ?_ trivial
    by_contra hnot
    have hclosed : w.isOpen id = false := by
      rw [Workspace.isOpen, Table.contains, Table.get?_of_notMem_keys hnot, Option.isSome_none]
    exact absurd ((h.ticket?_of_closed hclosed).symm.trans hticket) (by simp)

/-- **A new scheme.** All documents are scanned anew, but no ticket is cancelled: the backlogs are
gone before their tickets can be. -/
theorem answers_configured (w : Workspace) (texts : Texts) (scheme : Scheme) (now : Nat) :
    w.Answers texts (.event (.configured scheme) now) (w.configure texts scheme) := by
  have hrescans : Rescans { w with scheme, backlogs := ∅ } texts w.documents.keys
      (w.configure texts scheme) := rescans_foldl (Table.nodup_keys _) _ texts
  refine ⟨hrescans.scheme_eq, fun id => ?_, Nat.le_of_eq hrescans.issued_eq.symm,
    (fun _ _ _ hcall => nomatch hcall), fun ticket => ?_⟩
  · rw [Slot.answer, hrescans.slot_eq_reset]
    rfl
  · rw [hrescans.isCancelled_iff]
    refine or_congr_right (iff_of_false ?_ ?_)
    · rintro ⟨id, -, hticket⟩
      exact nomatch hticket
    · rintro ⟨id, hdrops, -⟩
      exact hdrops

/-- **Carrying out the updates that are due.** No ticket is cancelled. -/
theorem Sound.answers_deliver (h : w.Sound) {due : QuietTimer → Bool} {count : Nat}
    (hdeliver : w.deliver due w.backlogs.keys texts = .ok (count, w')) {call : Call}
    (hscheme : call.schemeAfter w.scheme = w.scheme)
    (hanswer : ∀ id s text cancelled next,
      Slot.answer id w.scheme text cancelled next s call = s.delivered due text cancelled)
    (hchanged : ∀ id splice now, call ≠ .event (.changed id splice) now)
    (hdrops : ∀ id text, ¬ call.Drops text id) : w.Answers texts call w' := by
  obtain ⟨hscheme', htickets, applied, -, hslot⟩ :=
    (h.deliver_eq_ok_iff (List.Perm.refl _)).1 hdeliver
  refine ⟨hscheme'.trans hscheme.symm, fun id => ?_, ?_,
    fun id splice now hcall => absurd hcall (hchanged id splice now), fun ticket => ?_⟩
  · rw [hanswer, Slot.delivered, isRevoked, hslot]
    rfl
  · rw [htickets]
    exact Nat.le_add_right _ _
  · simp only [hdrops, false_and, exists_false, or_false]
    rw [htickets]
    rfl

/-- **The call.** All that a call does, for each document by itself. -/
theorem Sound.answers (h : w.Sound) {call : Call} (hanswer : w.answer texts call = .ok w') :
    w.Answers texts call w' := by
  cases call with
  | event event now =>
      cases event with
      | opened id => exact Except.ok.inj hanswer ▸ answers_opened w texts id now
      | closed id => exact Except.ok.inj hanswer ▸ answers_closed w texts id now
      | changed id splice => exact h.answers_changed hanswer
      | shown ids => exact Except.ok.inj hanswer ▸ h.answers_shown texts ids now
      | configured scheme => exact Except.ok.inj hanswer ▸ answers_configured w texts scheme now
  | poll now =>
      obtain ⟨⟨count, w''⟩, hpoll, hw⟩ := bind_eq_ok_iff.1 hanswer
      obtain rfl := Except.ok.inj hw
      rw [poll_eq_deliver] at hpoll
      exact h.answers_deliver hpoll rfl (fun _ _ _ _ _ => rfl) (fun _ _ _ hcall => nomatch hcall)
        fun _ _ hdrops => hdrops
  | flush =>
      obtain ⟨⟨count, w''⟩, hflush, hw⟩ := bind_eq_ok_iff.1 hanswer
      obtain rfl := Except.ok.inj hw
      rw [flush_eq_deliver] at hflush
      exact h.answers_deliver hflush rfl (fun _ _ _ _ _ => rfl) (fun _ _ _ hcall => nomatch hcall)
        fun _ _ hdrops => hdrops
  | reset id =>
      cases id with
      | none => exact Except.ok.inj hanswer ▸ h.answers_reset_none texts
      | some id => exact Except.ok.inj hanswer ▸ answers_reset_some w texts id

/-- **A call faults** only where a document by itself does. -/
theorem Sound.exists_answer_eq_error (h : w.Sound) {call : Call} {fault : Fault}
    (hfault : w.answer texts call = .error fault) :
    ∃ id, (w.slot id).answer id w.scheme (texts id) (w.isRevoked id) w.tickets.next call =
      .error fault := by
  have hdelivered {due : QuietTimer → Bool}
      (hfault : w.deliver due w.backlogs.keys texts = .error fault) :
      ∃ id, (w.slot id).delivered due (texts id) (w.isRevoked id) = .error fault := by
    obtain ⟨id, hid⟩ := h.exists_deliver_eq_error (List.Perm.refl _) hfault
    exact ⟨id, bind_eq_error_iff.2 (.inl hid)⟩
  cases call with
  | event event now =>
      cases event with
      | changed id splice =>
          have hchange : w.change texts id splice now = .error fault := hfault
          cases hopen : w.isOpen id with
          | false =>
              rw [h.change_of_closed hopen] at hchange
              exact nomatch hchange
          | true =>
              rw [h.change_of_open hopen, bind_eq_error_iff] at hchange
              refine ⟨id, ?_⟩
              rw [Slot.answer, if_pos rfl]
              simpa using hchange
      | opened id => exact nomatch hfault
      | closed id => exact nomatch hfault
      | shown ids => exact nomatch hfault
      | configured scheme => exact nomatch hfault
  | poll now =>
      refine hdelivered ?_
      rw [← poll_eq_deliver]
      simpa [answer, bind_eq_error_iff] using hfault
  | flush =>
      refine hdelivered ?_
      rw [← flush_eq_deliver]
      simpa [answer, bind_eq_error_iff] using hfault
  | reset id => exact nomatch hfault

end Workspace

end BracketTint
