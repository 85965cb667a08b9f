import BracketTint.Proofs.Workspace

/-!
# One Document at a Time

A workspace serves many documents, but what becomes of one of them depends on that document alone.
What a workspace has of a document, its scan and its backlog, is the `Slot` of the document, and a
workspace is known from its slots, its scheme and its tickets (`Workspace.ext_slot`).

Each operation on one document puts another slot in the place of the one that is there
(`Workspace.put`) and leaves all others alone (`Workspace.slot_put`). What it puts there is said by
an operation on slots, which has nothing but the slot, the scheme and the text of the document to
go by:

* `openDocument_eq_put`, `close_eq_put`, `refresh_eq_put`, `ensureOpen_eq_put` — what touches a
  document without an update;
* `run_eq_put` — carrying out an update;
* `Sound.change_of_open`, `Sound.change_of_closed` — a change.
-/

namespace BracketTint

/-- An update keeps the scheme. -/
theorem Document.scheme_update {d d' : Document} {splice : Splice} {lines : List String}
    {effort : Effort} (h : d.update splice lines = .ok (d', effort)) : d'.scheme = d.scheme := by
  simp only [update] at h
  split at h
  · obtain ⟨rfl, -⟩ := Prod.mk.inj (Except.ok.inj h)
    rfl
  · obtain ⟨growth, -, h⟩ := bind_eq_ok_iff.1 h
    obtain ⟨fresh, -, h⟩ := bind_eq_ok_iff.1 h
    obtain ⟨below, -, h⟩ := bind_eq_ok_iff.1 h
    obtain ⟨rfl, -⟩ := Prod.mk.inj (Except.ok.inj h)
    rfl

namespace Table

variable {κ α : Type} [Ord κ] [Std.TransOrd κ] [Std.LawfulEqOrd κ]

/-- Gives a key a value, or takes it out. -/
def put (t : Table κ α) (key : κ) : Option α → Table κ α
  | some value => t.insert key value
  | none => t.erase key

theorem get?_put [DecidableEq κ] (t : Table κ α) (key k : κ) (value : Option α) :
    (t.put key value).get? k = if k = key then value else t.get? k := by
  cases value with
  | none => exact get?_erase t key k
  | some value => exact get?_insert t key k value

end Table

namespace Tickets

/-- Cancels a ticket, if there is one. -/
def cancel? (t : Tickets) (ticket : Option Ticket) : Tickets := ticket.elim t t.cancel

@[simp] theorem cancel?_none (t : Tickets) : t.cancel? none = t := rfl

@[simp] theorem issued_cancel? (t : Tickets) (ticket : Option Ticket) :
    (t.cancel? ticket).issued = t.issued := by
  cases ticket <;> rfl

@[simp] theorem isCancelled_issue (t : Tickets) (ticket : Ticket) :
    t.issue.isCancelled ticket = t.isCancelled ticket := rfl

theorem isCancelled_cancel (t : Tickets) (ticket other : Ticket) :
    (t.cancel ticket).isCancelled other = true ↔ t.isCancelled other = true ∨ other = ticket := by
  simp [isCancelled, cancel, or_comm]

theorem isCancelled_cancel? (t : Tickets) (ticket : Option Ticket) (other : Ticket) :
    (t.cancel? ticket).isCancelled other = true ↔
      t.isCancelled other = true ∨ ticket = some other := by
  cases ticket with
  | none => simp
  | some ticket =>
      rw [cancel?, Option.elim_some, isCancelled_cancel, Option.some.injEq, eq_comm (a := ticket)]

end Tickets

/-- Emptying a backlog cancels the ticket of the update that waits. -/
theorem Backlog.clear_snd (b : Backlog) (t : Tickets) : (b.clear t).2 = t.cancel? b.ticket? := by
  cases hpending : b.pending <;> simp [clear, ticket?, hpending, Tickets.cancel?]

/-- What a workspace has of one document. -/
structure Slot where
  document : Option Document := none
  backlog : Option Backlog := none

namespace Slot

/-- Whether the document is open. -/
def isOpen (s : Slot) : Bool := s.document.isSome

/-- The splice that waits. -/
def waiting? (s : Slot) : Option Splice := s.backlog.bind Backlog.waiting?

/-- The ticket of the update that waits. -/
def ticket? (s : Slot) : Option Ticket := s.backlog.bind Backlog.ticket?

/-- Scans a text. Without a text nothing is left. -/
def scan (scheme : Scheme) (text : Option (List String)) (s : Slot) : Slot :=
  match text with
  | some lines => { s with document := some (.parse scheme lines) }
  | none => {}

/-- Drops what waits. -/
def clear (s : Slot) : Slot :=
  { s with backlog := s.backlog.map fun b => { timer := b.timer.stop } }

/-- Scans a text unless the document is open. -/
def ensureOpen (scheme : Scheme) (text : Option (List String)) (s : Slot) : Slot :=
  if s.isOpen then s else s.scan scheme text

/-- Scans a text anew and drops what waits. -/
def refresh (scheme : Scheme) (text : Option (List String)) (s : Slot) : Slot :=
  s.clear.scan scheme text

/-- Carries out an update, and says whether it was applied. -/
def run (text : Option (List String)) (cancelled : Bool) (splice : Splice) (s : Slot) :
    Except Fault (Bool × Slot) :=
  if cancelled then
    match s.backlog with
    | none => .ok (false, s)
    | some b => do
      let b ← b.carry splice
      return (false, { s with backlog := some b })
  else
    match text with
    | none => .ok (false, {})
    | some lines =>
      match s.document with
      | none => .ok (false, s)
      | some d => do
        let (d, _) ← d.update splice lines
        return (true, { s with document := some d })

/-- Takes out what waits and carries it out, if the timer is due. -/
def deliver (due : QuietTimer → Bool) (text : Option (List String)) (cancelled : Bool)
    (s : Slot) : Except Fault (Bool × Slot) :=
  if s.backlog.any fun b => due b.timer then
    match s.waiting? with
    | none => .ok (false, s.clear)
    | some splice => s.clear.run text cancelled splice
  else .ok (false, s)

/-- Adds a splice to what waits, under a ticket. -/
def schedule (delay : Nat) (splice : Splice) (now : Nat) (ticket : Ticket) (s : Slot) :
    Except Fault Slot := do
  let both ← Backlog.compose s.waiting? splice
  let timer := (s.backlog.getD (.ofDelay delay)).timer.start now
  return { s with backlog := some ⟨timer, some ⟨both, ticket⟩, none⟩ }

/-- Takes a change. Without a delay it is applied at once. -/
def change (scheme : Scheme) (text : Option (List String)) (splice : Splice) (now : Nat)
    (ticket : Ticket) (s : Slot) : Except Fault Slot :=
  if s.isOpen then do
    let s ← s.schedule scheme.delay splice now ticket
    if scheme.delay = 0 then return (← s.deliver (fun _ => true) text false).2 else return s
  else .ok (s.scan scheme text)

theorem ensureOpen_of_isOpen {s : Slot} (h : s.isOpen = true) (scheme : Scheme)
    (text : Option (List String)) : s.ensureOpen scheme text = s := if_pos h

theorem ensureOpen_of_closed {s : Slot} (h : s.isOpen = false) (scheme : Scheme)
    (text : Option (List String)) : s.ensureOpen scheme text = s.scan scheme text :=
  if_neg (Bool.eq_false_iff.1 h)

/-- A document that is shown once more stays as it is, also if it has no text. -/
theorem ensureOpen_ensureOpen (scheme : Scheme) (text : Option (List String)) (s : Slot) :
    (s.ensureOpen scheme text).ensureOpen scheme text = s.ensureOpen scheme text := by
  cases hopen : s.isOpen with
  | true => rw [ensureOpen_of_isOpen hopen, ensureOpen_of_isOpen hopen]
  | false =>
      rw [ensureOpen_of_closed hopen]
      cases text <;> rfl

theorem ticket?_ensureOpen {s : Slot} (h : s.isOpen = false → s.ticket? = none) {scheme : Scheme}
    {text : Option (List String)} (hclosed : (s.ensureOpen scheme text).isOpen = false) :
    (s.ensureOpen scheme text).ticket? = none := by
  cases hopen : s.isOpen with
  | true =>
      rw [ensureOpen_of_isOpen hopen] at hclosed
      exact absurd (hopen.symm.trans hclosed) (by simp)
  | false =>
      rw [ensureOpen_of_closed hopen] at hclosed ⊢
      cases text with
      | none => rfl
      | some lines => exact h hopen

theorem run_of_update {s : Slot} {d d' : Document} {splice : Splice} {lines : List String}
    {effort : Effort} (hd : s.document = some d) (h : d.update splice lines = .ok (d', effort)) :
    s.run (some lines) false splice = .ok (true, { s with document := some d' }) := by
  simp [run, hd, h]

@[simp] theorem ticket?_clear (s : Slot) : s.clear.ticket? = none := by
  cases hb : s.backlog <;> simp [clear, ticket?, hb, Backlog.ticket?]

@[simp] theorem waiting?_clear (s : Slot) : s.clear.waiting? = none := by
  cases hb : s.backlog <;> simp [clear, waiting?, hb, Backlog.waiting?]

end Slot

namespace Workspace

variable {w w' : Workspace} {texts : Texts} {id other : DocumentId}

/-- What a workspace has of a document. -/
def slot (w : Workspace) (id : DocumentId) : Slot := ⟨w.documents.get? id, w.backlogs.get? id⟩

/-- Workspaces that have the same of each document are the same. -/
theorem ext_slot (hscheme : w.scheme = w'.scheme) (hslot : ∀ id, w.slot id = w'.slot id)
    (htickets : w.tickets = w'.tickets) : w = w' := by
  obtain ⟨scheme, documents, backlogs, tickets⟩ := w
  obtain ⟨scheme', documents', backlogs', tickets'⟩ := w'
  have hdocuments : documents = documents' :=
    Table.ext_get? fun id => congrArg Slot.document (hslot id)
  have hbacklogs : backlogs = backlogs' :=
    Table.ext_get? fun id => congrArg Slot.backlog (hslot id)
  simp_all

/-- Puts a slot in the place of another one. -/
def put (w : Workspace) (id : DocumentId) (s : Slot) (tickets : Tickets) : Workspace :=
  { w with
    documents := w.documents.put id s.document
    backlogs := w.backlogs.put id s.backlog
    tickets }

@[simp] theorem scheme_put (s : Slot) (tickets : Tickets) :
    (w.put id s tickets).scheme = w.scheme := rfl

@[simp] theorem tickets_put (s : Slot) (tickets : Tickets) :
    (w.put id s tickets).tickets = tickets := rfl

/-- **The frame**: only the slot that was put is another one. -/
theorem slot_put (w : Workspace) (id other : DocumentId) (s : Slot) (tickets : Tickets) :
    (w.put id s tickets).slot other = if other = id then s else w.slot other := by
  simp only [slot, put, Table.get?_put]
  split <;> rfl

@[simp] theorem slot_put_self (s : Slot) (tickets : Tickets) :
    (w.put id s tickets).slot id = s := by
  rw [slot_put, if_pos rfl]

/-- What is put last stays. -/
theorem put_put (w : Workspace) (id : DocumentId) (s s' : Slot) (t t' : Tickets) :
    (w.put id s t).put id s' t' = w.put id s' t' := by
  refine ext_slot rfl (fun other => ?_) rfl
  simp only [slot_put]
  split <;> rfl

theorem put_slot (w : Workspace) (id : DocumentId) : w.put id (w.slot id) w.tickets = w := by
  refine ext_slot rfl (fun other => ?_) rfl
  rw [slot_put]
  split
  next heq => rw [heq]
  next => rfl

theorem putBacklog_eq_put (w : Workspace) (id : DocumentId) (b : Backlog) (tickets : Tickets) :
    w.putBacklog id b tickets = w.put id { w.slot id with backlog := some b } tickets := by
  refine ext_slot rfl (fun other => ?_) rfl
  simp only [slot, putBacklog, put, Table.get?_insert, Table.get?_put]
  split
  next heq => rw [heq]
  next => rfl

theorem putDocument_eq_put (w : Workspace) (id : DocumentId) (d : Document) :
    w.putDocument id d = w.put id { w.slot id with document := some d } w.tickets := by
  refine ext_slot rfl (fun other => ?_) rfl
  simp only [slot, putDocument, put, Table.get?_insert, Table.get?_put]
  split
  next heq => rw [heq]
  next => rfl

/-! ### Operations on one document -/

/-- **Emptying a backlog** cancels the ticket of the update that waits. -/
theorem clearBacklog_eq_put (w : Workspace) (id : DocumentId) :
    w.clearBacklog id = w.put id (w.slot id).clear (w.tickets.cancel? (w.ticket? id)) := by
  cases hb : w.backlogs.get? id with
  | none =>
      have hslot : (w.slot id).clear = w.slot id := by simp [Slot.clear, slot, hb]
      have hticket : w.ticket? id = none := by simp [ticket?, hb]
      rw [clearBacklog_of_none hb, hslot, hticket, Tickets.cancel?_none, put_slot]
  | some b =>
      have hslot : (w.slot id).clear =
          { w.slot id with backlog := some (b.clear w.tickets).1 } := by
        simp [Slot.clear, slot, hb, Backlog.clear]
      have hticket : w.ticket? id = b.ticket? := by rw [ticket?, hb, Option.bind_some]
      rw [clearBacklog_of_some hb, putBacklog_eq_put, hslot, hticket, Backlog.clear_snd]

theorem close_eq_put (w : Workspace) (id : DocumentId) :
    w.close id = w.put id {} (w.tickets.cancel? (w.ticket? id)) := by
  rw [close, clearBacklog_eq_put]
  refine ext_slot rfl (fun other => ?_) rfl
  simp only [slot, put, Table.get?_erase, Table.get?_put]
  split <;> rfl

/-- **Opening a document.** Without a text it is closed, which cancels the ticket. -/
theorem openDocument_eq_put (w : Workspace) (texts : Texts) (id : DocumentId) :
    w.openDocument texts id = w.put id ((w.slot id).scan w.scheme (texts id))
      (if (texts id).isSome then w.tickets else w.tickets.cancel? (w.ticket? id)) := by
  cases htext : texts id with
  | none =>
      rw [openDocument_of_none htext, close_eq_put]
      rfl
  | some lines =>
      rw [openDocument_of_some htext, putDocument_eq_put]
      rfl

theorem ticket?_put (w : Workspace) (id other : DocumentId) (s : Slot) (tickets : Tickets) :
    (w.put id s tickets).ticket? other = if other = id then s.ticket? else w.ticket? other := by
  change ((w.put id s tickets).slot other).ticket? = _
  rw [slot_put]
  split <;> rfl

/-- **Scanning a document anew** cancels the ticket, whether there is a text or not. -/
theorem refresh_eq_put (w : Workspace) (texts : Texts) (id : DocumentId) :
    w.refresh texts id = w.put id ((w.slot id).refresh w.scheme (texts id))
      (w.tickets.cancel? (w.ticket? id)) := by
  rw [refresh, clearBacklog_eq_put, openDocument_eq_put, put_put, slot_put_self, scheme_put,
    tickets_put, ticket?_put, if_pos rfl, Slot.ticket?_clear, Tickets.cancel?_none, ite_self]
  rfl

/-- **Showing a document.** If it is not open, no ticket is out for it, and none is cancelled. -/
theorem ensureOpen_eq_put (hticket : (w.slot id).isOpen = false → (w.slot id).ticket? = none)
    (texts : Texts) :
    w.ensureOpen texts id =
      w.put id ((w.slot id).ensureOpen w.scheme (texts id)) w.tickets := by
  cases hopen : (w.slot id).isOpen with
  | true =>
      have hw : w.isOpen id = true := hopen
      rw [Slot.ensureOpen_of_isOpen hopen, put_slot, ensureOpen, if_pos hw]
  | false =>
      have hw : w.isOpen id = false := hopen
      have hnone : w.ticket? id = none := hticket hopen
      rw [Slot.ensureOpen_of_closed hopen, ensureOpen, if_neg (Bool.eq_false_iff.1 hw),
        openDocument_eq_put, hnone, Tickets.cancel?_none, ite_self]

/-- **Carrying out an update** of a document for which no other one is pending. -/
theorem run_eq_put (hticket : w.ticket? id = none) (texts : Texts) (update : Update) :
    w.run texts id update =
      (w.slot id).run (texts id) (w.tickets.isCancelled update.ticket) update.splice >>= fun r =>
        .ok (r.1, w.put id r.2 w.tickets) := by
  cases hcancelled : w.tickets.isCancelled update.ticket with
  | true =>
      cases hb : (w.slot id).backlog with
      | none =>
          have hget : w.backlogs.get? id = none := hb
          simp only [run, Slot.run, hcancelled, if_true, hget, hb, ok_bind, put_slot]
      | some b =>
          have hget : w.backlogs.get? id = some b := hb
          simp only [run, Slot.run, hcancelled, if_true, hget, hb]
          cases b.carry update.splice with
          | error fault => rfl
          | ok b' =>
              simp only [ok_bind, pure_eq_ok, ← putBacklog_eq_put]
              rfl
  | false =>
      cases htext : texts id with
      | none =>
          have hclose : w.close id = w.put id {} w.tickets := by
            rw [close_eq_put, hticket, Tickets.cancel?_none]
          simp only [run, Slot.run, hcancelled, Bool.false_eq_true, if_false, htext, hclose,
            ok_bind]
      | some lines =>
          cases hd : (w.slot id).document with
          | none =>
              have hget : w.documents.get? id = none := hd
              simp only [run, Slot.run, hcancelled, Bool.false_eq_true, if_false, htext, hget, hd,
                ok_bind, put_slot]
          | some d =>
              have hget : w.documents.get? id = some d := hd
              simp only [run, Slot.run, hcancelled, Bool.false_eq_true, if_false, htext, hget, hd]
              cases d.update update.splice lines with
              | error fault => rfl
              | ok result =>
                  simp only [ok_bind, pure_eq_ok, ← putDocument_eq_put]
                  rfl

/-- Carrying out an update after a slot was put. -/
theorem run_put (w : Workspace) (id : DocumentId) {s : Slot} (hticket : s.ticket? = none)
    (tickets : Tickets) (texts : Texts) (update : Update) :
    (w.put id s tickets).run texts id update =
      s.run (texts id) (tickets.isCancelled update.ticket) update.splice >>= fun r =>
        .ok (r.1, w.put id r.2 tickets) := by
  have hnone : (w.put id s tickets).ticket? id = none := by rw [ticket?_put, if_pos rfl, hticket]
  simp only [run_eq_put hnone, slot_put_self, tickets_put, put_put]

/-- A document that is not open has no ticket. -/
theorem Sound.ticket?_of_closed (h : w.Sound) (hclosed : w.isOpen id = false) :
    w.ticket? id = none := by
  cases hb : w.backlogs.get? id with
  | none => rw [ticket?, hb, Option.bind_none]
  | some b => exact absurd (h.isOpen id b hb) (by simp [hclosed])

/-- A change of a document that is not open opens it. -/
theorem Sound.change_of_closed (h : w.Sound) (hclosed : w.isOpen id = false) (texts : Texts)
    (splice : Splice) (now : Nat) :
    w.change texts id splice now =
      .ok (w.put id ((w.slot id).scan w.scheme (texts id)) w.tickets) := by
  simp only [Workspace.change, hclosed, Bool.false_eq_true, if_false]
  rw [openDocument_eq_put, h.ticket?_of_closed hclosed, Tickets.cancel?_none, ite_self]

/-- A change of an open document gets a new ticket, and the old one is cancelled. -/
theorem Sound.change_of_open (h : w.Sound) (hopen : w.isOpen id = true) (texts : Texts)
    (splice : Splice) (now : Nat) :
    w.change texts id splice now =
      (w.slot id).change w.scheme (texts id) splice now w.tickets.next >>= fun s =>
        .ok (w.put id s (w.tickets.cancel? (w.ticket? id)).issue) := by
  obtain ⟨b, hb, hsound, hwaiting⟩ := h.present id
  obtain ⟨-, -, hissued, htickets⟩ := Backlog.clear_spec hsound h.tickets
  have hticket : b.ticket? = w.ticket? id := by
    rw [← hb, ticket?]
    cases w.backlogs.get? id <;> rfl
  rw [Backlog.clear_snd, hticket] at hissued htickets
  have hslot : (w.slot id).isOpen = true := hopen
  have htimer : ((w.slot id).backlog.getD (.ofDelay w.scheme.delay)).timer = b.timer :=
    congrArg Backlog.timer hb
  have hwaits : (w.slot id).waiting? = w.waiting? id := rfl
  simp only [Workspace.change, Slot.change, Slot.schedule, hopen, hslot, if_true, hb, htimer,
    Backlog.schedule_eq hsound, hwaiting, hwaits, Backlog.clear_snd, hticket]
  cases Backlog.compose (w.waiting? id) splice with
  | error fault => rfl
  | ok both =>
      simp only [ok_bind, pure_eq_ok]
      split
      next hdelay =>
        -- the update is taken out again, and then runs under its new ticket
        generalize htaken : (w.tickets.cancel? (w.ticket? id)).issue = tickets
        have hvalid : tickets.isCancelled w.tickets.next = false := by
          rw [← htaken]
          exact htickets.not_isCancelled (Nat.le_of_eq hissued)
        have hdeliver : Slot.deliver (fun _ => true) (texts id) false
            ⟨(w.slot id).document, some ⟨b.timer.start now, some ⟨both, w.tickets.next⟩, none⟩⟩ =
              Slot.run (texts id) false both
                ⟨(w.slot id).document, some ⟨(b.timer.start now).stop, none, none⟩⟩ := rfl
        have hrun := run_put w id (s := ⟨(w.slot id).document,
          some ⟨(b.timer.start now).stop, none, none⟩⟩) rfl tickets texts ⟨both, w.tickets.next⟩
        rw [← putBacklog_eq_put, hvalid] at hrun
        change ((w.putBacklog id ⟨(b.timer.start now).stop, none, none⟩ tickets).run texts id
            ⟨both, w.tickets.next⟩ >>= fun r => .ok r.2) = _
        rw [hrun, hdeliver]
        cases Slot.run (texts id) false both _ <;> rfl
      next hdelay =>
        simp only [ok_bind, ← putBacklog_eq_put]
        rfl

end Workspace

end BracketTint
