import BracketTint.Proofs.Coherence

/-!
# Hosts

A workspace is called by a host. The host may also ask for the ticket of the update that waits for a
document, keep it, and cancel it at any time; the tickets are all that the two share. Nothing else
is expected of a host: texts may appear, change and go away between two requests, splices may be
wrong, and tickets may be kept for as long as one likes.

Each ticket that the host can know of was issued once, for one document (`Host.Inv`).

## Main results

* `Host.performAll_coherent` — whatever a host does, what the workspace has of each document fits
  together and fits the scheme of the moment;
* `Host.discarded_isCancelled_iff` — when a call discards an update, its ticket is cancelled, but
  for one exception: a new scheme discards all updates and cancels none of their tickets. Whoever
  holds such a ticket never learns that the update is gone.
-/

namespace BracketTint

/-- What a host does. -/
inductive Request where
  | call (call : Call)
  /-- The host asks for the ticket of the update that waits for a document, and keeps it. -/
  | hold (id : DocumentId)
  /-- The host cancels one of the tickets that it keeps for a document. -/
  | cancel (id : DocumentId) (index : Nat)

/-- The scheme after a request. -/
def Request.schemeAfter (scheme : Scheme) : Request → Scheme
  | .call made => made.schemeAfter scheme
  | _ => scheme

/-- A workspace and the tickets that its host keeps, for each document from the oldest on. -/
structure Host where
  workspace : Workspace
  held : DocumentId → List Ticket

namespace Host

variable {host host' : Host} {texts : Texts} {request : Request} {call : Call} {scheme : Scheme}
  {id : DocumentId} {ticket : Ticket}

/-- A host that has done nothing yet. -/
def start (scheme : Scheme) : Host := ⟨{ scheme }, fun _ => []⟩

/-- Does something, while the editor has these texts. -/
def perform (host : Host) (texts : Texts) : Request → Except Fault Host
  | .call call => do
    let workspace ← host.workspace.answer texts call
    return { host with workspace }
  | .hold id =>
    let tickets := host.held id ++ (host.workspace.ticket? id).toList
    .ok { host with held := Function.update host.held id tickets }
  | .cancel id index =>
    match (host.held id)[index]? with
    | some ticket => .ok { host with workspace := host.workspace.cancel ticket }
    | none => .ok host

/-- Does one thing after another, each with the texts that the editor has at the time. -/
def performAll (host : Host) : List (Texts × Request) → Except Fault Host
  | [] => .ok host
  | (texts, request) :: rest => do
    let host ← host.perform texts request
    host.performAll rest

/-- A ticket is out for a document: it is that of the update that waits, or it is held. -/
def Knows (host : Host) (id : DocumentId) (ticket : Ticket) : Prop :=
  host.workspace.ticket? id = some ticket ∨ ticket ∈ host.held id

/-- The workspace is coherent, and each ticket that is out was issued, for one document only. -/
structure Inv (host : Host) : Prop where
  coherent : host.workspace.Coherent
  known_lt : ∀ id ticket, host.Knows id ticket → ticket.number < host.workspace.tickets.issued
  owner : ∀ id other ticket, host.Knows id ticket → host.Knows other ticket → id = other

theorem inv_start (scheme : Scheme) : (start scheme).Inv := by
  have hnot (id : DocumentId) (ticket : Ticket) : ¬ (start scheme).Knows id ticket := by
    rintro (hticket | hticket)
    · exact nomatch hticket
    · exact nomatch hticket
  exact ⟨Workspace.coherent_start scheme, fun id ticket hknows => absurd hknows (hnot id ticket),
    fun id _ ticket hknows => absurd hknows (hnot id ticket)⟩

/-! ### One request -/

/-- A call of a host is a call on its workspace. -/
theorem Inv.answers (h : host.Inv) (hperform : host.perform texts (.call call) = .ok host') :
    host'.held = host.held ∧ host.workspace.Answers texts call host'.workspace := by
  obtain ⟨workspace, hanswer, hhost⟩ := bind_eq_ok_iff.1 hperform
  obtain rfl := Except.ok.inj hhost
  exact ⟨rfl, h.coherent.sound.answers hanswer⟩

/-- After a call a ticket is out that was out before, or the one that was issued for a change. -/
theorem Inv.knows_of_call (h : host.Inv) (hperform : host.perform texts (.call call) = .ok host')
    (hknows : host'.Knows id ticket) :
    host.Knows id ticket ∨ ticket = host.workspace.tickets.next ∧
      host.workspace.tickets.issued < host'.workspace.tickets.issued ∧
        ∃ splice now, call = .event (.changed id splice) now := by
  obtain ⟨hheld, hanswers⟩ := h.answers hperform
  rcases hknows with hticket | hticket
  · rcases hanswers.ticket?_cases h.coherent hticket with ⟨hold, -⟩ | hnew
    · exact .inl (.inl hold)
    · exact .inr hnew
  · rw [hheld] at hticket
    exact .inl (.inr hticket)

/-- The ticket that is issued for a change is not cancelled, and nobody holds it. -/
theorem Inv.next_valid (h : host.Inv)
    (hanswers : host.workspace.Answers texts call host'.workspace) :
    host'.workspace.tickets.isCancelled host.workspace.tickets.next = false ∧
      ∀ id, host.workspace.tickets.next ∉ host.held id := by
  have hnot (id : DocumentId) : ¬ host.Knows id host.workspace.tickets.next := fun hknows =>
    absurd (h.known_lt id _ hknows) (Nat.lt_irrefl _)
  refine ⟨?_, fun id hheld => hnot id (.inr hheld)⟩
  rw [Bool.eq_false_iff, ne_eq, hanswers.isCancelled_iff]
  rintro (hcancelled | ⟨id, -, hticket⟩)
  · have hvalid : host.workspace.tickets.isCancelled host.workspace.tickets.next = false :=
      h.coherent.tickets.not_isCancelled (Nat.le_refl _)
    exact absurd (hvalid.symm.trans hcancelled) (by simp)
  · exact hnot id (.inl hticket)

/-- **The step**: a call. -/
theorem Inv.of_call (h : host.Inv) (hperform : host.perform texts (.call call) = .ok host') :
    host'.Inv := by
  obtain ⟨-, hanswers⟩ := h.answers hperform
  have hnext {id : DocumentId} {ticket : Ticket} (hknows : host.Knows id ticket) :
      ticket ≠ host.workspace.tickets.next := fun heq =>
    absurd (h.known_lt id ticket hknows) (heq ▸ Nat.lt_irrefl _)
  refine ⟨h.coherent.of_answers hanswers, fun id ticket hknows => ?_,
    fun id other ticket hknows hknows' => ?_⟩
  · rcases h.knows_of_call hperform hknows with hold | ⟨rfl, hlt, -⟩
    · exact Nat.lt_of_lt_of_le (h.known_lt id ticket hold) hanswers.issued_le
    · exact hlt
  · rcases h.knows_of_call hperform hknows with hold | ⟨heq, -, splice, now, hcall⟩ <;>
      rcases h.knows_of_call hperform hknows' with hold' | ⟨heq', -, splice', now', hcall'⟩
    · exact h.owner id other ticket hold hold'
    · exact absurd heq' (hnext hold)
    · exact absurd heq (hnext hold')
    · injection hcall.symm.trans hcall' with hevent
      injection hevent

/-- Holding a ticket makes no other one known. -/
theorem knows_of_hold (hperform : host.perform texts (.hold id) = .ok host')
    {other : DocumentId} (hknows : host'.Knows other ticket) : host.Knows other ticket := by
  obtain rfl := Except.ok.inj hperform
  rcases hknows with hticket | hticket
  · exact .inl hticket
  · by_cases hne : other = id
    · subst hne
      dsimp only at hticket
      rw [Function.update_self] at hticket
      rcases List.mem_append.1 hticket with hticket | hticket
      · exact .inr hticket
      · exact .inl (Option.mem_toList.1 hticket)
    · dsimp only at hticket
      rw [Function.update_of_ne hne] at hticket
      exact .inr hticket

/-- A host can cancel only what it holds. -/
theorem perform_cancel_cases {index : Nat}
    (hperform : host.perform texts (.cancel id index) = .ok host') :
    (host.held id)[index]? = none ∧ host' = host ∨
      ∃ ticket, (host.held id)[index]? = some ticket ∧
        host' = { host with workspace := host.workspace.cancel ticket } := by
  rw [perform] at hperform
  split at hperform
  next ticket hticket => exact .inr ⟨ticket, hticket, (Except.ok.inj hperform).symm⟩
  next hnone => exact .inl ⟨hnone, (Except.ok.inj hperform).symm⟩

/-- **The step**: any request that does not fault. -/
theorem Inv.perform (h : host.Inv) (hperform : host.perform texts request = .ok host') :
    host'.Inv := by
  cases request with
  | call call => exact h.of_call hperform
  | hold id =>
      have hknows {other : DocumentId} {ticket : Ticket} (hknows : host'.Knows other ticket) :=
        knows_of_hold hperform hknows
      obtain rfl := Except.ok.inj hperform
      exact ⟨h.coherent, fun other ticket hout => h.known_lt other ticket (hknows hout),
        fun other other' ticket hout hout' =>
          h.owner other other' ticket (hknows hout) (hknows hout')⟩
  | cancel id index =>
      rcases perform_cancel_cases hperform with ⟨-, rfl⟩ | ⟨ticket, hticket, rfl⟩
      · exact h
      · have hissued := h.known_lt id ticket (.inr (List.mem_of_getElem? hticket))
        exact ⟨h.coherent.cancel hissued, h.known_lt, h.owner⟩

/-- The scheme is the one that was configured last. -/
theorem scheme_perform (h : host.Inv) (hperform : host.perform texts request = .ok host') :
    host'.workspace.scheme = request.schemeAfter host.workspace.scheme := by
  cases request with
  | call call =>
      obtain ⟨-, hanswers⟩ := h.answers hperform
      exact hanswers.scheme_eq
  | hold id =>
      obtain rfl := Except.ok.inj hperform
      rfl
  | cancel id index => rcases perform_cancel_cases hperform with ⟨-, rfl⟩ | ⟨-, -, rfl⟩ <;> rfl

/-! ### Whole runs -/

/-- **The run.** The invariant holds throughout, and the scheme is the one configured last. -/
theorem Inv.performAll (h : host.Inv) {run : List (Texts × Request)}
    (hrun : host.performAll run = .ok host') :
    host'.Inv ∧ host'.workspace.scheme =
      run.foldl (fun scheme step => step.2.schemeAfter scheme) host.workspace.scheme := by
  induction run generalizing host with
  | nil =>
      obtain rfl := Except.ok.inj hrun
      exact ⟨h, rfl⟩
  | cons step rest ih =>
      obtain ⟨texts, request⟩ := step
      obtain ⟨middle, hperform, hrest⟩ := bind_eq_ok_iff.1 hrun
      obtain ⟨hinv, hscheme⟩ := ih (h.perform hperform) hrest
      rw [scheme_perform h hperform] at hscheme
      exact ⟨hinv, hscheme⟩

/-- **A workspace stays coherent.** After all that a host can do without a fault

* a document that has a backlog is open, and so is one for which anything waits;
* each open document was scanned under the present scheme, which is the one configured last;
* each backlog has the delay of the scheme, its timer runs exactly while an update is pending, and
  it never holds a pending and a carried splice at once;
* if the scheme has no delay, nothing is pending and nothing is carried. -/
theorem performAll_coherent {run : List (Texts × Request)}
    (hrun : (start scheme).performAll run = .ok host) :
    (∀ id, host.workspace.backlogs.contains id = true → host.workspace.isOpen id = true) ∧
    (∀ id, host.workspace.isWaiting id = true → host.workspace.isOpen id = true) ∧
    host.workspace.scheme = run.foldl (fun scheme step => step.2.schemeAfter scheme) scheme ∧
    (∀ id d, host.workspace.documents.get? id = some d → d.scheme = host.workspace.scheme) ∧
    (∀ id b, host.workspace.backlogs.get? id = some b →
      b.timer.delay = host.workspace.scheme.delay ∧
      b.timer.since.isSome = b.pending.isSome ∧ (b.pending = none ∨ b.carried = none)) ∧
    (host.workspace.scheme.delay = 0 → ∀ id b, host.workspace.backlogs.get? id = some b →
      b.pending = none ∧ b.carried = none) := by
  obtain ⟨hinv, hscheme⟩ := (inv_start scheme).performAll hrun
  have hneat (id : DocumentId) := hinv.coherent.neat id
  refine ⟨fun id hcontains => ?_, fun id hwaiting => ?_, hscheme,
    fun id d hd => (hneat id).scheme_eq d hd, fun id b hb => ?_, fun hzero id b hb => ?_⟩
  · obtain ⟨b, hb⟩ := Option.isSome_iff_exists.1 hcontains
    exact (hneat id).isOpen b hb
  · cases hb : host.workspace.backlogs.get? id with
    | none => simp [Workspace.isWaiting, hb] at hwaiting
    | some b => exact (hneat id).isOpen b hb
  · obtain ⟨⟨hdelay, hsince⟩, hsingle, -⟩ := (hneat id).backlog b hb
    exact ⟨hdelay, hsince, hsingle⟩
  · have hidle := ((hneat id).backlog b hb).idle hzero
    have hpending := Backlog.pending_of_waiting? hidle
    rw [Backlog.waiting?, hpending] at hidle
    exact ⟨hpending, hidle⟩

/-- A line goes into an open document, the host cancels the ticket of the change, and a flush gives
the splice back: it waits as a carried one, for a document that is open. -/
theorem performAll_coherent_carried :
    ∃ scheme run host, (start scheme).performAll run = .ok host ∧
      host.workspace.isWaiting "a" = true ∧ host.workspace.ticket? "a" = none ∧
      host.workspace.isOpen "a" = true ∧
      ∀ b, host.workspace.backlogs.get? "a" = some b →
        b.timer.delay = host.workspace.scheme.delay ∧
          b.timer.since.isSome = b.pending.isSome ∧ (b.pending = none ∨ b.carried = none) := by
  have hrun : ∃ host,
      (start ⟨[⟨'(', ')', ["a", "b"], "c"⟩], .consecutive, false, true, 100⟩).performAll
        [(Texts.single "a" ["(", ")"], .call (.event (.opened "a") 0)),
          (Texts.single "a" ["(", "(", ")"], .call (.event (.changed "a" ⟨1, 1, 1⟩) 5)),
          (Texts.single "a" ["(", "(", ")"], .hold "a"),
          (Texts.single "a" ["(", "(", ")"], .cancel "a" 0),
          (Texts.single "a" ["(", "(", ")"], .call .flush)] = .ok host ∧
      host.workspace.isWaiting "a" = true ∧ host.workspace.ticket? "a" = none :=
    ⟨_, rfl, rfl, rfl⟩
  obtain ⟨host, hrun, hwaiting, hticket⟩ := hrun
  obtain ⟨-, hopen, -, -, hbacklog, -⟩ := performAll_coherent hrun
  exact ⟨_, _, host, hrun, hwaiting, hticket, hopen "a" hwaiting, hbacklog "a"⟩

/-- **A discarded update is cancelled, unless there is a new scheme.** A host holds the ticket of an
update that still waits, and makes a call that discards the update. Then another ticket waits for
the document, or none; and the ticket is cancelled exactly if it was so before or the call is not
one for a new scheme. -/
theorem discarded_isCancelled_iff {run : List (Texts × Request)}
    (hrun : (start scheme).performAll run = .ok host) (hheld : ticket ∈ host.held id)
    (hpending : host.workspace.ticket? id = some ticket) (hdiscards : call.Discards id)
    (hperform : host.perform texts (.call call) = .ok host') :
    ticket ∈ host'.held id ∧ host'.workspace.ticket? id ≠ some ticket ∧
      (host'.workspace.tickets.isCancelled ticket = true ↔
        host.workspace.tickets.isCancelled ticket = true ∨ ¬ call.Configures) := by
  obtain ⟨hinv, -⟩ := (inv_start scheme).performAll hrun
  obtain ⟨hheld', hanswers⟩ := hinv.answers hperform
  refine ⟨hheld' ▸ hheld, fun hticket => ?_, ?_⟩
  · rcases hanswers.ticket?_cases hinv.coherent hticket with ⟨-, hkept⟩ | ⟨rfl, -⟩
    · exact hkept hdiscards
    · exact absurd (hinv.known_lt id _ (.inr hheld)) (Nat.lt_irrefl _)
  · rw [hanswers.isCancelled_iff]
    refine or_congr_right ⟨?_, fun hconfigures =>
      ⟨id, (hdiscards.drops_iff _).2 hconfigures, hpending⟩⟩
    rintro ⟨other, hdrops, hother⟩
    -- the ticket was issued for one document, so that is the one whose update is dropped
    obtain rfl := hinv.owner other id ticket (.inl hother) (.inr hheld)
    exact (hdiscards.drops_iff _).1 hdrops

/-- The host holds the ticket of a change that waits. Closing the document cancels the ticket, and a
new scheme does not, even though it is the same as before. -/
theorem discarded_isCancelled_iff_configured :
    ∃ scheme run texts host configured closed, (start scheme).performAll run = .ok host ∧
      (⟨0⟩ : Ticket) ∈ host.held "a" ∧ host.workspace.ticket? "a" = some ⟨0⟩ ∧
      host.perform texts (.call (.event (.configured scheme) 0)) = .ok configured ∧
        configured.workspace.tickets.isCancelled ⟨0⟩ = false ∧
      host.perform texts (.call (.event (.closed "a") 0)) = .ok closed ∧
        closed.workspace.tickets.isCancelled ⟨0⟩ = true := by
  generalize hscheme : (⟨[⟨'(', ')', ["a", "b"], "c"⟩], .consecutive, false, true, 100⟩ : Scheme) =
    scheme
  have hrun : ∃ host, (start scheme).performAll
      [(Texts.single "a" [""], .call (.event (.opened "a") 0)),
        (Texts.single "a" ["("], .call (.event (.changed "a" ⟨0, 1, 1⟩) 0)),
        (Texts.single "a" ["("], .hold "a")] = .ok host ∧
      (⟨0⟩ : Ticket) ∈ host.held "a" ∧ host.workspace.ticket? "a" = some ⟨0⟩ ∧
      host.workspace.tickets.isCancelled ⟨0⟩ = false := by
    subst hscheme
    exact ⟨_, rfl, List.mem_cons_self, rfl, rfl⟩
  obtain ⟨host, hrun, hheld, hpending, hvalid⟩ := hrun
  have hdiscards : (Call.event (.configured scheme) 0).Discards "a" := trivial
  have hdiscards' : (Call.event (.closed "a") 0).Discards "a" := rfl
  have hconfigured : host.perform (Texts.single "a" ["("])
      (.call (.event (.configured scheme) 0)) = .ok _ := rfl
  have hclosed : host.perform (Texts.single "a" ["("]) (.call (.event (.closed "a") 0)) =
      .ok _ := rfl
  obtain ⟨-, -, hiff⟩ := discarded_isCancelled_iff hrun hheld hpending hdiscards hconfigured
  obtain ⟨-, -, hiff'⟩ := discarded_isCancelled_iff hrun hheld hpending hdiscards' hclosed
  refine ⟨scheme, _, _, host, _, _, hrun, hheld, hpending, hconfigured, ?_, hclosed,
    hiff'.2 (.inr not_false)⟩
  rw [Bool.eq_false_iff, ne_eq, hiff, hvalid]
  rintro (hcancelled | hconfigures)
  · exact nomatch hcancelled
  · exact hconfigures trivial

end Host

end BracketTint
