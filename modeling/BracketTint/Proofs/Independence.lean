import BracketTint.Proofs.Host

/-!
# Documents Are Independent

A workspace serves many documents, and its tickets are numbered across all of them. Still nothing
that happens to one document can be noticed at another one.

What there is to notice at a document is its `Facet`: its slot without the number of its ticket,
whether that ticket is cancelled, and which of the tickets that the host holds for the document is
that ticket. Numbers do not matter for what a call does to a slot (`Slot.answer_erase`), and each
ticket belongs to one document, so that a request changes the facet of a document by what it finds
there (`Host.Inv.facet_perform`), and not at all unless it concerns the document
(`Facet.Fits.perform_of_about_eq_none`). After a run the facet is made of what concerned the
document (`Host.Inv.facet_performAll`), and of nothing else: that is `Host.documents_independent`.
-/

namespace BracketTint

/-- The backlog without the number of its ticket. -/
def Backlog.erase (b : Backlog) : Backlog :=
  { b with pending := b.pending.map fun update => { update with ticket := ⟨0⟩ } }

namespace Backlog

@[simp] theorem timer_erase (b : Backlog) : b.erase.timer = b.timer := rfl

@[simp] theorem waiting?_erase (b : Backlog) : b.erase.waiting? = b.waiting? := by
  cases hpending : b.pending <;> simp [waiting?, erase, hpending]

theorem ticket?_erase (b : Backlog) : b.erase.ticket? = b.ticket?.map fun _ => ⟨0⟩ := by
  cases hpending : b.pending <;> simp [ticket?, erase, hpending]

theorem carry_erase (b : Backlog) (splice : Splice) :
    b.erase.carry splice = (b.carry splice).map erase := by
  obtain ⟨timer, pending, carried⟩ := b
  cases pending with
  | some update =>
      simp only [carry, erase, Option.map_some]
      cases splice.andThen update.splice <;> rfl
  | none =>
      simp only [carry, erase, Option.map_none]
      cases compose carried splice <;> rfl

end Backlog

namespace Slot

/-- The slot without the number of its ticket. -/
def erase (s : Slot) : Slot := { s with backlog := s.backlog.map Backlog.erase }

@[simp] theorem isOpen_erase (s : Slot) : s.erase.isOpen = s.isOpen := rfl

@[simp] theorem waiting?_erase (s : Slot) : s.erase.waiting? = s.waiting? := by
  cases hb : s.backlog <;> simp [waiting?, erase, hb]

theorem ticket?_erase (s : Slot) : s.erase.ticket? = s.ticket?.map fun _ => ⟨0⟩ := by
  cases hb : s.backlog <;> simp [ticket?, erase, hb, Backlog.ticket?_erase]

theorem scan_erase (s : Slot) (scheme : Scheme) (text : Option (List String)) :
    s.erase.scan scheme text = (s.scan scheme text).erase := by
  cases text <;> rfl

theorem clear_erase (s : Slot) : s.erase.clear = s.clear.erase := by
  cases hb : s.backlog <;> simp [clear, erase, hb, Backlog.erase]

theorem refresh_erase (s : Slot) (scheme : Scheme) (text : Option (List String)) :
    s.erase.refresh scheme text = (s.refresh scheme text).erase := by
  rw [refresh, clear_erase, scan_erase, refresh]

theorem ensureOpen_erase (s : Slot) (scheme : Scheme) (text : Option (List String)) :
    s.erase.ensureOpen scheme text = (s.ensureOpen scheme text).erase := by
  rw [ensureOpen, isOpen_erase, scan_erase, ensureOpen]
  split <;> rfl

theorem reset_erase (s : Slot) (scheme : Scheme) (text : Option (List String)) :
    s.erase.reset scheme text = (s.reset scheme text).erase := by
  rw [reset, isOpen_erase, refresh_erase, reset]
  split <;> rfl

theorem run_erase (s : Slot) (text : Option (List String)) (cancelled : Bool) (splice : Splice) :
    s.erase.run text cancelled splice = (s.run text cancelled splice).map (Prod.map id erase) := by
  obtain ⟨document, backlog⟩ := s
  cases cancelled with
  | true =>
      cases backlog with
      | none => rfl
      | some b =>
          simp only [run, erase, if_true, Option.map_some, Backlog.carry_erase]
          cases b.carry splice <;> rfl
  | false =>
      cases text with
      | none => rfl
      | some lines =>
          cases document with
          | none => rfl
          | some d =>
              simp only [run, erase, Bool.false_eq_true, if_false]
              cases d.update splice lines <;> rfl

theorem deliver_erase (s : Slot) (due : QuietTimer → Bool) (text : Option (List String))
    (cancelled : Bool) :
    s.erase.deliver due text cancelled =
      (s.deliver due text cancelled).map (Prod.map id erase) := by
  have hdue : (s.erase.backlog.any fun b => due b.timer) = s.backlog.any fun b => due b.timer := by
    cases hb : s.backlog <;> simp [erase, hb]
  rw [deliver, deliver, hdue, waiting?_erase, clear_erase]
  split
  next =>
    cases s.waiting? with
    | none => rfl
    | some splice => exact run_erase _ _ _ _
  next => rfl

theorem delivered_erase (s : Slot) (due : QuietTimer → Bool) (text : Option (List String))
    (cancelled : Bool) :
    s.erase.delivered due text cancelled = (s.delivered due text cancelled).map erase := by
  rw [delivered, deliver_erase, delivered]
  cases s.deliver due text cancelled <;> rfl

theorem schedule_erase (s : Slot) (delay : Nat) (splice : Splice) (now : Nat) (next : Ticket) :
    s.erase.schedule delay splice now ⟨0⟩ = (s.schedule delay splice now next).map erase := by
  have htimer : (s.erase.backlog.getD (.ofDelay delay)).timer =
      (s.backlog.getD (.ofDelay delay)).timer := by
    cases hb : s.backlog <;> simp [erase, hb]
  rw [schedule, waiting?_erase, htimer, schedule]
  cases Backlog.compose s.waiting? splice <;> rfl

theorem change_erase (s : Slot) (scheme : Scheme) (text : Option (List String)) (splice : Splice)
    (now : Nat) (next : Ticket) :
    s.erase.change scheme text splice now ⟨0⟩ =
      (s.change scheme text splice now next).map erase := by
  rw [change, isOpen_erase, schedule_erase s _ _ _ next, scan_erase, change]
  split
  next =>
    cases s.schedule scheme.delay splice now next with
    | error fault => rfl
    | ok scheduled =>
        change (if scheme.delay = 0 then
            scheduled.erase.deliver (fun _ => true) text false >>= fun r => .ok r.2
          else .ok scheduled.erase) = Except.map erase (if scheme.delay = 0 then
            scheduled.deliver (fun _ => true) text false >>= fun r => .ok r.2 else .ok scheduled)
        rw [deliver_erase]
        split
        next => cases scheduled.deliver (fun _ => true) text false <;> rfl
        next => rfl
  next => rfl

/-- **The number of a ticket does not matter** for what a call does to a document. -/
theorem answer_erase (s : Slot) (id : DocumentId) (scheme : Scheme) (text : Option (List String))
    (cancelled : Bool) (next : Ticket) (call : Call) :
    s.erase.answer id scheme text cancelled ⟨0⟩ call =
      (s.answer id scheme text cancelled next call).map erase := by
  cases call with
  | event event now =>
      cases event with
      | opened opened =>
          rw [answer, scan_erase, answer]
          split <;> rfl
      | closed closed =>
          rw [answer, answer]
          split <;> rfl
      | changed changed splice =>
          rw [answer, change_erase s _ _ _ _ next, answer]
          split <;> rfl
      | shown ids =>
          rw [answer, ensureOpen_erase, answer]
          split <;> rfl
      | configured scheme' => exact congrArg Except.ok (reset_erase ⟨s.document, none⟩ scheme' text)
  | poll now => exact delivered_erase s _ text cancelled
  | flush => exact delivered_erase s _ text cancelled
  | reset touched =>
      cases touched with
      | none => exact congrArg Except.ok (reset_erase s scheme text)
      | some touched =>
          rw [answer, refresh_erase, answer]
          split <;> rfl

end Slot

/-! ### What concerns a document -/

/-- What of a call concerns a document, if anything does. -/
def Call.about (id : DocumentId) (call : Call) : Option Call :=
  match call with
  | .event (.opened touched) _ | .event (.closed touched) _ | .event (.changed touched _) _
  | .reset (some touched) => if touched = id then some call else none
  | .event (.shown ids) now => if id ∈ ids then some (.event (.shown [id]) now) else none
  | .event (.configured _) _ | .poll _ | .flush | .reset none => some call

/-- What of a request concerns a document, if anything does. -/
def Request.about (id : DocumentId) : Request → Option Request
  | .call made => (made.about id).map .call
  | .hold touched => if touched = id then some (.hold touched) else none
  | .cancel touched index => if touched = id then some (.cancel touched index) else none

/-- What concerns a document in a run, each time with the text of the document. -/
def seen (id : DocumentId) (run : List (Texts × Request)) :
    List (Option (List String) × Request) :=
  run.filterMap fun step => (step.2.about id).map (step.1 id, ·)

/-- A call that does not concern a document leaves it as it is. -/
theorem Call.of_about_eq_none {id : DocumentId} {call : Call} (h : call.about id = none) :
    (∀ scheme, call.schemeAfter scheme = scheme) ∧ ¬ call.Discards id ∧
      ∀ scheme text cancelled next s, Slot.answer id scheme text cancelled next s call = .ok s := by
  cases call with
  | event event now =>
      cases event with
      | opened touched =>
          have hne : touched ≠ id := by simpa [about] using h
          exact ⟨fun _ => rfl, not_false, fun _ _ _ _ _ => by rw [Slot.answer, if_neg hne]⟩
      | closed touched =>
          have hne : touched ≠ id := by simpa [about] using h
          exact ⟨fun _ => rfl, hne, fun _ _ _ _ _ => by rw [Slot.answer, if_neg hne]⟩
      | changed touched splice =>
          have hne : touched ≠ id := by simpa [about] using h
          exact ⟨fun _ => rfl, hne, fun _ _ _ _ _ => by rw [Slot.answer, if_neg hne]⟩
      | shown ids =>
          have hnot : id ∉ ids := by simpa [about] using h
          exact ⟨fun _ => rfl, not_false, fun _ _ _ _ _ => by rw [Slot.answer, if_neg hnot]⟩
      | configured scheme => exact absurd h (by simp [about])
  | poll now => exact absurd h (by simp [about])
  | flush => exact absurd h (by simp [about])
  | reset touched =>
      cases touched with
      | none => exact absurd h (by simp [about])
      | some touched =>
          have hne : touched ≠ id := by simpa [about] using h
          exact ⟨fun _ => rfl, hne, fun _ _ _ _ _ => by rw [Slot.answer, if_neg hne]⟩

/-- A call is what concerns a document, unless it is about other documents too, which are shown. -/
theorem Call.of_about_eq_some {id : DocumentId} {call part : Call} (h : call.about id = some part) :
    part = call ∨ ∃ ids now, id ∈ ids ∧ call = .event (.shown ids) now ∧
      part = .event (.shown [id]) now := by
  have hsame (touched : DocumentId) (h : (if touched = id then some call else none) = some part) :
      part = call := (Option.some.inj (Option.ite_none_right_eq_some.1 h).2).symm
  cases call with
  | event event now =>
      cases event with
      | opened touched => exact .inl (hsame touched h)
      | closed touched => exact .inl (hsame touched h)
      | changed touched splice => exact .inl (hsame touched h)
      | shown ids =>
          obtain ⟨hin, hpart⟩ := Option.ite_none_right_eq_some.1 h
          exact .inr ⟨ids, now, hin, rfl, (Option.some.inj hpart).symm⟩
      | configured scheme => exact .inl (Option.some.inj h).symm
  | poll now => exact .inl (Option.some.inj h).symm
  | flush => exact .inl (Option.some.inj h).symm
  | reset touched =>
      cases touched with
      | none => exact .inl (Option.some.inj h).symm
      | some touched => exact .inl (hsame touched h)

/-- A call that drops an update discards it, or finds that the document has no text. -/
theorem Call.Drops.discards_or {id : DocumentId} {text : Option (List String)} {call : Call}
    (h : call.Drops text id) :
    call.Discards id ∨ text = none ∧ ∃ now, call = .event (.opened id) now := by
  cases call with
  | event event now =>
      cases event with
      | opened touched =>
          obtain ⟨rfl, htext⟩ := h
          exact .inr ⟨htext, now, rfl⟩
      | closed touched => exact .inl h
      | changed touched splice => exact .inl h
      | shown ids => exact absurd h not_false
      | configured scheme => exact absurd h not_false
  | poll now => exact absurd h not_false
  | flush => exact absurd h not_false
  | reset touched =>
      cases touched with
      | none => exact .inl trivial
      | some touched => exact .inl h

/-! ### The facet of a document -/

/-- The facet of a workspace and its host that one document has: what there is of the document,
whether the ticket of the update that waits is cancelled, and which of the tickets that are held
for the document is that ticket. -/
structure Facet where
  scheme : Scheme
  slot : Slot
  revoked : Bool
  held : List Bool

namespace Facet

variable {facet : Facet} {id : DocumentId} {text : Option (List String)} {request part : Request}

/-- What a request does to the facet of a document. -/
def perform (id : DocumentId) (text : Option (List String)) (facet : Facet) :
    Request → Except Fault Facet
  | .call call => do
    let slot ← facet.slot.answer id facet.scheme text facet.revoked ⟨0⟩ call
    -- whether the ticket is still the one of before
    let kept := slot.ticket?.isSome && !decide (call.Discards id)
    return ⟨call.schemeAfter facet.scheme, slot, kept && facet.revoked, facet.held.map (kept && ·)⟩
  | .hold touched =>
    let tickets := facet.slot.ticket?.toList.map fun _ => true
    .ok (if touched = id then { facet with held := facet.held ++ tickets } else facet)
  | .cancel touched index =>
    let current := facet.held[index]?.getD false
    .ok (if touched = id then { facet with revoked := facet.revoked || current } else facet)

/-- What requests, one after another, do to the facet of a document. -/
def performAll (id : DocumentId) :
    List (Option (List String) × Request) → Facet → Except Fault Facet
  | [], facet => .ok facet
  | (text, request) :: rest, facet => do
    let facet ← facet.perform id text request
    performAll id rest facet

/-- Without a ticket, none is cancelled and none of those that are held is the one. -/
structure Fits (facet : Facet) : Prop where
  revoked : facet.slot.ticket? = none → facet.revoked = false
  held : facet.slot.ticket? = none → ∀ current ∈ facet.held, current = false

/-- A request that does not concern the document leaves its facet as it is. -/
theorem Fits.perform_of_about_eq_none (h : facet.Fits) (habout : request.about id = none)
    (text : Option (List String)) : facet.perform id text request = .ok facet := by
  cases request with
  | hold touched =>
      have hne : touched ≠ id := by simpa [Request.about] using habout
      rw [perform, if_neg hne]
  | cancel touched index =>
      have hne : touched ≠ id := by simpa [Request.about] using habout
      rw [perform, if_neg hne]
  | call call =>
      obtain ⟨hscheme, hdiscards, hanswer⟩ :=
        Call.of_about_eq_none (Option.map_eq_none_iff.1 habout)
      obtain ⟨scheme, slot, revoked, held⟩ := facet
      simp only [perform, hanswer, hscheme, hdiscards, ok_bind, pure_eq_ok, decide_false,
        Bool.not_false, Bool.and_true]
      cases hticket : slot.ticket? with
      | some ticket => simp
      | none =>
          obtain rfl : revoked = false := h.revoked hticket
          have hheld : held.map (fun _ => false) = held.map fun current => current :=
            List.map_congr_left fun current hcurrent => (h.held hticket current hcurrent).symm
          simp [hheld]

/-- Only the part of a request that concerns the document matters for its facet. -/
theorem perform_about (habout : request.about id = some part) (facet : Facet)
    (text : Option (List String)) : facet.perform id text part = facet.perform id text request := by
  cases request with
  | hold touched =>
      obtain ⟨-, hpart⟩ := Option.ite_none_right_eq_some.1 habout
      rw [Option.some.inj hpart]
  | cancel touched index =>
      obtain ⟨-, hpart⟩ := Option.ite_none_right_eq_some.1 habout
      rw [Option.some.inj hpart]
  | call call =>
      obtain ⟨made, hmade, rfl⟩ := Option.map_eq_some_iff.1 habout
      rcases Call.of_about_eq_some hmade with rfl | ⟨ids, now, hin, rfl, rfl⟩
      · rfl
      · simp only [perform, Slot.answer, List.mem_singleton, hin, if_true]
        rfl

end Facet

/-- A ticket, perhaps that of the document, is cancelled from outside. -/
theorem Workspace.isRevoked_cancel (w : Workspace) (id : DocumentId) (ticket : Ticket) :
    (w.cancel ticket).isRevoked id = (w.isRevoked id || decide (w.ticket? id = some ticket)) := by
  have hticket : (w.cancel ticket).ticket? id = w.ticket? id := rfl
  have htickets : (w.cancel ticket).tickets = w.tickets.cancel ticket := rfl
  rw [isRevoked, hticket, htickets, isRevoked]
  cases w.ticket? id with
  | none => rfl
  | some current =>
      rw [Option.any_some, Option.any_some, Bool.eq_iff_iff]
      simpa using Tickets.isCancelled_cancel w.tickets ticket current

namespace Host

variable {host host' : Host} {texts : Texts} {request : Request} {call : Call} {scheme : Scheme}
  {id : DocumentId}

/-- The facet that a document has of a host. -/
def facet (host : Host) (id : DocumentId) : Facet where
  scheme := host.workspace.scheme
  slot := (host.workspace.slot id).erase
  revoked := host.workspace.isRevoked id
  held := (host.held id).map fun ticket => decide (host.workspace.ticket? id = some ticket)

theorem facet_fits (host : Host) (id : DocumentId) : (host.facet id).Fits := by
  have hnone (hticket : (host.facet id).slot.ticket? = none) :
      host.workspace.ticket? id = none := by
    rw [facet, Slot.ticket?_erase, Option.map_eq_none_iff] at hticket
    exact hticket
  refine ⟨fun hticket => ?_, fun hticket current hcurrent => ?_⟩
  · rw [facet, Workspace.isRevoked, hnone hticket, Option.any_none]
  · obtain ⟨ticket, -, rfl⟩ := List.mem_map.1 hcurrent
    rw [hnone hticket]
    rfl

/-- A ticket that stays with its document is cancelled afterwards if and only if it was before. -/
theorem Inv.isCancelled_of_kept (h : host.Inv)
    (hanswers : host.workspace.Answers texts call host'.workspace) {ticket : Ticket}
    (hold : host.workspace.ticket? id = some ticket) (hdiscards : ¬ call.Discards id)
    (hticket : host'.workspace.ticket? id = some ticket) :
    host'.workspace.tickets.isCancelled ticket = host.workspace.tickets.isCancelled ticket := by
  rw [Bool.eq_iff_iff, hanswers.isCancelled_iff, or_iff_left]
  rintro ⟨other, hdrops, hother⟩
  obtain rfl := h.owner other id ticket (.inl hother) (.inl hold)
  rcases hdrops.discards_or with hdiscards' | ⟨htext, now, rfl⟩
  · exact hdiscards hdiscards'
  · -- the document was closed, so that it has no ticket
    have hslot := hanswers.slot_eq other
    rw [Slot.answer, if_pos rfl, htext] at hslot
    have hclosed : host'.workspace.slot other = {} := (Except.ok.inj hslot).symm
    have hnone : host'.workspace.ticket? other = none := congrArg Slot.ticket? hclosed
    exact absurd (hnone.symm.trans hticket) (by simp)

/-- **What becomes of the ticket of a document.** If the document has a ticket after a call that did
not discard the one of before, it is still that one; otherwise there is none, or a new one. -/
theorem Inv.kept_cases (h : host.Inv)
    (hanswers : host.workspace.Answers texts call host'.workspace) (id : DocumentId) :
    let kept := (host'.workspace.ticket? id).isSome && !decide (call.Discards id)
    (kept && host.workspace.isRevoked id) = host'.workspace.isRevoked id ∧
      ∀ ticket ∈ host.held id, (kept && decide (host.workspace.ticket? id = some ticket)) =
        decide (host'.workspace.ticket? id = some ticket) := by
  cases hticket : host'.workspace.ticket? id with
  | none => simp [Workspace.isRevoked, hticket]
  | some ticket =>
      rcases hanswers.ticket?_cases h.coherent hticket with
        ⟨hold, hdiscards⟩ | ⟨rfl, -, splice, now, rfl⟩
      · have hcancelled := h.isCancelled_of_kept hanswers hold hdiscards hticket
        simp [Workspace.isRevoked, hticket, hold, hdiscards, hcancelled]
      · obtain ⟨hvalid, hnot⟩ := h.next_valid hanswers
        have hdiscards : (Call.event (.changed id splice) now).Discards id := rfl
        have hne {ticket : Ticket} (hheld : ticket ∈ host.held id) :
            host.workspace.tickets.next ≠ ticket := fun heq => hnot id (heq ▸ hheld)
        simp +contextual [Workspace.isRevoked, hticket, hdiscards, hvalid, hne]

/-- **The step**: a call. What it does to the facet of a document depends on that facet alone. -/
theorem Inv.facet_call (h : host.Inv) (hperform : host.perform texts (.call call) = .ok host')
    (id : DocumentId) :
    (host.facet id).perform id (texts id) (.call call) = .ok (host'.facet id) := by
  obtain ⟨hheld, hanswers⟩ := h.answers hperform
  obtain ⟨hrevoked, hcurrent⟩ := h.kept_cases hanswers id
  have hslot : (host.facet id).slot.answer id (host.facet id).scheme (texts id)
      (host.facet id).revoked ⟨0⟩ call = .ok (host'.workspace.slot id).erase := by
    rw [facet, Slot.answer_erase _ _ _ _ _ host.workspace.tickets.next, hanswers.slot_eq]
    rfl
  have hsome : (host'.workspace.slot id).erase.ticket?.isSome =
      (host'.workspace.ticket? id).isSome := by
    rw [Slot.ticket?_erase, Option.isSome_map]
    rfl
  rw [Facet.perform, hslot, ok_bind, hsome, pure_eq_ok, facet, facet, hrevoked, List.map_map,
    hheld, hanswers.scheme_eq]
  congr 2
  exact List.map_congr_left hcurrent

/-- **The step**: the host asks for a ticket. -/
theorem facet_hold (host : Host) (texts : Texts) (touched id : DocumentId) :
    (host.facet id).perform id (texts id) (.hold touched) =
      .ok (facet ⟨host.workspace, Function.update host.held touched
        (host.held touched ++ (host.workspace.ticket? touched).toList)⟩ id) := by
  rw [Facet.perform]
  split
  next heq =>
    subst heq
    have hslot : (host.workspace.slot touched).ticket? = host.workspace.ticket? touched := rfl
    simp only [facet, Function.update_self, List.map_append, Slot.ticket?_erase, hslot]
    cases host.workspace.ticket? touched <;> simp
  next hne => simp only [facet, Function.update_of_ne (Ne.symm hne)]

/-- **The step**: the host cancels a ticket. If it was held for another document, it is not the
ticket of this one. -/
theorem Inv.facet_cancel (h : host.Inv) {touched : DocumentId} {index : Nat}
    (hperform : host.perform texts (.cancel touched index) = .ok host') (id : DocumentId) :
    (host.facet id).perform id (texts id) (.cancel touched index) = .ok (host'.facet id) := by
  rw [Facet.perform]
  rcases perform_cancel_cases hperform with ⟨hnone, rfl⟩ | ⟨ticket, hticket, rfl⟩
  · split
    next heq => simp [facet, ← heq, hnone]
    next => rfl
  · have hrevoked := host.workspace.isRevoked_cancel id ticket
    split
    next heq =>
      subst heq
      simp only [facet, List.getElem?_map, hticket, Option.map_some, Option.getD_some, ← hrevoked]
      rfl
    next hne =>
      have hother : host.workspace.ticket? id ≠ some ticket := fun hid =>
        hne (h.owner touched id ticket (.inr (List.mem_of_getElem? hticket)) (.inl hid))
      rw [decide_eq_false hother, Bool.or_false] at hrevoked
      simp only [facet, ← hrevoked]
      rfl

/-- **The step**: any request. -/
theorem Inv.facet_perform (h : host.Inv) (hperform : host.perform texts request = .ok host')
    (id : DocumentId) :
    (host.facet id).perform id (texts id) request = .ok (host'.facet id) := by
  cases request with
  | call call => exact h.facet_call hperform id
  | hold touched =>
      obtain rfl := Except.ok.inj hperform
      exact facet_hold host texts touched id
  | cancel touched index => exact h.facet_cancel hperform id

/-- **The run.** The facet of a document after a run is made of what concerns the document. -/
theorem Inv.facet_performAll (h : host.Inv) {run : List (Texts × Request)}
    (hrun : host.performAll run = .ok host') (id : DocumentId) :
    (host.facet id).performAll id (seen id run) = .ok (host'.facet id) := by
  induction run generalizing host with
  | nil =>
      obtain rfl := Except.ok.inj hrun
      rfl
  | cons step rest ih =>
      obtain ⟨texts, request⟩ := step
      obtain ⟨middle, hperform, hrest⟩ := bind_eq_ok_iff.1 hrun
      have hfacet := h.facet_perform hperform id
      have hlater := ih (h.perform hperform) hrest
      cases habout : request.about id with
      | none =>
          rw [(facet_fits host id).perform_of_about_eq_none habout] at hfacet
          have hseen : seen id ((texts, request) :: rest) = seen id rest := by simp [seen, habout]
          rw [hseen, Except.ok.inj hfacet, hlater]
      | some part =>
          rw [← Facet.perform_about habout] at hfacet
          have hseen : seen id ((texts, request) :: rest) = (texts id, part) :: seen id rest := by
            simp [seen, habout]
          rw [hseen, Facet.performAll, hfacet, ok_bind, hlater]

/-- Whether the ticket of a document exists and is cancelled is told by the facet. -/
theorem map_isCancelled_eq (host : Host) (id : DocumentId) :
    (host.workspace.ticket? id).map host.workspace.tickets.isCancelled =
      (host.facet id).slot.ticket?.map fun _ => (host.facet id).revoked := by
  have hslot : (host.workspace.slot id).ticket? = host.workspace.ticket? id := rfl
  rw [facet, Slot.ticket?_erase, hslot, Workspace.isRevoked]
  cases host.workspace.ticket? id <;> rfl

theorem isWaiting_eq (host : Host) (id : DocumentId) :
    host.workspace.isWaiting id = (host.facet id).slot.waiting?.isSome := by
  rw [facet, Slot.waiting?_erase]
  exact Workspace.isWaiting_eq_isSome host.workspace id

/-- **Documents are independent.** Take two runs from one scheme in which the same concerns a
document: the same calls with the same text of the document, and the same cancelled tickets. What
concerns other documents may be any, and so may their texts. Then there is no telling the two apart
by the document.

In particular it does not matter in which order the documents are gone through, in any workspace
that can be reached. -/
theorem documents_independent {run run' : List (Texts × Request)}
    (hrun : (start scheme).performAll run = .ok host)
    (hrun' : (start scheme).performAll run' = .ok host') (id : DocumentId)
    (hseen : seen id run = seen id run') :
    host.workspace.documents.get? id = host'.workspace.documents.get? id ∧
    host.workspace.colorMap id = host'.workspace.colorMap id ∧
    (∀ line, host.workspace.lineColorMap id line = host'.workspace.lineColorMap id line) ∧
    host.workspace.isWaiting id = host'.workspace.isWaiting id ∧
    (host.workspace.ticket? id).map host.workspace.tickets.isCancelled =
      (host'.workspace.ticket? id).map host'.workspace.tickets.isCancelled ∧
    host.workspace.Unordered := by
  have hfacet : host.facet id = host'.facet id := by
    have hleft := (inv_start scheme).facet_performAll hrun id
    have hright := (inv_start scheme).facet_performAll hrun' id
    rw [hseen, hright] at hleft
    exact (Except.ok.inj hleft).symm
  have hdocument : host.workspace.documents.get? id = host'.workspace.documents.get? id :=
    congrArg (·.slot.document) hfacet
  obtain ⟨hinv, -⟩ := (inv_start scheme).performAll hrun
  refine ⟨hdocument, ?_, fun line => ?_, ?_, ?_, hinv.coherent.sound.unordered⟩
  · rw [Workspace.colorMap, hdocument, Workspace.colorMap]
  · rw [Workspace.lineColorMap, hdocument, Workspace.lineColorMap]
  · rw [isWaiting_eq, hfacet, isWaiting_eq]
  · rw [map_isCancelled_eq, hfacet, map_isCancelled_eq]

/-- The texts of an editor that has two documents. -/
def pair (a b : List String) : Texts := fun id =>
  if id = "a" then some a else if id = "b" then some b else none

/-- A change of one document waits, and its ticket is cancelled. In one run that is all; in the
other one there is a second document, with a change and a cancelled ticket of its own, so that the
tickets have other numbers. -/
theorem documents_independent_pair :
    ∃ scheme run run' host host', (start scheme).performAll run = .ok host ∧
      (start scheme).performAll run' = .ok host' ∧ seen "a" run = seen "a" run' ∧
      host.workspace.isOpen "b" = true ∧ host'.workspace.isOpen "b" = false ∧
      host.workspace.ticket? "a" = some ⟨1⟩ ∧ host'.workspace.ticket? "a" = some ⟨0⟩ ∧
      host.workspace.documents.get? "a" = host'.workspace.documents.get? "a" ∧
      (host.workspace.ticket? "a").map host.workspace.tickets.isCancelled =
        (host'.workspace.ticket? "a").map host'.workspace.tickets.isCancelled ∧
      host.workspace.Unordered := by
  generalize hscheme : (⟨[⟨'(', ')', ["a", "b"], "c"⟩], .consecutive, false, true, 100⟩ : Scheme) =
    scheme
  have hrun : ∃ host, (start scheme).performAll
      [(pair [""] [")"], .call (.event (.shown ["b", "a"]) 0)),
        (pair [""] ["(", ")"], .call (.event (.changed "b" ⟨0, 0, 1⟩) 0)),
        (pair ["("] ["(", ")"], .call (.event (.changed "a" ⟨0, 1, 1⟩) 0)),
        (pair ["("] ["(", ")"], .hold "b"), (pair ["("] ["(", ")"], .hold "a"),
        (pair ["("] ["(", ")"], .cancel "b" 0),
        (pair ["("] ["(", ")"], .cancel "a" 0)] = .ok host ∧
      host.workspace.isOpen "b" = true ∧ host.workspace.ticket? "a" = some ⟨1⟩ := by
    subst hscheme
    exact ⟨_, rfl, rfl, rfl⟩
  have hrun' : ∃ host, (start scheme).performAll
      [(Texts.single "a" [""], .call (.event (.shown ["a"]) 0)),
        (Texts.single "a" ["("], .call (.event (.changed "a" ⟨0, 1, 1⟩) 0)),
        (Texts.single "a" ["("], .hold "a"),
        (Texts.single "a" ["("], .cancel "a" 0)] = .ok host ∧
      host.workspace.isOpen "b" = false ∧ host.workspace.ticket? "a" = some ⟨0⟩ := by
    subst hscheme
    exact ⟨_, rfl, rfl, rfl⟩
  obtain ⟨host, hrun, hopen, hticket⟩ := hrun
  obtain ⟨host', hrun', hclosed, hticket'⟩ := hrun'
  obtain ⟨hdocument, -, -, -, hcancelled, hunordered⟩ := documents_independent hrun hrun' "a" rfl
  exact ⟨scheme, _, _, host, host', hrun, hrun', rfl, hopen, hclosed, hticket, hticket', hdocument,
    hcancelled, hunordered⟩

end Host

end BracketTint
