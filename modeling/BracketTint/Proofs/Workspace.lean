import BracketTint.Proofs.Backlog
import BracketTint.Proofs.Table
import BracketTint.Workspace.Events

/-!
# Sound Workspaces

What holds of a workspace by itself, whatever the texts are (`Workspace.Sound`): only open documents
have a backlog, each backlog is sound, and only issued tickets are cancelled. That is all that is
needed to say what the operations of a workspace do.

Updates are carried out in two phases: they are taken out of all backlogs first, and only then run.
The first phase goes through the backlogs one after another (`Workspace.Collects`). At each document
it finds what was there at the start, and tickets that may have been issued since.
-/

namespace BracketTint

/-- The texts of an editor that has one document. -/
def Texts.single (id : DocumentId) (lines : List String) : Texts := fun other =>
  if other = id then some lines else none

namespace Workspace

variable {w w' : Workspace} {texts : Texts} {id : DocumentId}

/-- No text has more lines than half of all words. -/
def Bounded (texts : Texts) : Prop := ∀ id lines, texts id = some lines → lines.length < Word.half

theorem bounded_single (id : DocumentId) (lines : List String) (hlines : lines.length < Word.half) :
    Bounded (.single id lines) := by
  intro other lines' htext
  rw [Texts.single] at htext
  split at htext
  · exact Option.some.inj htext ▸ hlines
  · exact absurd htext (by simp)

/-! ### What waits -/

/-- The splice that waits in the backlog of a document. -/
def waiting? (w : Workspace) (id : DocumentId) : Option Splice :=
  (w.backlogs.get? id).bind Backlog.waiting?

theorem isWaiting_eq_isSome (w : Workspace) (id : DocumentId) :
    w.isWaiting id = (w.waiting? id).isSome := by
  cases h : w.backlogs.get? id <;> simp [isWaiting, waiting?, h, Backlog.isWaiting_eq_isSome]

theorem isWaiting_eq_false_iff : w.isWaiting id = false ↔ w.waiting? id = none := by
  rw [isWaiting_eq_isSome, Option.isSome_eq_false_iff, Option.isNone_iff_eq_none]

/-- What holds of a workspace by itself, whatever the texts are. -/
structure Sound (w : Workspace) : Prop where
  tickets : w.tickets.WellFormed
  isOpen : ∀ id b, w.backlogs.get? id = some b → w.isOpen id = true
  backlog : ∀ id b, w.backlogs.get? id = some b → b.Sound w.tickets.issued

/-- The backlog to which a change is added: the one that is there, or a new one. -/
theorem Sound.present (h : w.Sound) (id : DocumentId) :
    ∃ b, (w.backlogs.get? id).getD (.ofDelay w.scheme.delay) = b ∧ b.Sound w.tickets.issued ∧
      b.waiting? = w.waiting? id := by
  cases hb : w.backlogs.get? id with
  | none => exact ⟨_, rfl, Backlog.sound_of_pending rfl _, by simp [waiting?, hb]; rfl⟩
  | some b => exact ⟨b, rfl, h.backlog id b hb, by simp [waiting?, hb]⟩

/-! ### The two ways to touch a document -/

/-- The workspace with another backlog for a document, and other tickets. -/
def putBacklog (w : Workspace) (id : DocumentId) (b : Backlog) (tickets : Tickets) : Workspace :=
  { w with backlogs := w.backlogs.insert id b, tickets }

/-- The workspace with another scan of a document. -/
def putDocument (w : Workspace) (id : DocumentId) (d : Document) : Workspace :=
  { w with documents := w.documents.insert id d }

theorem get?_putBacklog (w : Workspace) (id other : DocumentId) (b : Backlog) (tickets : Tickets) :
    (w.putBacklog id b tickets).backlogs.get? other =
      if other = id then some b else w.backlogs.get? other := by
  rw [putBacklog, Table.get?_insert]

/-- A sound backlog of an open document. -/
theorem Sound.putBacklog (h : w.Sound) {b : Backlog} {tickets : Tickets}
    (hopen : w.isOpen id = true) (hb : b.Sound tickets.issued) (htickets : tickets.WellFormed)
    (hissued : w.tickets.issued ≤ tickets.issued) : (w.putBacklog id b tickets).Sound := by
  refine ⟨htickets, fun other b' hb' => ?_, fun other b' hb' => ?_⟩ <;>
    rw [get?_putBacklog] at hb' <;> split at hb'
  next heq => exact heq ▸ hopen
  next => exact h.isOpen other b' hb'
  next => exact Option.some.inj hb' ▸ hb
  next => exact (h.backlog other b' hb').of_le hissued

theorem clearBacklog_of_none (hb : w.backlogs.get? id = none) : w.clearBacklog id = w := by
  simp only [clearBacklog, hb]

theorem clearBacklog_of_some {b : Backlog} (hb : w.backlogs.get? id = some b) :
    w.clearBacklog id = w.putBacklog id (b.clear w.tickets).1 (b.clear w.tickets).2 := by
  simp only [clearBacklog, hb]
  rfl

theorem openDocument_of_none (htext : texts id = none) :
    w.openDocument texts id = w.close id := by
  simp only [openDocument, htext]

theorem openDocument_of_some {lines : List String} (htext : texts id = some lines) :
    w.openDocument texts id = w.putDocument id (.parse w.scheme lines) := by
  simp only [openDocument, htext]
  rfl

/-! ### Taking updates out -/

/-- **What collecting does.** Schemes, documents and cancelled tickets stay. At each of the
documents the backlog is asked once, with tickets issued since then, and what it gives is among the
updates; all other backlogs stay. -/
structure Collects (take : Backlog → Tickets → Taken) (ids : List DocumentId) (w : Workspace)
    (updates : List (DocumentId × Update)) (w' : Workspace) : Prop where
  scheme_eq : w'.scheme = w.scheme
  documents_eq : w'.documents = w.documents
  cancelled_eq : w'.tickets.cancelled = w.tickets.cancelled
  ids_sublist : (updates.map Prod.fst).Sublist ids
  others : ∀ other, other ∉ ids → w'.backlogs.get? other = w.backlogs.get? other
  taken : ∀ id ∈ ids, ∀ b, w.backlogs.get? id = some b → ∃ t, w.tickets.issued ≤ t.issued ∧
    w'.backlogs.get? id = some (take b t).backlog ∧
      ∀ update, (id, update) ∈ updates ↔ (take b t).update = some update

/-- A document without a backlog is passed over. -/
theorem Collects.skip {take : Backlog → Tickets → Taken} {rest : List DocumentId}
    {updates : List (DocumentId × Update)} (hb : w.backlogs.get? id = none)
    (h : Collects take rest w updates w') : Collects take (id :: rest) w updates w' := by
  refine { h with
    ids_sublist := h.ids_sublist.cons id
    others := fun other hother => h.others other (List.not_mem_of_not_mem_cons hother)
    taken := fun other hother b hb' => ?_ }
  rcases List.mem_cons.1 hother with rfl | hother
  · exact absurd (hb.symm.trans hb') (by simp)
  · exact h.taken other hother b hb'

/-- The backlog of one document is asked, and then those of the others. -/
theorem Collects.cons {take : Backlog → Tickets → Taken} {rest : List DocumentId}
    {updates : List (DocumentId × Update)} {b : Backlog} {taken : Taken} (hid : id ∉ rest)
    (hb : w.backlogs.get? id = some b) (htaken : take b w.tickets = taken)
    (htakes : b.Takes w.tickets taken)
    (h : Collects take rest (w.putBacklog id taken.backlog taken.tickets) updates w') :
    Collects take (id :: rest) w (taken.update.toList.map (id, ·) ++ updates) w' := by
  have hkept {other : DocumentId} (hne : other ≠ id) :
      (w.putBacklog id taken.backlog taken.tickets).backlogs.get? other =
        w.backlogs.get? other := by
    rw [get?_putBacklog, if_neg hne]
  refine ⟨h.scheme_eq, h.documents_eq, h.cancelled_eq.trans htakes.cancelled_eq, ?_,
    fun other hother => ?_, fun other hother b' hb' => ?_⟩
  · cases taken.update with
    | none => exact h.ids_sublist.cons id
    | some update => exact h.ids_sublist.cons_cons id
  · obtain ⟨hne, hother⟩ := List.ne_and_not_mem_of_not_mem_cons hother
    exact (h.others other hother).trans (hkept hne)
  · rcases List.mem_cons.1 hother with rfl | hother
    · obtain rfl : b = b' := Option.some.inj (hb.symm.trans hb')
      refine ⟨w.tickets, Nat.le_refl _, ?_, fun update => ?_⟩
      · rw [h.others other hid, get?_putBacklog, if_pos rfl, htaken]
      · have hnot : (other, update) ∉ updates := fun hmem =>
          hid (h.ids_sublist.subset (List.mem_map_of_mem hmem))
        simp [hnot, htaken]
    · have hne : other ≠ id := fun heq => hid (heq ▸ hother)
      obtain ⟨t, ht, hget, hmem⟩ := h.taken other hother b' ((hkept hne).trans hb')
      refine ⟨t, Nat.le_trans htakes.issued_le ht, hget, fun update => ?_⟩
      rw [← hmem update, List.mem_append, or_iff_right]
      simp [Ne.symm hne]

/-- Collecting from a sound workspace, for any way of taking updates out. -/
theorem Sound.collect {take : Backlog → Tickets → Taken}
    (htake : ∀ (b : Backlog) (t : Tickets), b.Sound t.issued → b.Takes t (take b t)) (h : w.Sound)
    {ids : List DocumentId} (hids : ids.Nodup) :
    ∃ updates w', collect take ids w = (updates, w') ∧ Collects take ids w updates w' := by
  induction ids generalizing w with
  | nil => exact ⟨[], w, rfl, rfl, rfl, rfl, List.Sublist.refl _, fun _ _ => rfl, by simp⟩
  | cons id rest ih =>
      obtain ⟨hid, hrest⟩ := List.nodup_cons.1 hids
      cases hb : w.backlogs.get? id with
      | none =>
          obtain ⟨updates, w', heq, hlater⟩ := ih h hrest
          refine ⟨updates, w', ?_, hlater.skip hb⟩
          simp only [Workspace.collect, hb, heq]
      | some b =>
          have htakes := htake b w.tickets (h.backlog id b hb)
          generalize htaken : take b w.tickets = taken at htakes
          obtain ⟨updates, w', heq, hlater⟩ := ih (h.putBacklog (h.isOpen id b hb) htakes.sound
            (h.tickets.of_le htakes.cancelled_eq htakes.issued_le) htakes.issued_le) hrest
          refine ⟨_, w', ?_, hlater.cons hid hb htaken htakes⟩
          rw [Workspace.putBacklog] at heq
          simp only [Workspace.collect, hb, htaken, heq]

end Workspace

end BracketTint
