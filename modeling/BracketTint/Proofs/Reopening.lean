import BracketTint.Proofs.Integrity

/-!
# Opening a Document Once More

A document that is open can be opened once more. Its text is then scanned anew, but what waits for
the document stays: a stale splice, which knows nothing of the new text. Changes that are told
later are joined to it, and what a flush applies in the end is the joined splice. Is opening a
document a reset all the same, so that truthful changes after it and a flush lead to the scan of
the last text (`Host.Resets`)?

* If nothing waits, it is.
* If a splice waits, it depends on that splice alone (`Host.reopening_resets_iff`). The end of
  the joined splice is counted back by the number of lines that the stale one grew the old text
  by. A growth of one line does no harm, since at least one line below a splice is always scanned
  (`Document.update_of_describes`). A greater growth loses changes: the joined splice ends above
  them, the scan settles on a line that has not changed, and the changed lines below keep their
  old rows (`Document.update_of_take_eq`).

The invariant behind it is `Slot.Reopened`: the document is the scan of a text `base`, the
changes `since` then describe how `base` became the present text, and what waits is these changes
joined to the stale splice. Joining is associative, so that one more change can be joined to what
waits or to the changes since.
-/

namespace BracketTint

namespace Splice

/-- A splice joined to one before it, which may be missing. -/
def onto (s : Splice) (earlier : Option Splice) : Splice :=
  match earlier with
  | none => s
  | some e => e.joined s

/-- There is room to join splices of texts with fewer than `room` lines to a stale splice. -/
def Room (stale : Option Splice) (room : Nat) : Prop :=
  room ≤ Word.half ∧
    ∀ s, stale = some s → s.start ≤ s.stop ∧ s.start + s.stop + s.count + room ≤ Word.half

variable {s splice change : Splice} {stale since : Option Splice} {room : Nat}
  {base lines lines' : List String}

/-- A splice that describes a change is no larger than the two texts. -/
theorem Describes.bounds (h : change.Describes base lines) :
    change.start ≤ change.stop ∧ change.stop ≤ base.length ∧
      change.start + change.count ≤ lines.length := by
  obtain ⟨⟨hstart, hstop, hlength⟩, -⟩ := describes_iff.1 h
  exact ⟨hstart, hstop, by omega⟩

/-- A joined splice is no larger than its parts together. -/
theorem joined_bounds (s : Splice) (h : change.start ≤ change.stop) :
    (s.joined change).stop ≤ s.stop + change.stop ∧
      (s.joined change).start + (s.joined change).count ≤
        s.start + s.count + (change.start + change.count) := by
  rw [reach_joined s h, stop_joined]
  omega

/-- The changes since then and one more describe the whole change. -/
theorem Describes.onto (hbridges : Bridges since base lines)
    (hsplice : splice.Describes lines lines') : (splice.onto since).Describes base lines' := by
  cases since with
  | none =>
      obtain rfl : base = lines := hbridges
      exact hsplice
  | some change => exact Describes.joined hbridges hsplice

/-- **One more change.** It is joined to what waits without a fault, and that is as good as joining
it to the changes since then, and these to the stale splice. -/
theorem compose_onto (hroom : Room stale room) (hbridges : Bridges since base lines)
    (hsplice : splice.Describes lines lines') (hbase : base.length < room)
    (hlines : lines.length < room) (hlines' : lines'.length < room) :
    Backlog.compose ((since.map (·.onto stale)).or stale) splice =
      .ok ((splice.onto since).onto stale) := by
  obtain ⟨hhalf, hstale⟩ := hroom
  obtain ⟨hle, hstop, -⟩ := hsplice.bounds
  obtain ⟨hwhole, hwholeStop, hwholeReach⟩ := (Describes.onto hbridges hsplice).bounds
  cases since with
  | none =>
      cases stale with
      | none => rfl
      | some s =>
          obtain ⟨hs, hsum⟩ := hstale s rfl
          obtain ⟨hjoinedStop, hjoinedReach⟩ := joined_bounds s hwhole
          simp only [Splice.onto] at hjoinedStop hjoinedReach hwholeStop hwholeReach
          exact andThen_eq_joined hs hle (by omega) (by omega) (by omega) (by omega) (by omega)
  | some change =>
      obtain ⟨hchange, hchangeStop, hchangeReach⟩ := Describes.bounds hbridges
      cases stale with
      | none =>
          simp only [Splice.onto] at hwholeStop hwholeReach
          have hjoined := andThen_eq_joined hchange hle (by omega) (by omega) (by omega)
            (by omega) (by omega)
          exact hjoined
      | some s =>
          obtain ⟨hs, hsum⟩ := hstale s rfl
          obtain ⟨hwaitingStop, hwaitingReach⟩ := joined_bounds s hchange
          obtain ⟨hjoinedStop, hjoinedReach⟩ := joined_bounds s hwhole
          simp only [Splice.onto] at hjoinedStop hjoinedReach hwholeStop hwholeReach
          have hassoc := joined_assoc s hchange hle
          rw [← hassoc] at hjoinedStop hjoinedReach
          have hjoined := andThen_eq_joined (joined_start_le change hs) hle (by omega) (by omega)
            (by omega) (by omega) (by omega)
          rw [hassoc] at hjoined
          exact hjoined

/-- If a stale splice grew its text by one line at most, a splice joined to it starts no later and
stops at most one line earlier. -/
theorem onto_covers (change : Splice)
    (hgrowth : ∀ s, stale = some s → s.start + s.count ≤ s.stop + 1) :
    (change.onto stale).start ≤ change.start ∧ change.stop ≤ (change.onto stale).stop + 1 := by
  cases stale with
  | none => exact ⟨Nat.le_refl _, Nat.le_succ _⟩
  | some s =>
      have hs := hgrowth s rfl
      rw [onto, start_joined, stop_joined]
      omega

/-- **A change goes under** in a splice that is thought to have brought in the changed lines, if the
number of lines stays: the joined splice is the one before. -/
theorem joined_eq_self (hle : change.start ≤ change.stop) (hstart : s.start ≤ change.start)
    (hstop : change.stop ≤ s.start + s.count) (hcount : change.start + change.count = change.stop) :
    s.joined change = s := by
  refine eq_of_reach ?_ ?_ ?_
  · rw [start_joined, Nat.min_eq_left hstart]
  · rw [stop_joined, Nat.max_eq_left hstop, Nat.sub_self, Nat.zero_add]
  · rw [reach_joined s hle, Nat.max_eq_left hstop, hcount, Nat.sub_add_cancel hstop]

/-- A splice that stops before it starts can be joined to nothing. -/
theorem andThen_of_lt (h : s.stop < s.start) (next : Splice) :
    ∃ fault, s.andThen next = .error fault := by
  have hgrowth : s.growth = .error .subOverflow := by
    rw [growth, removed, Word.sub, if_neg (Nat.not_le.2 h)]
    rfl
  cases hreach : Word.add s.start s.count with
  | error fault => exact ⟨fault, by rw [andThen, hreach]; rfl⟩
  | ok reach => exact ⟨_, by rw [andThen, hreach, ok_bind, hgrowth]; rfl⟩

end Splice

namespace Document

/-! ### A change that goes unnoticed -/

/-- Some blank lines, and one more line. -/
def blankThen (n : Nat) (text : String) : List String := List.replicate n "" ++ [text]

@[simp] theorem length_blankThen (n : Nat) (text : String) :
    (blankThen n text).length = n + 1 := by
  rw [blankThen, List.length_append, List.length_replicate, List.length_singleton]

theorem take_blankThen (n : Nat) (text : String) :
    (blankThen n text).take n = List.replicate n "" :=
  List.take_left' List.length_replicate

/-- A splice of the last line. -/
theorem describes_blankThen (n : Nat) (text text' : String) :
    Splice.Describes ⟨n, n + 1, 1⟩ (blankThen n text) (blankThen n text') := by
  have hall := Nat.le_of_eq (length_blankThen n text)
  refine ⟨Nat.le_succ _, Nat.le_of_eq (length_blankThen n text).symm, [text'], rfl, ?_⟩
  rw [take_blankThen, List.drop_eq_nil_of_le hall, List.append_nil, blankThen]

/-- Blank lines at the top of a text leave nothing behind. -/
theorem contextFrom_blank (s : Scheme) (line n : Nat) :
    contextFrom {} (scanLines s line {} (List.replicate n "")) = {} := by
  induction n generalizing line with
  | zero => rfl
  | succ n ih =>
      rw [List.replicate_succ, scanLines, contextFrom_cons]
      exact ih (line + 1)

/-- A comment that starts on the last line makes a difference, under any scheme. -/
theorem parse_comment_ne (s : Scheme) (n : Nat) :
    parse s (blankThen n "") ≠ parse s (blankThen n "/*") := by
  intro heq
  have hlast (text : String) : contextFrom {} (scanLines s 0 {} (blankThen n text)) =
      (Row.scan s (0 + n) {} text).exit := by
    rw [blankThen, scanLines_append, contextFrom_append, contextFrom_blank,
      List.length_replicate]
    rfl
  have hregion : (Region.code.view "".toList).region.afterLine ≠
      (Region.code.view "/*".toList).region.afterLine := by decide
  have hcontext := congrArg (fun d => contextFrom {} d.rows) heq
  simp only [rows_parse, hlast] at hcontext
  exact hregion (congrArg Context.region hcontext)

/-- A change two lines below a splice goes unnoticed, since the scan settles on the line between. -/
theorem update_blankThen (s : Scheme) {splice : Splice} (hle : splice.start ≤ splice.stop)
    (hstop : splice.stop + 2 < Word.half) (text text' : String) :
    ∃ effort, (parse s (blankThen (splice.stop + 1) text)).update splice
        (blankThen (splice.stop + 1) text') =
      .ok (parse s (blankThen (splice.stop + 1) text), effort) := by
  have hfit : splice.fit? (blankThen (splice.stop + 1) text).length
      (blankThen (splice.stop + 1) text').length =
        some ⟨splice.start, splice.stop, splice.stop - splice.start⟩ := by
    rw [length_blankThen, length_blankThen, Splice.fit?_eq_some_iff]
    exact ⟨by dsimp only; omega, by dsimp only; omega, hle, by dsimp only; omega,
      by dsimp only; omega⟩
  refine update_of_take_eq s ?_ ?_ hfit ?_ ?_ ?_
  · rwa [length_blankThen]
  · rwa [length_blankThen]
  · rw [length_blankThen, length_blankThen]
  · rw [length_blankThen]
    exact Nat.lt_add_of_pos_right Nat.two_pos
  · rw [take_blankThen, take_blankThen]

end Document

namespace Slot

variable {s s' : Slot} {id : DocumentId} {scheme : Scheme} {cancelled : Bool} {next : Ticket}
  {stale since : Option Splice} {room now : Nat} {base lines lines' : List String}
  {splice : Splice}

/-! ### One document -/

/-- A document was opened while `stale` waited for it. It is the scan of the text `base`, which has
become `lines` by the changes `since` then, and these wait, joined to the stale splice. -/
structure Reopened (s : Slot) (scheme : Scheme) (stale : Option Splice) (room : Nat)
    (since : Option Splice) (base lines : List String) : Prop where
  document : s.document = some (.parse scheme base)
  waiting : s.waiting? = (since.map (·.onto stale)).or stale
  bridges : Bridges since base lines
  base_lt : base.length < room
  lines_lt : lines.length < room

theorem Reopened.isOpen (h : s.Reopened scheme stale room since base lines) : s.isOpen = true := by
  rw [Slot.isOpen, h.document, Option.isSome_some]

/-- Opening a document, whatever waits for it. -/
theorem reopened_scan (s : Slot) (scheme : Scheme) (hlines : lines.length < room) :
    (s.scan scheme (some lines)).Reopened scheme s.waiting? room none lines lines :=
  ⟨rfl, rfl, rfl, hlines, hlines⟩

/-- One more change joins what waits without a fault. -/
theorem Reopened.compose (h : s.Reopened scheme stale room since base lines)
    (hroom : Splice.Room stale room) (hsplice : splice.Describes lines lines')
    (hlines' : lines'.length < room) :
    Backlog.compose s.waiting? splice = .ok ((splice.onto since).onto stale) := by
  rw [h.waiting, Splice.compose_onto hroom h.bridges hsplice h.base_lt h.lines_lt hlines']

/-- **One more change** that is told truthfully. With a delay it is joined to what waits. Without
one nothing can have waited, and the change is applied at once. -/
theorem Reopened.change (h : s.Reopened scheme stale room since base lines)
    (hneat : s.Neat scheme) (hroom : Splice.Room stale room)
    (hsplice : splice.Describes lines lines') (hlines' : lines'.length < room)
    (hanswer : s.answer id scheme (some lines') cancelled next (.event (.changed id splice) now) =
      .ok s') :
    scheme.delay ≠ 0 ∧ s'.ticket? = some next ∧
        s'.Reopened scheme stale room (some (splice.onto since)) base lines' ∨
      scheme.delay = 0 ∧ s'.Reopened scheme stale room none lines' lines' := by
  have hcompose := h.compose hroom hsplice hlines'
  have hdescribes := Splice.Describes.onto h.bridges hsplice
  cases becomes_of_answer hanswer with
  | kept hscheme hdiscards => exact absurd (h.isOpen.symm.trans (hdiscards rfl)) (by simp)
  | found hclosed => exact absurd (h.isOpen.symm.trans hclosed) (by simp)
  | waits now hopen hboth hdelay =>
      obtain rfl := Except.ok.inj (hboth.symm.trans hcompose)
      exact .inl ⟨hdelay, rfl, h.document, rfl, hdescribes, h.base_lt, hlines'⟩
  | changed now hopen hboth hdelay hrun =>
      refine .inr ⟨hdelay, ?_⟩
      obtain rfl := Except.ok.inj (hboth.symm.trans hcompose)
      -- the splice that is applied is the change itself
      have hidle : s.waiting? = none := Option.eq_none_iff_forall_ne_some.2 fun _ hwaiting =>
        hneat.delay_ne_zero hwaiting hdelay
      rw [h.waiting, Option.or_eq_none_iff, Option.map_eq_none_iff] at hidle
      obtain ⟨rfl, rfl⟩ := hidle
      obtain ⟨effort, hupdate⟩ := Document.update_of_faithful scheme
        (Nat.lt_of_lt_of_le h.base_lt hroom.1) (Nat.lt_of_lt_of_le hlines' hroom.1)
        (Revision.faithful_of_describes hdescribes)
      obtain ⟨-, rfl⟩ := Prod.mk.inj (Except.ok.inj (hrun.symm.trans
        (run_of_update (s := ⟨s.document, _⟩) h.document hupdate)))
      exact ⟨rfl, rfl, rfl, hlines', hlines'⟩

/-- What waits leads to the scan of the present text, if the stale splice grew its text by one line
at most. -/
theorem Reopened.update (h : s.Reopened scheme stale room since base lines)
    (hroom : room ≤ Word.half) (hgrowth : ∀ s, stale = some s → s.start + s.count ≤ s.stop + 1)
    (hsplice : s.waiting? = some splice) :
    ∃ effort, (Document.parse scheme base).update splice lines =
      .ok (.parse scheme lines, effort) := by
  have hbase := Nat.lt_of_lt_of_le h.base_lt hroom
  have hlines := Nat.lt_of_lt_of_le h.lines_lt hroom
  have hwaiting := h.waiting
  have hbridges := h.bridges
  cases since with
  | none =>
      -- no change was told, and the stale splice finds the text as it was scanned
      obtain rfl : base = lines := hbridges
      exact Document.update_of_faithful scheme (r := ⟨splice, base⟩) hbase hlines
        (.inr ⟨List.take_prefix _ _, List.drop_suffix _ _⟩)
  | some change =>
      obtain rfl : change.onto stale = splice :=
        Option.some.inj (hwaiting.symm.trans hsplice)
      obtain ⟨hstart, hstop⟩ := Splice.onto_covers change hgrowth
      exact Document.update_of_describes scheme hbase hlines hbridges hstart hstop

/-- **What a flush makes of an open document** that has a text. It stays if nothing waits or the
ticket is cancelled, and otherwise what waits is applied to it. -/
theorem document_of_flush {d : Document} (hd : s.document = some d)
    (hflush : s.delivered (fun _ => true) (some lines) cancelled = .ok s') :
    s'.document = some d ∧ (s.waiting? = none ∨ cancelled = true) ∨
      ∃ splice d' effort, s.waiting? = some splice ∧ d.update splice lines = .ok (d', effort) ∧
        s'.document = some d' := by
  rcases flush_cases hflush with ⟨hidle, rfl⟩ | ⟨splice, applied, hwaiting, hrun⟩
  · exact .inl ⟨hd, .inl hidle⟩
  · rcases run_cases (waiting?_clear s) hrun with ⟨hnone | hnone, -⟩ | ⟨hcancelled, b, -, -, rfl⟩ |
      ⟨hnone, -⟩ | ⟨_, _, d', effort, -, ⟨rfl⟩, hd', hupdate, rfl⟩
    · exact absurd hnone (backlog_clear_ne_none hwaiting)
    · exact absurd (hd.symm.trans hnone) (by simp)
    · exact .inl ⟨hd, .inr hcancelled⟩
    · exact nomatch hnone
    · obtain rfl := Option.some.inj (hd.symm.trans hd')
      exact .inr ⟨splice, d', effort, hwaiting, hupdate, rfl⟩

/-- **A flush after all changes** leads to the scan of the present text, if the stale splice grew
its text by one line at most and no ticket of a change was cancelled. -/
theorem Reopened.flush (h : s.Reopened scheme stale room since base lines)
    (hroom : room ≤ Word.half) (hgrowth : ∀ s, stale = some s → s.start + s.count ≤ s.stop + 1)
    (hvalid : since ≠ none → cancelled = false)
    (hflush : s.delivered (fun _ => true) (some lines) cancelled = .ok s') :
    s'.document = some (.parse scheme lines) := by
  rcases document_of_flush h.document hflush with
    ⟨hdocument, hkept⟩ | ⟨splice, d', effort, hwaiting, hupdate, hdocument⟩
  · -- no change was told, and the document is that scan already
    have hsince : since = none := by
      rcases hkept with hidle | hcancelled
      · rw [h.waiting, Option.or_eq_none_iff, Option.map_eq_none_iff] at hidle
        exact hidle.1
      · refine Classical.byContradiction fun hsome => ?_
        exact absurd (hcancelled.symm.trans (hvalid hsome)) (by simp)
    have hbridges := h.bridges
    rw [hsince] at hbridges
    obtain rfl : base = lines := hbridges
    exact hdocument
  · obtain ⟨effort', hupdate'⟩ := h.update hroom hgrowth hwaiting
    obtain ⟨rfl, -⟩ := Prod.mk.inj (Except.ok.inj (hupdate.symm.trans hupdate'))
    exact hdocument

/-- **A change that is lost.** If the stale splice grew its text by two lines or more, it is thought
to have brought in the second line below it. After a change of that line what waits is still the
stale splice, and a flush does not notice the change. -/
theorem Reopened.lost {text text' : String}
    (h : s.Reopened scheme (some splice) room (some ⟨splice.stop + 1, splice.stop + 2, 1⟩)
      (Document.blankThen (splice.stop + 1) text) (Document.blankThen (splice.stop + 1) text'))
    (hroom : Splice.Room (some splice) room)
    (hgrowth : splice.stop + 2 ≤ splice.start + splice.count)
    (hflush : s.delivered (fun _ => true) (some (Document.blankThen (splice.stop + 1) text'))
      cancelled = .ok s') :
    s'.document = some (.parse scheme (Document.blankThen (splice.stop + 1) text)) := by
  have hle := (hroom.2 splice rfl).1
  have hlines := h.lines_lt
  rw [Document.length_blankThen] at hlines
  have hunder : splice.joined ⟨splice.stop + 1, splice.stop + 2, 1⟩ = splice :=
    Splice.joined_eq_self (Nat.le_succ _) (Nat.le_succ_of_le hle) hgrowth rfl
  have hwaiting : s.waiting? = some splice := h.waiting.trans (congrArg some hunder)
  obtain ⟨effort, hupdate⟩ := Document.update_blankThen scheme hle
    (Nat.lt_of_lt_of_le hlines hroom.1) text text'
  -- with the ticket cancelled the document would stay as well
  rcases document_of_flush h.document hflush with
    ⟨hdocument, -⟩ | ⟨splice', d', effort', hwaiting', hupdate', hdocument⟩
  · exact hdocument
  · obtain rfl := Option.some.inj (hwaiting.symm.trans hwaiting')
    obtain ⟨rfl, -⟩ := Prod.mk.inj (Except.ok.inj (hupdate'.symm.trans hupdate))
    exact hdocument

end Slot

namespace Host

variable {host host' : Host} {texts : Texts} {id : DocumentId} {stale since : Option Splice}
  {room : Nat} {base lines lines' : List String} {splice : Splice}

/-! ### One request -/

/-- A document was opened while `stale` waited for it, and then changed (`Slot.Reopened`). Nobody
has cancelled the ticket under which the changes wait. -/
structure Reopened (host : Host) (id : DocumentId) (stale : Option Splice) (room : Nat)
    (since : Option Splice) (base lines : List String) : Prop where
  steady : host.Steady
  slot : (host.workspace.slot id).Reopened host.workspace.scheme stale room since base lines
  valid : since ≠ none → host.workspace.isRevoked id = false

/-- **Opening a document**, whatever waits for it. -/
theorem Steady.opened (h : host.Steady) (htexts : Workspace.Bounded texts)
    (htext : texts id = some lines) (hlines : lines.length < room) (now : Nat) :
    ∃ host', host.perform texts (.call (.event (.opened id) now)) = .ok host' ∧
      host'.workspace.scheme = host.workspace.scheme ∧
      host'.Reopened id (host.workspace.waiting? id) room none lines lines := by
  obtain ⟨host', hperform⟩ : ∃ host',
      host.perform texts (.call (.event (.opened id) now)) = .ok host' := ⟨_, rfl⟩
  obtain ⟨-, hanswers⟩ := h.toInv.answers hperform
  have hslot := hanswers.slot_eq id
  rw [Slot.answer, if_pos rfl, htext, Except.ok.injEq] at hslot
  refine ⟨host', hperform, hanswers.scheme_eq, h.perform htexts hperform, ?_,
    fun hnone => absurd rfl hnone⟩
  rw [← hslot, hanswers.scheme_eq]
  exact Slot.reopened_scan _ _ hlines

/-- **The step**: one more change that is told truthfully. -/
theorem Reopened.changed (h : host.Reopened id stale room since base lines)
    (hroom : Splice.Room stale room) (hsplice : splice.Describes lines lines')
    (hlines' : lines'.length < room) (htexts : Workspace.Bounded texts)
    (htext : texts id = some lines') (now : Nat) :
    ∃ host', host.perform texts (.call (.event (.changed id splice) now)) = .ok host' ∧
      host'.workspace.scheme = host.workspace.scheme ∧
      (host.workspace.scheme.delay ≠ 0 ∧
          host'.Reopened id stale room (some (splice.onto since)) base lines' ∨
        host.workspace.scheme.delay = 0 ∧ host'.Reopened id stale room none lines' lines') := by
  cases hperform : host.perform texts (.call (.event (.changed id splice) now)) with
  | error fault =>
      obtain ⟨_, _, _, ⟨rfl⟩, hfault⟩ := (h.steady.perform_eq_error_iff htexts).1 hperform
      exact absurd ((h.slot.compose hroom hsplice hlines').symm.trans hfault) (by simp)
  | ok host' =>
      obtain ⟨-, hanswers⟩ := h.steady.toInv.answers hperform
      have hsteady := h.steady.perform htexts hperform
      have hscheme : host'.workspace.scheme = host.workspace.scheme := hanswers.scheme_eq
      have hslot := hanswers.slot_eq id
      rw [htext] at hslot
      refine ⟨host', rfl, hscheme, ?_⟩
      rcases h.slot.change (h.steady.coherent.neat id) hroom hsplice hlines' hslot with
        ⟨hdelay, hticket, hreopened⟩ | ⟨hdelay, hreopened⟩
      · refine .inl ⟨hdelay, hsteady, hscheme ▸ hreopened, fun _ => ?_⟩
        have hnext : host'.workspace.ticket? id = some host.workspace.tickets.next := hticket
        rw [Workspace.isRevoked, hnext, Option.any_some]
        exact (h.steady.toInv.next_valid hanswers).1
      · exact .inr ⟨hdelay, hsteady, hscheme ▸ hreopened, fun hnone => absurd rfl hnone⟩

/-- A flush does not fault, and each document is flushed by itself. -/
theorem Steady.flushed (h : host.Steady) (htexts : Workspace.Bounded texts) (id : DocumentId) :
    ∃ host', host.perform texts (.call .flush) = .ok host' ∧
      (host.workspace.slot id).delivered (fun _ => true) (texts id) (host.workspace.isRevoked id) =
        .ok (host'.workspace.slot id) := by
  cases hperform : host.perform texts (.call .flush) with
  | error fault =>
      obtain ⟨_, _, _, hrequest, -⟩ := (h.perform_eq_error_iff htexts).1 hperform
      exact nomatch hrequest
  | ok host' =>
      obtain ⟨-, hanswers⟩ := h.toInv.answers hperform
      exact ⟨host', rfl, hanswers.slot_eq id⟩

/-! ### Resets -/

/-- Changes of a document that are told truthfully, one after another, and lead from one text to
another. All texts of the document have fewer than `room` lines. -/
inductive Told (id : DocumentId) (room : Nat) :
    List String → List (Texts × Request) → List String → Prop where
  | nil {lines : List String} : Told id room lines [] lines
  | cons {lines lines' last : List String} {texts : Texts} {splice : Splice} {now : Nat}
      {rest : List (Texts × Request)} (hbounded : Workspace.Bounded texts)
      (htext : texts id = some lines') (hlines' : lines'.length < room)
      (hsplice : splice.Describes lines lines') (hrest : Told id room lines' rest last) :
      Told id room lines ((texts, .call (.event (.changed id splice) now)) :: rest) last

/-- **Opening a document is a reset.** Whatever its text is then, truthful changes of it and a
flush do not fault and make the document the scan of the last text. -/
def Resets (host : Host) (id : DocumentId) (room : Nat) : Prop :=
  ∀ (before after : Texts) (now : Nat) (lines last : List String)
    (changes : List (Texts × Request)),
    Workspace.Bounded before → before id = some lines → lines.length < room →
    Told id room lines changes last → Workspace.Bounded after → after id = some last →
    ∃ host', host.performAll ((before, .call (.event (.opened id) now)) :: changes ++
        [(after, .call .flush)]) = .ok host' ∧
      host'.workspace.documents.get? id = some (.parse host.workspace.scheme last)

/-- **The run**: any number of changes that are told truthfully, and then more. -/
theorem Reopened.performAll {last : List String} {changes : List (Texts × Request)}
    (htold : Told id room lines changes last) (hroom : Splice.Room stale room)
    (h : host.Reopened id stale room since base lines) (rest : List (Texts × Request)) :
    ∃ (host' : Host) (since' : Option Splice) (base' : List String),
      host.performAll (changes ++ rest) = host'.performAll rest ∧
      host'.workspace.scheme = host.workspace.scheme ∧
      host'.Reopened id stale room since' base' last := by
  induction htold generalizing host since base with
  | nil => exact ⟨host, since, base, rfl, rfl, h⟩
  | @cons lines lines' last texts splice now changes hbounded htext hlines' hsplice _ ih =>
      obtain ⟨middle, hperform, hscheme, hreopened⟩ :=
        h.changed hroom hsplice hlines' hbounded htext now
      obtain ⟨since₁, base₁, hreopened₁⟩ : ∃ since₁ base₁,
          middle.Reopened id stale room since₁ base₁ lines' := by
        rcases hreopened with ⟨-, hlater⟩ | ⟨-, hnow⟩
        · exact ⟨_, _, hlater⟩
        · exact ⟨_, _, hnow⟩
      obtain ⟨host', since', base', hrest, hscheme', hreopened'⟩ := ih hreopened₁
      refine ⟨host', since', base', ?_, hscheme'.trans hscheme, hreopened'⟩
      rw [List.cons_append, Host.performAll, hperform, ok_bind, hrest]

/-- Opening a document is a reset if what waits for it grew its text by one line at most. -/
theorem Steady.resets (h : host.Steady) (hroom : Splice.Room (host.workspace.waiting? id) room)
    (hgrowth : ∀ splice, host.workspace.waiting? id = some splice →
      splice.start + splice.count ≤ splice.stop + 1) : host.Resets id room := by
  intro before after now lines last changes hbefore htext hlines htold hafter hlast
  obtain ⟨opened, hopened, hscheme, hreopened⟩ := h.opened hbefore htext hlines now
  obtain ⟨changed, since, base, hchanged, hscheme', hreopened'⟩ :=
    hreopened.performAll htold hroom [(after, .call .flush)]
  obtain ⟨host', hflush, hslot⟩ := hreopened'.steady.flushed hafter id
  rw [hlast] at hslot
  refine ⟨host', ?_, ?_⟩
  · rw [List.cons_append, Host.performAll, hopened, ok_bind, hchanged, Host.performAll, hflush]
    rfl
  · rw [← hscheme, ← hscheme']
    exact hreopened'.slot.flush hroom.1 hgrowth hreopened'.valid hslot

/-! ### Changes that are lost -/

/-- A splice that stops before it starts lets the next change fault. -/
theorem Steady.start_le_of_resets (h : host.Steady) {splice : Splice}
    (hwaiting : host.workspace.waiting? id = some splice)
    (hroom : splice.start + splice.count < room) (hresets : host.Resets id room) :
    splice.start ≤ splice.stop := by
  refine Nat.le_of_not_lt fun hlt => ?_
  have hbounded := Workspace.bounded_single id [""] (by decide)
  have htext : Texts.single id [""] id = some [""] := if_pos rfl
  have hlines : [""].length < room := by
    rw [List.length_singleton]
    omega
  have htold : Told id room [""] [(.single id [""], .call (.event (.changed id ⟨0, 0, 0⟩) 0))]
      [""] := .cons hbounded htext hlines ⟨Nat.le_refl _, Nat.zero_le _, [], rfl, rfl⟩ .nil
  obtain ⟨host', hrun, -⟩ := hresets _ _ 0 _ _ _ hbounded htext hlines htold hbounded htext
  -- the change is joined to the stale splice
  obtain ⟨opened, hopened, -, hreopened⟩ := h.opened hbounded htext hlines 0
  have hstale : opened.workspace.waiting? id = some splice := hreopened.slot.waiting.trans hwaiting
  obtain ⟨fault, hfault⟩ := Splice.andThen_of_lt hlt ⟨0, 0, 0⟩
  have hchange : opened.perform (.single id [""]) (.call (.event (.changed id ⟨0, 0, 0⟩) 0)) =
      .error fault := by
    refine (hreopened.steady.perform_eq_error_iff hbounded).2 ⟨id, _, 0, rfl, ?_⟩
    rw [hstale, Backlog.compose, hfault]
  rw [List.cons_append, Host.performAll, hopened, ok_bind, List.cons_append, Host.performAll,
    hchange] at hrun
  cases hrun

/-- A splice that grew its text by two lines or more lets a change go under. -/
theorem Steady.growth_le_of_resets (h : host.Steady) {splice : Splice}
    (hwaiting : host.workspace.waiting? id = some splice)
    (hreach : splice.start + splice.count < room) (hroom : Splice.Room (some splice) room)
    (hresets : host.Resets id room) : splice.start + splice.count ≤ splice.stop + 1 := by
  refine Nat.le_of_not_lt fun hlt => ?_
  have hlines (text : String) :
      (Document.blankThen (splice.stop + 1) text).length < room := by
    rw [Document.length_blankThen]
    omega
  have hbounded (text : String) :
      Workspace.Bounded (.single id (Document.blankThen (splice.stop + 1) text)) :=
    Workspace.bounded_single _ _ (Nat.lt_of_lt_of_le (hlines text) hroom.1)
  have htext (text : String) : Texts.single id (Document.blankThen (splice.stop + 1) text) id =
      some (Document.blankThen (splice.stop + 1) text) := if_pos rfl
  have hsplice := Document.describes_blankThen (splice.stop + 1) "" "/*"
  -- a reset would notice the comment
  obtain ⟨host', hrun, hdocument⟩ := hresets _ _ 0 _ _ _ (hbounded "") (htext "") (hlines "")
    (.cons (hbounded "/*") (htext "/*") (hlines "/*") hsplice .nil) (hbounded "/*") (htext "/*")
  obtain ⟨opened, hopened, hscheme, hreopened⟩ := h.opened (hbounded "") (htext "") (hlines "") 0
  rw [hwaiting] at hreopened
  have hdelay := (hreopened.steady.coherent.neat id).delay_ne_zero hreopened.slot.waiting
  obtain ⟨changed, hchanged, hscheme', ⟨-, hchange⟩ | ⟨hzero, -⟩⟩ :=
    hreopened.changed hroom hsplice (hlines "/*") (hbounded "/*") (htext "/*") 0
  · obtain ⟨flushed, hflush, hslot⟩ := hchange.steady.flushed (hbounded "/*") id
    rw [htext "/*"] at hslot
    have hkept := hchange.slot.lost hroom hlt hslot
    rw [List.cons_append, Host.performAll, hopened, ok_bind, List.cons_append, Host.performAll,
      hchanged, ok_bind, List.nil_append, Host.performAll, hflush, ok_bind] at hrun
    obtain rfl := Except.ok.inj hrun
    rw [hscheme', hscheme] at hkept
    exact Document.parse_comment_ne _ _ (Option.some.inj (hkept.symm.trans hdocument))
  · exact hdelay hzero

/-! ### When opening is a reset -/

/-- **When opening a document is a reset.** After all that a host can do without a fault: if nothing
waits for the document, always. If a splice waits, and there is room to join others to it, exactly
if that splice did not grow the text before by more than one line. The scheme of the new scan is the
one configured last. -/
theorem reopening_resets_iff {scheme : Scheme} {run : List (Texts × Request)}
    (hbounded : ∀ step ∈ run, Workspace.Bounded step.1)
    (hrun : (start scheme).performAll run = .ok host) (id : DocumentId) :
    host.workspace.scheme = run.foldl (fun scheme step => step.2.schemeAfter scheme) scheme ∧
      (host.workspace.waiting? id = none → host.Resets id Word.half) ∧
      ∀ splice room, host.workspace.waiting? id = some splice →
        splice.start + splice.count < room →
        splice.start + splice.stop + splice.count + room ≤ Word.half →
        (host.Resets id room ↔
          splice.start ≤ splice.stop ∧ splice.start + splice.count ≤ splice.stop + 1) := by
  have hsteady := (steady_start scheme).performAll hbounded hrun
  obtain ⟨-, hscheme⟩ := (inv_start scheme).performAll hrun
  refine ⟨hscheme, fun hidle => ?_, fun splice room hwaiting hreach hhalf => ?_⟩
  · exact hsteady.resets ⟨Nat.le_refl _, by simp [hidle]⟩ (by simp [hidle])
  · have hroom (hle : splice.start ≤ splice.stop) : Splice.Room (some splice) room := by
      refine ⟨by omega, fun stale hstale => ?_⟩
      obtain rfl := Option.some.inj hstale
      exact ⟨hle, hhalf⟩
    constructor
    · intro hresets
      have hle := hsteady.start_le_of_resets hwaiting hreach hresets
      exact ⟨hle, hsteady.growth_le_of_resets hwaiting hreach (hroom hle) hresets⟩
    · rintro ⟨hle, hgrowth⟩
      refine hsteady.resets (hwaiting ▸ hroom hle) fun stale hstale => ?_
      obtain rfl := Option.some.inj (hwaiting.symm.trans hstale)
      exact hgrowth

/-- Two lines have come into a text of two lines, truthfully told, when the document is opened once
more. Another document has nothing waiting. -/
theorem reopening_resets_iff_grown :
    ∃ scheme run host, (∀ step ∈ run, Workspace.Bounded step.1) ∧
      (start scheme).performAll run = .ok host ∧
      host.workspace.waiting? "a" = some ⟨0, 0, 2⟩ ∧ ¬ host.Resets "a" 3 ∧
      host.workspace.waiting? "b" = none ∧ host.Resets "b" Word.half := by
  obtain ⟨run, hsteps⟩ : ∃ run : List (Texts × Request), run = [
    (.single "a" ["", ""], .call (.event (.opened "a") 0)),
    (.single "a" ["", "", "", ""], .call (.event (.changed "a" ⟨0, 0, 2⟩) 0))] := ⟨_, rfl⟩
  have hbounded : ∀ step ∈ run, Workspace.Bounded step.1 := by
    simp only [hsteps, List.forall_mem_cons]
    exact ⟨Workspace.bounded_single _ _ (by decide), Workspace.bounded_single _ _ (by decide),
      by simp⟩
  have hrun : ∃ host,
      (start ⟨[⟨'(', ')', ["a", "b"], "c"⟩], .consecutive, false, true, 100⟩).performAll run =
        .ok host ∧ host.workspace.waiting? "a" = some ⟨0, 0, 2⟩ ∧
      host.workspace.waiting? "b" = none := by
    subst hsteps
    exact ⟨_, rfl, rfl, rfl⟩
  obtain ⟨host, hrun, hgrown, hidle⟩ := hrun
  obtain ⟨-, -, hiff⟩ := reopening_resets_iff hbounded hrun "a"
  obtain ⟨-, hresets, -⟩ := reopening_resets_iff hbounded hrun "b"
  refine ⟨_, _, host, hbounded, hrun, hgrown, fun hreset => ?_, hidle, hresets hidle⟩
  have hsmall := (hiff ⟨0, 0, 2⟩ 3 hgrown (by decide) (by decide)).1 hreset
  exact absurd hsmall.2 (by decide)

end Host

end BracketTint
