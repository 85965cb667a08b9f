import BracketTint.Proofs.Pairing
import BracketTint.Proofs.Shift
import BracketTint.Proofs.Splice
import BracketTint.Proofs.Table

/-!
# Updates Against Full Scans

An update scans the lines that a splice brought in, goes on below them until a line ends as its
old row did, and keeps the old rows from there on. This module shows what a document is after an
update, whatever the splice and the new text are.

## Main results

* `Document.settle_eq`: how far the scan below the splice goes, and why it stops there.
* `Document.scanLines_blend` and `Document.kept_move`: **the rows.** Those down to where the scan
  stopped are rows of the new text, those below are rows of the old text in their new place, and
  together they are the rows of one text, the `blend` of the two.
* `Document.partners_assemble`: **the partner table.** No pair is lost, kept twice or overwritten,
  because in a scanned text no opener is closed twice (`Document.nodup_closedPairs`). The shift
  itself is not injective, so this is needed before and after it.
* `Document.update_of_fit?`: the update of a scanned text is the scan of a blend. That the splice
  told the truth about the new text is not needed for it.
-/

namespace BracketTint.Document

/-! ### The scan below a splice -/

/-- **How far the scan below a splice goes.** It covers `k` of the lines. Either these are all of
them, or the last one ends in the context in which its old row ends, moved. None of the lines above
it does, and none at all if the scan does not settle. -/
theorem settle_eq (s : Scheme) (shift : Shift) (total line : Nat) (entry prior : Context)
    {old : List Row} {texts : List String} (h : old.length = texts.length) :
    ∃ k ≤ texts.length, ∃ settledAt,
      settle s shift total line entry old texts =
        .ok ⟨scanLines s line entry (texts.take k), old.take k, old.drop k, settledAt⟩ ∧
      (settledAt = none ∧ k = texts.length ∨
        settledAt = some (line + k - 1) ∧ 0 < k ∧
          contextFrom entry (scanLines s line entry (texts.take k)) =
            shift.moveContext (contextFrom prior (old.take k))) ∧
      ∀ j, 0 < j → (j < k ∨ j = k ∧ settledAt = none) →
        contextFrom entry (scanLines s line entry (texts.take j)) ≠
          shift.moveContext (contextFrom prior (old.take j)) := by
  induction texts generalizing line entry prior old with
  | nil =>
      obtain rfl : old = [] := List.length_eq_zero_iff.1 h
      exact ⟨0, Nat.le_refl _, none, rfl, .inl ⟨rfl, rfl⟩, fun j hpos hj => by omega⟩
  | cons text rest ih =>
      obtain ⟨row, rows, rfl⟩ := List.exists_cons_of_length_eq_add_one h
      have hrows : rows.length = rest.length := by simpa using h
      by_cases hexit : (Row.scan s line entry text).exit = (shift.move row).exit
      · -- the scan settles on this line
        refine ⟨1, by simp, some line, ?_, .inr ⟨rfl, Nat.one_pos, ?_⟩, fun j hpos hj => ?_⟩
        · simp only [settle, hexit, if_true]
          rfl
        · simpa [scanLines, ← Shift.exit_move] using hexit
        · rcases hj with hj | ⟨-, hnone⟩
          · omega
          · cases hnone
      · obtain ⟨k, hk, settledAt, hsettle, hstop, hbefore⟩ :=
          ih (line + 1) (Row.scan s line entry text).exit row.exit hrows
        refine ⟨k + 1, by simpa using hk, settledAt, ?_, ?_, fun j hpos hj => ?_⟩
        · simp only [settle, hexit, if_false, hsettle, ok_bind, pure_eq_ok]
          rfl
        · rcases hstop with ⟨hnone, hall⟩ | ⟨hsome, hpos, hcontext⟩
          · exact .inl ⟨hnone, by simp [hall]⟩
          · refine .inr ⟨?_, Nat.succ_pos k, ?_⟩
            · rw [hsome]
              congr 1
              omega
            · simpa [scanLines] using hcontext
        · obtain ⟨j, rfl⟩ : ∃ j', j = j' + 1 := ⟨j - 1, by omega⟩
          rcases Nat.eq_zero_or_pos j with rfl | hpos'
          · simpa [scanLines, ← Shift.exit_move] using hexit
          · simpa [scanLines] using hbefore j hpos' (hj.imp (by omega) (.imp_left (by omega)))

/-! ### The rows after an update -/

/-- The new lines down to `k` lines below a splice, between the old lines above the splice and the
old lines from there on. -/
def blend (fitted : Splice) (before lines : List String) (k : Nat) : List String :=
  before.take fitted.start ++ (lines.drop fitted.start).take (fitted.count + k) ++
    before.drop (fitted.stop + k)

section Blend

variable {s : Scheme} {fitted : Splice} {before lines : List String}

/-- A blend has as many lines as the new text. -/
theorem length_blend (hfits : fitted.Fits before.length lines.length) {k : Nat}
    (hk : k ≤ before.length - fitted.stop) :
    (blend fitted before lines k).length = lines.length := by
  obtain ⟨hstart, hstop, hlength⟩ := hfits
  simp only [blend, List.length_append, List.length_take, List.length_drop]
  omega

/-- The rows of the new lines, from the start of a splice down to `k` lines below it. -/
def freshRows (s : Scheme) (fitted : Splice) (before lines : List String) (k : Nat) : List Row :=
  scanLines s fitted.start (contextFrom {} (scanLines s 0 {} (before.take fitted.start)))
    ((lines.drop fitted.start).take (fitted.count + k))

theorem length_freshRows (hfits : fitted.Fits before.length lines.length) {k : Nat}
    (hk : k ≤ before.length - fitted.stop) :
    (freshRows s fitted before lines k).length = fitted.count + k := by
  have hlength := hfits.length
  rw [freshRows, length_scanLines, List.length_take, List.length_drop]
  omega

/-- The new lines are scanned in two parts, those of the splice and those below it. -/
theorem freshRows_eq_append (hfits : fitted.Fits before.length lines.length) (k : Nat) :
    freshRows s fitted before lines k =
      freshRows s fitted before lines 0 ++
        scanLines s (fitted.start + fitted.count)
          (contextFrom {} (scanLines s 0 {} (before.take fitted.start) ++
            freshRows s fitted before lines 0))
          ((lines.drop (fitted.start + fitted.count)).take k) := by
  have hlength := hfits.length
  have hcount : ((lines.drop fitted.start).take fitted.count).length = fitted.count :=
    List.length_take_of_le (by rw [List.length_drop]; omega)
  rw [contextFrom_append]
  simp only [freshRows, Nat.add_zero]
  rw [List.take_add, scanLines_append, hcount, List.drop_drop]

/-- The rows down to `k` lines below a splice are those of one text. -/
theorem scanLines_above (hfits : fitted.Fits before.length lines.length) (k : Nat) :
    scanLines s 0 {} (before.take fitted.start) ++ freshRows s fitted before lines k =
      scanLines s 0 {}
        (before.take fitted.start ++ (lines.drop fitted.start).take (fitted.count + k)) := by
  have hstart : fitted.start ≤ before.length := Nat.le_trans hfits.start_le hfits.stop_le
  rw [scanLines_append, List.length_take_of_le hstart, Nat.zero_add, freshRows]

/-- The rows of a blend: those above the splice, those of the new lines, and those below. -/
theorem scanLines_blend (hfits : fitted.Fits before.length lines.length) {k : Nat}
    (hk : k ≤ before.length - fitted.stop) :
    scanLines s 0 {} (blend fitted before lines k) =
      scanLines s 0 {} (before.take fitted.start) ++ freshRows s fitted before lines k ++
        scanLines s (fitted.start + fitted.count + k)
          (contextFrom {} (scanLines s 0 {} (before.take fitted.start) ++
            freshRows s fitted before lines k))
          (before.drop (fitted.stop + k)) := by
  have hscanned := scanLines_above (s := s) hfits k
  obtain ⟨hstart, hstop, hlength⟩ := hfits
  have habove : (before.take fitted.start).length = fitted.start :=
    List.length_take_of_le (by omega)
  have hnew : ((lines.drop fitted.start).take (fitted.count + k)).length = fitted.count + k :=
    List.length_take_of_le (by rw [List.length_drop]; omega)
  rw [blend, scanLines_append, ← hscanned, List.length_append, habove, hnew, Nat.zero_add,
    Nat.add_assoc]

/-- The new scan and the old one agree `k` lines below a splice: they end there in the same context,
moved. -/
def Agrees (s : Scheme) (fitted : Splice) (before lines : List String) (k : Nat) : Prop :=
  contextFrom {}
      (scanLines s 0 {} (before.take fitted.start) ++ freshRows s fitted before lines k) =
    Shift.moveContext ⟨fitted.stop, (fitted.count : Int) - ((fitted.stop : Int) - fitted.start)⟩
      (contextFrom {} ((scanLines s 0 {} before).take (fitted.stop + k)))

/-- What an update scans of the lines that a splice brought in. -/
theorem scanInserted_parse (hfits : fitted.Fits before.length lines.length) :
    (parse s before).scanInserted fitted lines = .ok (freshRows s fitted before lines 0) := by
  have hlength := hfits.length
  have hcount : fitted.start + fitted.count - fitted.start = fitted.count := by omega
  simp only [scanInserted, parse, contextAfter_eq, take_scanLines, freshRows, Nat.add_zero]
  rw [if_pos (by omega), List.drop_take, hcount]

/-- The old rows below the place where the scan stopped, moved, are the rows of the old lines in
their new place, if the scan stopped there because the contexts agreed. -/
theorem kept_move (hfits : fitted.Fits before.length lines.length)
    (hlines : lines.length < Word.half) {shift : Shift} (htop : shift.top = fitted.stop)
    (hdistance : shift.distance = (fitted.count : Int) - ((fitted.stop : Int) - fitted.start))
    {k : Nat} (hk : k ≤ before.length - fitted.stop) {entry : Context}
    (hentry : k = before.length - fitted.stop ∨
      entry = shift.moveContext
        (contextFrom {} ((scanLines s 0 {} before).take (fitted.stop + k)))) :
    ((scanLines s 0 {} before).drop (fitted.stop + k)).map shift.move =
      scanLines s (fitted.start + fitted.count + k) entry (before.drop (fitted.stop + k)) := by
  obtain ⟨hstart, hstop, hlength⟩ := hfits
  rcases hentry with hall | hentry
  · -- the scan went to the end, and nothing is kept
    have hnil : before.length ≤ fitted.stop + k := by omega
    rw [List.drop_eq_nil_of_le (by rwa [length_scanLines]), List.drop_eq_nil_of_le hnil]
    rfl
  · have hsize := Word.size_eq
    rw [take_scanLines] at hentry
    rw [drop_scanLines _ _ _ _ (by omega), hentry, Nat.zero_add]
    exact scanLines_move s (by omega) (by rw [hdistance]; omega)
      (by rw [List.length_drop]; omega)

end Blend

/-! ### The partner table after an update -/

/-- Look-up in a moved table. The moved openers have to be distinct: a shift can take two
positions to one, a position on a line that went away and one on a line that moved there. -/
theorem get?_movePartners {shift : Shift} {partners : Table Position Position}
    {pairs : List (Position × Position)} (hpairs : (pairs.map Prod.fst).Nodup)
    (hmoved : ((pairs.map shift.movePair).map Prod.fst).Nodup)
    (hget : ∀ opener closer, partners.get? opener = some closer ↔ (opener, closer) ∈ pairs)
    (opener closer : Position) :
    (movePartners shift partners).get? opener = some closer ↔
      (opener, closer) ∈ pairs.map shift.movePair := by
  by_cases hd : shift.distance = 0
  · rw [movePartners, if_pos hd, hget, Shift.movePair_eq_id hd, List.map_id]
  · have hperm := (Table.entries_perm hpairs hget).map shift.movePair
    rw [movePartners, if_neg hd, ← Shift.movePair_eq_position hd,
      Table.get?_ofList_eq_some_iff ((hperm.map Prod.fst).nodup_iff.2 hmoved), hperm.mem_iff]

/-- Where the openers of three lists of pairs are distinct, an opener of the outer two is not one
of the middle one. -/
theorem opener_notMem_of_nodup {first middle last : List (Position × Position)}
    (h : ((first ++ middle ++ last).map Prod.fst).Nodup) {e : Position × Position}
    (he : e ∈ first ++ last) : e.1 ∉ middle.map Prod.fst := by
  intro hmiddle
  rw [List.map_append, List.map_append, List.nodup_append', List.nodup_append'] at h
  obtain ⟨⟨-, -, hfirst⟩, -, hlast⟩ := h
  rcases List.mem_append.1 he with he | he
  · exact hfirst (List.mem_map_of_mem he) hmiddle
  · exact hlast (List.mem_append_right _ hmiddle) (List.mem_map_of_mem he)

/-- **The partner table is brought along.** `above` are the pairs of the rows above a splice,
`replaced` those of the rows that were scanned anew, `kept` those of the rows below and `fresh`
those that the new scan found. If the openers are distinct before and after, what becomes of the
table of the old pairs is the table of the new pairs. -/
theorem partners_assemble {shift : Shift} {above replaced kept fresh : List (Position × Position)}
    (hold : ((above ++ replaced ++ kept).map Prod.fst).Nodup)
    (hnew : ((above ++ fresh ++ kept.map shift.movePair).map Prod.fst).Nodup)
    (habove : above.map shift.movePair = above) :
    (movePartners shift ((Table.ofList (above ++ replaced ++ kept)).eraseAll
        (replaced.map Prod.fst))).insertAll fresh =
      .ofList (above ++ fresh ++ kept.map shift.movePair) := by
  -- what is left after the pairs of the replaced rows are taken out
  have hrest : ((above ++ kept).map Prod.fst).Nodup := by
    refine hold.sublist (List.Sublist.map _ ?_)
    exact (List.sublist_append_left _ _).append (.refl _)
  have herased (opener closer : Position) :
      ((Table.ofList (above ++ replaced ++ kept)).eraseAll (replaced.map Prod.fst)).get? opener =
        some closer ↔ (opener, closer) ∈ above ++ kept := by
    rw [Table.get?_eraseAll]
    split
    next hreplaced =>
      have hnot : (opener, closer) ∉ above ++ kept := fun h =>
        opener_notMem_of_nodup hold h hreplaced
      simpa using hnot
    next hreplaced =>
      have hnot : (opener, closer) ∉ replaced := fun h => hreplaced (List.mem_map.2 ⟨_, h, rfl⟩)
      rw [Table.get?_ofList_eq_some_iff hold]
      simp [hnot]
  have hmoved : (((above ++ kept).map shift.movePair).map Prod.fst).Nodup := by
    rw [List.map_append, habove]
    refine hnew.sublist (List.Sublist.map _ ?_)
    exact (List.sublist_append_left _ _).append (.refl _)
  have hfresh : (fresh.map Prod.fst).Nodup := by
    refine hnew.sublist (List.Sublist.map _ ?_)
    exact (List.sublist_append_right _ _).trans (List.sublist_append_left _ _)
  refine Table.eq_ofList hnew fun opener closer => ?_
  rw [Table.get?_insertAll_eq_some_iff _ hfresh, get?_movePartners hrest hmoved herased,
    List.map_append, habove]
  constructor
  · rintro (h | ⟨-, h⟩)
    · exact List.mem_append_left _ (List.mem_append_right _ h)
    · rcases List.mem_append.1 h with h | h
      · exact List.mem_append_left _ (List.mem_append_left _ h)
      · exact List.mem_append_right _ h
  · intro h
    by_cases hf : (opener, closer) ∈ fresh
    · exact .inl hf
    · have hmem : (opener, closer) ∈ above ++ kept.map shift.movePair := by
        simpa [hf] using h
      exact .inr ⟨opener_notMem_of_nodup hnew hmem, hmem⟩

/-! ### The document after an update -/

@[simp] theorem scheme_parse (s : Scheme) (lines : List String) : (parse s lines).scheme = s := rfl

@[simp] theorem rows_parse (s : Scheme) (lines : List String) :
    (parse s lines).rows = scanLines s 0 {} lines := rfl

@[simp] theorem lineCount_parse (s : Scheme) (lines : List String) :
    (parse s lines).lineCount = lines.length := length_scanLines s 0 {} lines

section Assemble

variable {s : Scheme} {fitted : Splice} {before lines : List String} {shift : Shift}

/-- The old rows are those above a splice, those that were scanned anew, and those below. -/
theorem rows_split (hfits : fitted.Fits before.length lines.length) (rows : List Row) (k : Nat) :
    rows = rows.take fitted.start ++
      ((rows.take fitted.stop).drop fitted.start ++ (rows.drop fitted.stop).take k) ++
        rows.drop (fitted.stop + k) := by
  obtain ⟨hstart, -, -⟩ := hfits
  have htake : rows.take fitted.start = (rows.take fitted.stop).take fitted.start := by
    rw [List.take_take, Nat.min_eq_left hstart]
  rw [htake, List.append_assoc, List.append_assoc, ← List.append_assoc, List.take_append_drop,
    ← List.drop_drop, List.take_append_drop, List.take_append_drop]

/-- A document put together from rows that are those of a text is the scan of that text: the
partner table comes out right. -/
theorem assemble_parse (hfits : fitted.Fits before.length lines.length)
    (htop : shift.top = fitted.stop) {k : Nat} {fresh scanned : List Row} {text : List String}
    (settledAt : Option Nat)
    (hrows : scanLines s 0 {} text =
      scanLines s 0 {} (before.take fitted.start) ++ (fresh ++ scanned) ++
        ((scanLines s 0 {} before).drop (fitted.stop + k)).map shift.move) :
    (parse s before).assemble shift fitted fresh
        ⟨scanned, ((scanLines s 0 {} before).drop fitted.stop).take k,
          ((scanLines s 0 {} before).drop fitted.stop).drop k, settledAt⟩ =
      parse s text := by
  have hsplit := rows_split hfits (scanLines s 0 {} before) k
  rw [take_scanLines _ _ _ _ fitted.start] at hsplit
  have hold := nodup_closedPairs s before
  have hnew := nodup_closedPairs s text
  have hmove (rows : List Row) : (rows.map shift.move).flatMap Row.closedPairs =
      (rows.flatMap Row.closedPairs).map shift.movePair := by
    rw [List.flatMap_map, List.map_flatMap]
    exact List.flatMap_congr fun r _ => r.closedPairs_move shift
  -- the pairs above the splice lie above the shift
  have habove : ((scanLines s 0 {} (before.take fitted.start)).flatMap Row.closedPairs).map
      shift.movePair = (scanLines s 0 {} (before.take fitted.start)).flatMap Row.closedPairs := by
    refine (List.map_congr_left fun e he => ?_).trans (List.map_id _)
    obtain ⟨h₁, h₂⟩ := lines_of_mem_closedPairs he
    have hstart := hfits.start_le
    rw [List.length_take] at h₁ h₂
    exact Shift.movePair_of_lt (by omega) (by omega)
  rw [hsplit, List.flatMap_append, List.flatMap_append] at hold
  rw [hrows, List.flatMap_append, List.flatMap_append, hmove] at hnew
  have hpartners := partners_assemble hold hnew habove
  rw [← List.flatMap_append, ← List.flatMap_append, ← hsplit] at hpartners
  rw [← hmove, ← List.flatMap_append, ← List.flatMap_append, ← hrows] at hpartners
  simp only [assemble, parse, List.drop_drop, hpartners, take_scanLines _ _ _ _ fitted.start, hrows]

end Assemble

/-- **The document after a splice that fits** is the scan of a blend of the old and the new text.
The scan stops at the first line below the splice where it agrees with the old one, and goes to the
end of the text if there is none. -/
theorem update_of_fit? (s : Scheme) {before lines : List String} {splice fitted : Splice}
    (hbefore : before.length < Word.half) (hlines : lines.length < Word.half)
    (hfit : splice.fit? before.length lines.length = some fitted) :
    ∃ k ≤ before.length - fitted.stop, ∃ settledAt,
      (parse s before).update splice lines =
        .ok (parse s (blend fitted before lines k), ⟨fitted.count + k, settledAt⟩) ∧
      (settledAt = none ∧ k = before.length - fitted.stop ∨
        settledAt = some (fitted.start + fitted.count + k - 1) ∧ 0 < k ∧
          Agrees s fitted before lines k) ∧
      ∀ j, 0 < j → (j < k ∨ j = k ∧ settledAt = none) → ¬ Agrees s fitted before lines j := by
  have hfits := (Splice.fit?_eq_some_iff.1 hfit).2.2
  have hlength := hfits.length
  have hstop := hfits.stop_le
  have hgrowth := Splice.growth_of_lt hfits.start_le (by omega)
    (show fitted.count < Word.half by omega)
  have hinserted := scanInserted_parse (s := s) hfits
  generalize hshift : (⟨fitted.stop, (fitted.count : Int) - ((fitted.stop : Int) - fitted.start)⟩ :
    Shift) = shift
  have hold : ((scanLines s 0 {} before).drop fitted.stop).length =
      (lines.drop (fitted.start + fitted.count)).length := by
    rw [List.length_drop, List.length_drop, length_scanLines]
    omega
  obtain ⟨k, hk, settledAt, hsettle, hcase, hfirst⟩ := settle_eq s shift lines.length
    (fitted.start + fitted.count) (contextFrom {} (scanLines s 0 {} (before.take fitted.start) ++
      freshRows s fitted before lines 0))
    (contextFrom {} ((scanLines s 0 {} before).take fitted.stop)) hold
  rw [← hold, List.length_drop, length_scanLines] at hk hcase
  -- the contexts that are compared are those of the whole texts
  simp only [← contextFrom_append, List.append_assoc, ← freshRows_eq_append hfits, ← List.take_add]
    at hcase hfirst
  have hagree : k = before.length - fitted.stop ∨
      contextFrom {} (scanLines s 0 {} (before.take fitted.start) ++
          freshRows s fitted before lines k) =
        shift.moveContext (contextFrom {} ((scanLines s 0 {} before).take (fitted.stop + k))) :=
    hcase.imp (fun h => h.2) fun h => h.2.2
  have hkept := kept_move (s := s) hfits hlines (by rw [← hshift]) (by rw [← hshift]) hk hagree
  have hrows := scanLines_blend (s := s) hfits hk
  rw [← hkept, freshRows_eq_append hfits k] at hrows
  have hassemble := assemble_parse hfits (by rw [← hshift]) settledAt hrows
  have hcovered := length_freshRows (s := s) hfits hk
  rw [freshRows_eq_append hfits k, List.length_append] at hcovered
  simp only [Agrees, hshift]
  refine ⟨k, hk, settledAt, ?_, hcase, hfirst⟩
  simp only [update, lineCount_parse, rows_parse, scheme_parse, contextAfter_eq, take_scanLines,
    hfit, hgrowth, hshift, hinserted, hsettle, hassemble, hcovered, ok_bind, pure_eq_ok]

end BracketTint.Document
