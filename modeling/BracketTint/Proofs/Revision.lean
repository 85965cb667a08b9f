import BracketTint.Proofs.Scan
import BracketTint.Proofs.Update

/-!
# Runs of Updates

A document goes through any number of updates. Each is told a splice and a text, which need not
have anything to do with each other or with the text before (`Revision`). The document is the scan
of some text at all times, and this module says of which.

* `Document.updates_eq_parse_heldTexts`: **no revision corrupts a document.** After each update it
  is the scan of the text that `heldText` works out from what the update reports.
* `Document.updates_eq_parse_lines`: **an update is as good as a full scan.** If each splice tells
  the truth, or the new text is too short for it, the document after each update is the scan of
  the new text.

Texts have fewer lines than half of all words, so that line numbers can be subtracted as signed
words.
-/

namespace BracketTint

/-- A splice, and the text that is said to be there after it. -/
structure Revision where
  splice : Splice
  lines : List String
deriving DecidableEq, Repr

namespace Revision

/-- A revision tells the truth about the text before it: above and below the spliced lines the new
text has the old lines. Or the new text is too short for that, and there is no truth to tell. -/
def Faithful (r : Revision) (before : List String) : Prop :=
  let start := min r.splice.start before.length
  let stop := max start (min r.splice.stop before.length)
  r.lines.length < start + (before.length - stop) ∨
    before.take start <+: r.lines ∧ before.drop stop <:+ r.lines

instance (r : Revision) (before : List String) : Decidable (r.Faithful before) :=
  inferInstanceAs (Decidable (_ ∨ _))

/-- Revisions that follow each other, each of which tells the truth about the text before it. -/
def FaithfulFrom : List String → List Revision → Prop
  | _, [] => True
  | before, r :: rest => r.Faithful before ∧ FaithfulFrom r.lines rest

/-- A splice that describes a change tells the truth about it. -/
theorem faithful_of_describes {splice : Splice} {before lines : List String}
    (h : splice.Describes before lines) : Faithful ⟨splice, lines⟩ before := by
  obtain ⟨⟨hstart, hstop, -⟩, habove, hbelow⟩ := Splice.describes_iff.1 h
  have htop : min splice.start before.length = splice.start := by omega
  have hbottom : max splice.start (min splice.stop before.length) = splice.stop := by omega
  simp only [Faithful, htop, hbottom]
  exact .inr ⟨habove ▸ List.take_prefix _ _, hbelow ▸ List.drop_suffix _ _⟩

end Revision

namespace Document

/-- Carries out revisions one after another, and gives the document and the effort after each. -/
def updates : Document → List Revision → Except Fault (List (Document × Effort))
  | _, [] => .ok []
  | d, r :: rest => do
    let step ← d.update r.splice r.lines
    let later ← step.1.updates rest
    return step :: later

/-- The lines that a document holds after a revision of the text `before`, if the scan settled at
a given line: the new text down to there, between the old text above the splice and the old text
below, moved. -/
def heldText (before : List String) (r : Revision) (settledAt : Option Nat) : List String :=
  match r.splice.fit? before.length r.lines.length with
  | none => r.lines
  | some fitted =>
    let growth : Int := fitted.count - (fitted.stop - fitted.start)
    match settledAt with
    | some line =>
      before.take fitted.start ++ (r.lines.take (line + 1)).drop fitted.start ++
        before.drop (line + 1 - growth).toNat
    | none => before.take fitted.start ++ r.lines.drop fitted.start

/-- The lines that a document holds after each of some revisions. -/
def heldTexts : List String → List Revision → List (Option Nat) → List (List String)
  | before, r :: rest, settledAt :: later =>
    let held := heldText before r settledAt
    held :: heldTexts held rest later
  | _, _, _ => []

/-! ### One revision -/

/-- A document holds as many lines as the new text has, and is their scan. -/
theorem update_eq_parse_heldText (s : Scheme) {before : List String} {r : Revision}
    (hbefore : before.length < Word.half) (hlines : r.lines.length < Word.half) :
    ∃ effort, (parse s before).update r.splice r.lines =
        .ok (parse s (heldText before r effort.settledAt), effort) ∧
      (heldText before r effort.settledAt).length = r.lines.length := by
  cases hfit : r.splice.fit? before.length r.lines.length with
  | none =>
      refine ⟨⟨r.lines.length, none⟩, ?_, ?_⟩
      · simp only [update, lineCount_parse, scheme_parse, heldText, hfit]
      · simp only [heldText, hfit]
  | some fitted =>
      obtain ⟨k, hk, settledAt, hupdate, hcase, -⟩ := update_of_fit? s hbefore hlines hfit
      obtain ⟨-, -, hstart, hstop, hlength⟩ := Splice.fit?_eq_some_iff.1 hfit
      have hheld : heldText before r settledAt = blend fitted before r.lines k := by
        rcases hcase with ⟨rfl, rfl⟩ | ⟨rfl, hpos, -⟩
        · -- the scan went to the end of the text
          have hall : (r.lines.drop fitted.start).length ≤
              fitted.count + (before.length - fitted.stop) := by
            rw [List.length_drop]
            omega
          have hnone : before.length ≤ fitted.stop + (before.length - fitted.stop) := by omega
          simp only [heldText, hfit, blend]
          rw [List.take_of_length_le hall, List.drop_eq_nil_of_le hnone, List.append_nil]
        · have hline : fitted.start + fitted.count + k - 1 + 1 - fitted.start =
              fitted.count + k := by omega
          have hkept : (((fitted.start + fitted.count + k - 1 : Nat) : Int) + 1 -
              ((fitted.count : Int) - ((fitted.stop : Int) - fitted.start))).toNat =
                fitted.stop + k := by omega
          simp only [heldText, hfit, blend, hkept, List.drop_take, hline]
      refine ⟨⟨fitted.count + k, settledAt⟩, ?_, ?_⟩
      · rw [hupdate, hheld]
      · rw [hheld, length_blend ⟨hstart, hstop, hlength⟩ hk]

/-- A blend of a text with one that has the same lines above a splice, and from `k` lines below it
on, is the latter. -/
theorem blend_eq_of_agree {fitted : Splice} {before lines : List String} {k : Nat}
    (habove : before.take fitted.start = lines.take fitted.start)
    (hbelow : before.drop (fitted.stop + k) = lines.drop (fitted.start + fitted.count + k)) :
    blend fitted before lines k = lines := by
  have hrest : lines.drop (fitted.start + fitted.count + k) =
      (lines.drop fitted.start).drop (fitted.count + k) := by
    rw [List.drop_drop, Nat.add_assoc]
  rw [blend, habove, hbelow, hrest, List.append_assoc, List.take_append_drop,
    List.take_append_drop]

/-- A blend of a text with one that has the same lines above and below a splice is the latter. -/
theorem blend_eq_lines {fitted : Splice} {before lines : List String} {k : Nat}
    (hfits : fitted.Fits before.length lines.length) (habove : before.take fitted.start <+: lines)
    (hbelow : before.drop fitted.stop <:+ lines) : blend fitted before lines k = lines := by
  obtain ⟨hstart, hstop, hlength⟩ := hfits
  have htop : before.take fitted.start = lines.take fitted.start := by
    rw [List.prefix_iff_eq_take.1 habove, List.length_take_of_le (by omega)]
  have hbottom : before.drop fitted.stop = lines.drop (fitted.start + fitted.count) := by
    have hdrop : lines.length - (before.drop fitted.stop).length =
        fitted.start + fitted.count := by
      rw [List.length_drop]
      omega
    rw [List.suffix_iff_eq_drop.1 hbelow, hdrop]
  refine blend_eq_of_agree htop ?_
  rw [← List.drop_drop, hbottom, List.drop_drop]

/-- After a revision that tells the truth, a document is the scan of the new text. -/
theorem update_of_faithful (s : Scheme) {before : List String} {r : Revision}
    (hbefore : before.length < Word.half) (hlines : r.lines.length < Word.half)
    (h : r.Faithful before) :
    ∃ effort, (parse s before).update r.splice r.lines = .ok (parse s r.lines, effort) := by
  cases hfit : r.splice.fit? before.length r.lines.length with
  | none =>
      refine ⟨⟨r.lines.length, none⟩, ?_⟩
      simp only [update, lineCount_parse, scheme_parse, hfit]
  | some fitted =>
      obtain ⟨hstart, hstop, hfits⟩ := Splice.fit?_eq_some_iff.1 hfit
      have hlength := hfits.length
      simp only [Revision.Faithful, ← hstart, ← hstop] at h
      rcases h with hshort | ⟨habove, hbelow⟩
      · omega
      · obtain ⟨k, -, settledAt, hupdate, -⟩ := update_of_fit? s hbefore hlines hfit
        refine ⟨⟨fitted.count + k, settledAt⟩, ?_⟩
        rw [hupdate, blend_eq_lines hfits habove hbelow]

/-- **A splice may stop a line too early.** If it starts no later than the change and stops at most
one line above the end of the change, the document after it is the scan of the new text: below a
splice at least one line is scanned. -/
theorem update_of_describes (s : Scheme) {before lines : List String} {splice change : Splice}
    (hbefore : before.length < Word.half) (hlines : lines.length < Word.half)
    (hchange : change.Describes before lines) (hstart : splice.start ≤ change.start)
    (hstop : change.stop ≤ splice.stop + 1) :
    ∃ effort, (parse s before).update splice lines = .ok (parse s lines, effort) := by
  obtain ⟨⟨hle, hwithin, hlength⟩, habove, hbelow⟩ := Splice.describes_iff.1 hchange
  cases hfit : splice.fit? before.length lines.length with
  | none =>
      refine ⟨⟨lines.length, none⟩, ?_⟩
      simp only [update, lineCount_parse, scheme_parse, hfit]
  | some fitted =>
      obtain ⟨k, hk, settledAt, hupdate, hcase, -⟩ := update_of_fit? s hbefore hlines hfit
      obtain ⟨htop, hbottom, hfits⟩ := Splice.fit?_eq_some_iff.1 hfit
      have hlength' := hfits.length
      have hwithin' := hfits.stop_le
      -- the scan goes at least as far as the change
      have hreach : change.stop ≤ fitted.stop + k := by
        rcases hcase with ⟨-, hall⟩ | ⟨-, hpos, -⟩ <;> omega
      refine ⟨⟨fitted.count + k, settledAt⟩, ?_⟩
      rw [hupdate, blend_eq_of_agree]
      · have hsame := congrArg (List.take fitted.start) habove
        rw [List.take_take, List.take_take, Nat.min_eq_left (by omega)] at hsame
        exact hsame.symm
      · have hsame := congrArg (List.drop (fitted.stop + k - change.stop)) hbelow
        rw [List.drop_drop, List.drop_drop] at hsame
        have hold : fitted.stop + k = change.stop + (fitted.stop + k - change.stop) := by omega
        have hnew : fitted.start + fitted.count + k =
            change.start + change.count + (fitted.stop + k - change.stop) := by omega
        rw [hnew, hsame, ← hold]

/-- **No update looks further than it has to.** If the number of lines stays, and all lines stay
down to the first one below a splice, then an update leaves the document as it is, whatever the
lines further below are. -/
theorem update_of_take_eq (s : Scheme) {before lines : List String} {splice fitted : Splice}
    (hbefore : before.length < Word.half) (hlines : lines.length < Word.half)
    (hfit : splice.fit? before.length lines.length = some fitted)
    (hlength : lines.length = before.length) (hbelow : fitted.stop < before.length)
    (hsame : lines.take (fitted.stop + 1) = before.take (fitted.stop + 1)) :
    ∃ effort, (parse s before).update splice lines = .ok (parse s before, effort) := by
  obtain ⟨k, hk, settledAt, hupdate, hcase, hfirst⟩ := update_of_fit? s hbefore hlines hfit
  have hfits := (Splice.fit?_eq_some_iff.1 hfit).2.2
  have hstart := hfits.start_le
  have hcount : fitted.count = fitted.stop - fitted.start := by
    have hlength' := hfits.length
    omega
  -- the lines that are scanned down to there are the old ones
  have hlast : fitted.count + 1 = fitted.stop + 1 - fitted.start := by omega
  have hscanned : before.take fitted.start ++ (lines.drop fitted.start).take (fitted.count + 1) =
      before.take (fitted.stop + 1) := by
    have htake : before.take fitted.start = (before.take (fitted.stop + 1)).take fitted.start := by
      rw [List.take_take, Nat.min_eq_left (by omega)]
    rw [hlast, ← List.drop_take, hsame, htake, List.take_append_drop]
  have hagrees : Agrees s fitted before lines 1 := by
    have hdistance : (fitted.count : Int) - ((fitted.stop : Int) - fitted.start) = 0 := by omega
    rw [Agrees, scanLines_above hfits, hscanned, take_scanLines, Shift.moveContext,
      if_pos hdistance]
  obtain rfl : k = 1 := by
    have hle : ¬ 1 < k := fun hlt => hfirst 1 Nat.one_pos (.inl hlt) hagrees
    rcases hcase with ⟨-, hall⟩ | ⟨-, hpos, -⟩ <;> omega
  refine ⟨⟨fitted.count + 1, settledAt⟩, ?_⟩
  rw [hupdate, blend, hscanned, List.take_append_drop]

/-! ### Runs -/

/-- **No revision corrupts a document.** Whatever splices and texts it is told, no update faults or
asks for a line that is not there, and after each one the document has as many rows as the new
text has lines and is the scan, partner table included, of the text that it holds. Each row, those
that were scanned for the update among them, comes from its line without a fault, if each palette
has fewer colors than there are words. -/
theorem updates_eq_parse_heldTexts (s : Scheme) {before : List String} {revisions : List Revision}
    (hbefore : before.length < Word.half)
    (hlines : ∀ r ∈ revisions, r.lines.length < Word.half) :
    ∃ steps, (parse s before).updates revisions = .ok steps ∧
      steps.map (·.1.lineCount) = revisions.map (·.lines.length) ∧
      steps.map (·.1) =
        (heldTexts before revisions (steps.map (·.2.settledAt))).map (parse s) ∧
      ((∀ p ∈ s.pairs, p.palette.length < Word.size) →
        ∀ held ∈ heldTexts before revisions (steps.map (·.2.settledAt)),
          ∀ (i : Nat) text row, held[i]? = some text → (parse s held).rows[i]? = some row →
            Row.scanFrom s i row.entry text = .ok row) := by
  induction revisions generalizing before with
  | nil => exact ⟨[], rfl, rfl, rfl, fun _ => nofun⟩
  | cons r rest ih =>
      obtain ⟨hr, hrest⟩ := List.forall_mem_cons.1 hlines
      obtain ⟨effort, hupdate, hlength⟩ := update_eq_parse_heldText s hbefore hr
      obtain ⟨steps, hsteps, hcounts, hheld, -⟩ := ih (hlength ▸ hr) hrest
      refine ⟨(parse s (heldText before r effort.settledAt), effort) :: steps, ?_, ?_, ?_,
        fun hpalettes _ _ _ _ _ => scanFrom_of_mem_parse hpalettes⟩
      · simp only [updates, hupdate, hsteps, ok_bind, pure_eq_ok]
      · simp only [List.map_cons, lineCount_parse, hlength, hcounts]
      · simp only [List.map_cons, heldTexts, hheld]

/-- A splice that tells of an empty change, while all lines change, and one far outside the text. -/
theorem updates_eq_parse_heldTexts_untrue :
    let s : Scheme := ⟨[⟨'(', ')', ["a", "b"], "c"⟩], .consecutive, false, true, 0⟩
    let before := ["(", ")", ")"]
    let revisions : List Revision :=
      [⟨⟨1, 1, 0⟩, [")", "(", ")"]⟩, ⟨⟨7, 2, 18446744073709551615⟩, ["(", "(", "(", "("]⟩]
    before.length < Word.half ∧ (∀ r ∈ revisions, r.lines.length < Word.half) ∧
      ∃ steps, (parse s before).updates revisions = .ok steps ∧
        steps.map (·.1.lineCount) = revisions.map (·.lines.length) ∧
        steps.map (·.1) =
          (heldTexts before revisions (steps.map (·.2.settledAt))).map (parse s) ∧
        ∀ held ∈ heldTexts before revisions (steps.map (·.2.settledAt)),
          ∀ (i : Nat) text row, held[i]? = some text → (parse s held).rows[i]? = some row →
            Row.scanFrom s i row.entry text = .ok row := by
  have hbefore : ["(", ")", ")"].length < Word.half := by decide
  have hlines : ∀ r ∈ ([⟨⟨1, 1, 0⟩, [")", "(", ")"]⟩,
      ⟨⟨7, 2, 18446744073709551615⟩, ["(", "(", "(", "("]⟩] : List Revision),
      r.lines.length < Word.half := by decide
  obtain ⟨steps, hsteps, hcounts, hheld, hscan⟩ := updates_eq_parse_heldTexts
    ⟨[⟨'(', ')', ["a", "b"], "c"⟩], .consecutive, false, true, 0⟩ hbefore hlines
  exact ⟨hbefore, hlines, steps, hsteps, hcounts, hheld, hscan (by decide)⟩

/-- **An update is as good as a full scan.** If each revision tells the truth about the text before
it, no update faults, and after each one, the first and the last included, the document is the scan
of the new text. -/
theorem updates_eq_parse_lines (s : Scheme) {before : List String} {revisions : List Revision}
    (hbefore : before.length < Word.half)
    (hlines : ∀ r ∈ revisions, r.lines.length < Word.half)
    (hfaithful : Revision.FaithfulFrom before revisions) :
    ∃ steps, (parse s before).updates revisions = .ok steps ∧
      steps.map (·.1) = revisions.map fun r => parse s r.lines := by
  induction revisions generalizing before with
  | nil => exact ⟨[], rfl, rfl⟩
  | cons r rest ih =>
      obtain ⟨hr, hrest⟩ := List.forall_mem_cons.1 hlines
      obtain ⟨htrue, htrueRest⟩ := hfaithful
      obtain ⟨effort, hupdate⟩ := update_of_faithful s hbefore hr htrue
      obtain ⟨steps, hsteps, hparsed⟩ := ih hr hrest htrueRest
      refine ⟨(parse s r.lines, effort) :: steps, ?_, ?_⟩
      · simp only [updates, hupdate, hsteps, ok_bind, pure_eq_ok]
      · simp only [List.map_cons, hparsed]

/-- A line that is split in two, a line that goes away, and a text that is cut short. -/
theorem updates_eq_parse_lines_true :
    let s : Scheme := ⟨[⟨'(', ')', ["a", "b"], "c"⟩], .consecutive, false, true, 0⟩
    let before := ["(", ")(", ")"]
    let revisions : List Revision :=
      [⟨⟨1, 2, 2⟩, ["(", ")", "(", ")"]⟩, ⟨⟨0, 1, 0⟩, [")", "(", ")"]⟩, ⟨⟨5, 9, 0⟩, ["("]⟩]
    before.length < Word.half ∧ (∀ r ∈ revisions, r.lines.length < Word.half) ∧
      Revision.FaithfulFrom before revisions ∧
      ∃ steps, (parse s before).updates revisions = .ok steps ∧
        steps.map (·.1) = revisions.map fun r => parse s r.lines := by
  have hbefore : ["(", ")(", ")"].length < Word.half := by decide
  have hlines : ∀ r ∈ ([⟨⟨1, 2, 2⟩, ["(", ")", "(", ")"]⟩, ⟨⟨0, 1, 0⟩, [")", "(", ")"]⟩,
      ⟨⟨5, 9, 0⟩, ["("]⟩] : List Revision), r.lines.length < Word.half := by decide
  have hfaithful : Revision.FaithfulFrom ["(", ")(", ")"]
      [⟨⟨1, 2, 2⟩, ["(", ")", "(", ")"]⟩, ⟨⟨0, 1, 0⟩, [")", "(", ")"]⟩, ⟨⟨5, 9, 0⟩, ["("]⟩] :=
    ⟨by decide, by decide, by decide, trivial⟩
  exact ⟨hbefore, hlines, hfaithful, updates_eq_parse_lines _ hbefore hlines hfaithful⟩

end Document

end BracketTint
