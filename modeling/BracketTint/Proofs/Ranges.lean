import BracketTint.Proofs.Cycles
import BracketTint.Proofs.Revision
import BracketTint.Report
import Mathlib.Data.List.Count

/-!
# Reports Show Exactly the Brackets

Colors are reported in two ways, as spans grouped by color and as plain text, each for a whole
document and for one of its lines. Both start from the brackets, but the document and its lines take
different paths: all rows one after another, or one row that is found by its number.

Under each color the spans of its brackets are listed, in their order
(`ColorMap.spansOf_ofBrackets`). So nothing is lost or added when brackets are grouped
(`ColorMap.colored_ofBrackets`), and order and disjointness come from the order of the brackets in
the text. A row holds just the brackets with a position on its line (`Document.lineBrackets_parse`),
and this is where the two paths meet.

That holds for the scan of a text. After updates a document is put together from old rows, moved,
and new ones, but it is still the scan of some text (`Document.performAll_eq_parse`). Texts have
fewer lines than half of all words, as for any update.

* `Document.reports_brackets` — after any operations, the reports of a document show each of its
  brackets once, in order, and those of a line are the part of them on the line.
-/

namespace BracketTint

/-! ### Spans by color -/

namespace ColorMap

variable {s : Scheme}

/-- The spans of a color, and none if the color is not listed. -/
def spansOf (m : ColorMap) (color : String) : List Span := (m.get? color).getD []

/-- All spans, each with its color. -/
def colored (m : ColorMap) : List (String × Span) := m.entries.flatMap fun e => e.2.map (e.1, ·)

/-- A span that is added stands behind those of its color. -/
theorem spansOf_add (m : ColorMap) (color other : String) (span : Span) :
    (m.add color span).spansOf other =
      m.spansOf other ++ if color = other then [span] else [] := by
  rw [spansOf, add, Table.get?_insert]
  by_cases h : other = color
  · simp [h, spansOf]
  · simp [h, Ne.symm h, spansOf]

/-- **Under each color stand the spans of its brackets**, in their order. -/
theorem spansOf_ofBrackets (s : Scheme) (bs : List Bracket) (color : String) :
    (ofBrackets s bs).spansOf color =
      (bs.filter fun b => s.colorOf b = color).map Bracket.span := by
  have hfrom (m : ColorMap) : (bs.foldl (fun m b => m.add (s.colorOf b) b.span) m).spansOf color =
      m.spansOf color ++ (bs.filter fun b => s.colorOf b = color).map Bracket.span := by
    induction bs generalizing m with
    | nil => simp
    | cons b rest ih =>
        rw [List.foldl_cons, ih, spansOf_add, List.append_assoc, List.filter_cons]
        by_cases hb : s.colorOf b = color <;> simp [hb]
  exact hfrom ∅

/-- A color is listed only if it has a span. -/
theorem get?_ofBrackets_ne_nil (s : Scheme) (bs : List Bracket) (color : String) :
    (ofBrackets s bs).get? color ≠ some [] := by
  have hfrom (m : ColorMap) (hm : ∀ color, m.get? color ≠ some []) :
      (bs.foldl (fun m b => m.add (s.colorOf b) b.span) m).get? color ≠ some [] := by
    induction bs generalizing m with
    | nil => exact hm color
    | cons b rest ih =>
        rw [List.foldl_cons]
        refine ih _ fun other => ?_
        rw [add, Table.get?_insert]
        split
        · simp
        · exact hm other
  exact hfrom ∅ fun _ => nofun

/-- A span is listed as often as it stands under its color. -/
theorem count_colored (m : ColorMap) (color : String) (span : Span) :
    m.colored.count (color, span) = (m.spansOf color).count span := by
  obtain ⟨entries, ascending⟩ := m
  simp only [colored, spansOf, Table.get?]
  induction entries with
  | nil => rfl
  | cons e rest ih =>
      obtain ⟨hfirst, hrest⟩ := List.pairwise_cons.1 ascending
      rw [List.flatMap_cons, List.count_append, List.find?_cons]
      by_cases hcolor : color = e.1
      · -- the other colors are different
        have hnone : (rest.flatMap fun e => e.2.map (e.1, ·)).count (color, span) = 0 := by
          refine List.count_eq_zero.2 fun hmem => ?_
          obtain ⟨d, hd, hspan⟩ := List.mem_flatMap.1 hmem
          obtain ⟨_, _, heq⟩ := List.mem_map.1 hspan
          have hlt := hfirst d hd
          rw [(Prod.mk.inj heq).1, hcolor] at hlt
          simp at hlt
        subst hcolor
        have hinjective : Function.Injective (Prod.mk e.1 : Span → String × Span) :=
          fun _ _ h => (Prod.mk.inj h).2
        rw [hnone, List.count_map_of_injective _ _ hinjective]
        simp
      · have hnone : (e.2.map (e.1, ·)).count (color, span) = 0 := by
          refine List.count_eq_zero.2 fun hmem => ?_
          obtain ⟨_, _, heq⟩ := List.mem_map.1 hmem
          exact hcolor (Prod.mk.inj heq).1.symm
        have hne : (compare color e.1 == .eq) = false := by simpa using hcolor
        rw [hnone, Nat.zero_add, ih hrest, hne]

/-- **Each bracket gives one span under its color**, and there are no others. -/
theorem colored_ofBrackets (s : Scheme) (bs : List Bracket) :
    (ofBrackets s bs).colored.Perm (bs.map fun b => (s.colorOf b, b.span)) := by
  refine List.perm_iff_count.2 fun ⟨color, span⟩ => ?_
  rw [count_colored, spansOf_ofBrackets, List.count, List.countP_map, List.countP_filter,
    List.count, List.countP_map]
  refine List.countP_congr fun b _ => ?_
  simp [and_comm]

end ColorMap

/-! ### Reports in parts -/

namespace Report

/-- The report of some brackets and then others has a line break between. -/
theorem ofBrackets_append (s : Scheme) {above below : List Bracket} (habove : above ≠ [])
    (hbelow : below ≠ []) :
    ofBrackets s (above ++ below) = ofBrackets s above ++ "\n" ++ ofBrackets s below := by
  rw [ofBrackets, List.map_append, String.intercalate_append_of_ne_nil (by simpa) (by simpa)]
  rfl

/-- **A report is put together from its parts**, of which the empty ones are left out. -/
theorem ofBrackets_flatten (s : Scheme) (parts : List (List Bracket)) :
    ofBrackets s parts.flatten =
      "\n".intercalate ((parts.filter fun part => part ≠ []).map (ofBrackets s)) := by
  induction parts with
  | nil => rfl
  | cons part rest ih =>
      by_cases hpart : part = []
      · simpa [hpart] using ih
      · have hfilter : (part :: rest).filter (fun part => part ≠ []) =
            part :: rest.filter fun part => part ≠ [] := by simp [hpart]
        rw [List.flatten_cons, hfilter, List.map_cons]
        by_cases hrest : rest.flatten = []
        · have hnone : (rest.filter fun part => part ≠ []) = [] := by
            refine List.filter_eq_nil_iff.2 fun other hother => ?_
            simpa using List.flatten_eq_nil_iff.1 hrest other hother
          rw [hrest, List.append_nil, hnone, List.map_nil, String.intercalate_singleton]
        · have hsome : (rest.filter fun part => part ≠ []).map (ofBrackets s) ≠ [] := by
            intro hnil
            refine hrest (List.flatten_eq_nil_iff.2 fun other hother => ?_)
            simpa using List.filter_eq_nil_iff.1 (List.map_eq_nil_iff.1 hnil) other hother
          rw [ofBrackets_append s hpart hrest, ih, String.intercalate_cons_of_ne_nil hsome]

end Report

/-! ### Places of brackets -/

/-- A span stands before another one in the text. -/
def Span.Before (a b : Span) : Prop := Position.Before ⟨a.line, a.start⟩ ⟨b.line, b.start⟩

/-- Two spans have no place in common. -/
def Span.Disjoint (a b : Span) : Prop := a.line ≠ b.line ∨ a.stop ≤ b.start ∨ b.stop ≤ a.start

/-- A bracket takes up one column. -/
theorem Nest.span_meet (s : Scheme) (n : Nest) (pair : Nat) (side : Side) (p : Position) :
    (n.meet s pair side p).2.span = ⟨p.line, p.column, p.column + 1⟩ := by
  cases side with
  | opener => rfl
  | closer =>
      simp only [meet, leave]
      split
      · split <;> rfl
      · rfl

namespace Document

variable {s : Scheme} {texts : List String}

/-- A bracket of a text takes up the one column where it stands. -/
theorem span_of_mem {b : Bracket} (h : b ∈ (parse s texts).brackets) :
    b.span = ⟨b.position.line, b.position.column, b.position.column + 1⟩ := by
  obtain ⟨raw, hraw, rfl⟩ := List.mem_map.1 h
  have hmet := congrArg Bracket.span (nested_nestBefore hraw).2
  rw [Nest.span_meet] at hmet
  rwa [resolve_eq]

/-- The spans of the brackets stand in text order. -/
theorem before_spans (s : Scheme) (texts : List String) :
    ((parse s texts).brackets.map Bracket.span).Pairwise Span.Before :=
  List.pairwise_map.2 (inOrder_brackets s texts)

/-- The spans of the brackets have no place in common. -/
theorem disjoint_spans (s : Scheme) (texts : List String) :
    ((parse s texts).brackets.map Bracket.span).Pairwise Span.Disjoint := by
  refine List.pairwise_map.2 ((List.pairwise_map.1 (before_spans s texts)).imp_of_mem ?_)
  intro a b ha _ hbefore
  have hstop := congrArg Span.stop (span_of_mem ha)
  rcases hbefore with hline | ⟨-, hcolumn⟩
  · exact .inl (Nat.ne_of_lt hline)
  · exact .inr (.inl (hstop ▸ hcolumn))

/-- The brackets on one of some lines are those of its row. -/
theorem filter_line_scanLines (s : Scheme) (line : Nat) (entry : Context) (texts : List String)
    (k : Nat) :
    ((scanLines s line entry texts).flatMap Row.brackets).filter
        (fun b => b.position.line = line + k) =
      ((scanLines s line entry texts)[k]?.map Row.brackets).getD [] := by
  induction texts generalizing line entry k with
  | nil => rfl
  | cons text rest ih =>
      have hrow : ∀ b ∈ (Row.scan s line entry text).brackets, b.position.line = line :=
        fun b hb => Row.line_of_mem_scan hb
      rw [scanLines, List.flatMap_cons, List.filter_append]
      cases k with
      | zero =>
          rw [Nat.add_zero, List.filter_eq_self.2 fun b hb => decide_eq_true (hrow b hb),
            List.filter_eq_nil_iff.2, List.append_nil]
          · rfl
          · intro b hb hline
            have hbelow := (line_of_mem_scanLines hb).1
            have hline := of_decide_eq_true hline
            omega
      | succ k =>
          have hnone : (Row.scan s line entry text).brackets.filter
              (fun b => b.position.line = line + (k + 1)) = [] := by
            refine List.filter_eq_nil_iff.2 fun b hb hline => ?_
            have hline := of_decide_eq_true hline
            have := hrow b hb
            omega
          have hnext : line + (k + 1) = line + 1 + k := by omega
          rw [hnone, List.nil_append, hnext, ih, List.getElem?_cons_succ]

/-- **The brackets of a line are those of the text on that line**, also if there is no such line. -/
theorem lineBrackets_parse (s : Scheme) (texts : List String) (line : Nat) :
    (parse s texts).lineBrackets line =
      (parse s texts).brackets.filter fun b => b.span.line = line := by
  have hrow := filter_line_scanLines s 0 {} texts line
  rw [Nat.zero_add] at hrow
  rw [lineBrackets, rows_parse, ← hrow, brackets_parse, List.filter_map]
  refine congrArg (List.map _) (List.filter_congr fun b _ => ?_)
  rw [Function.comp_apply, resolve_eq]
  rfl

/-- The brackets of a document are those of its lines. -/
theorem brackets_eq_flatten (d : Document) :
    d.brackets = ((List.range d.lineCount).map d.lineBrackets).flatten := by
  have hrows (rows : List Row) : rows.flatMap Row.brackets =
      (List.range rows.length).flatMap fun line => (rows[line]?.map Row.brackets).getD [] := by
    induction rows with
    | nil => rfl
    | cons row rest ih =>
        rw [List.flatMap_cons, ih, List.length_cons, List.range_succ_eq_map, List.flatMap_cons,
          List.flatMap_map]
        rfl
  rw [brackets, hrows, List.map_flatMap, List.flatMap_def]
  rfl

/-! ### Operations on documents -/

/-- What can be done to a document. -/
inductive Operation where
  /-- The text was spliced, as far as it is known, and is now `lines`. -/
  | update (splice : Splice) (lines : List String)
  /-- The text is scanned from the top. -/
  | rescan (lines : List String)
  /-- The text is scanned from the top under another scheme. -/
  | restyle (scheme : Scheme) (lines : List String)

/-- The text that is there at an operation. -/
def Operation.lines : Operation → List String
  | .update _ lines | .rescan lines | .restyle _ lines => lines

/-- Carries out an operation. -/
def perform (d : Document) : Operation → Except Fault Document
  | .update splice lines => do return (← d.update splice lines).1
  | .rescan lines => .ok (parse d.scheme lines)
  | .restyle scheme lines => .ok (parse scheme lines)

/-- Carries out operations one after another. -/
def performAll (d : Document) (operations : List Operation) : Except Fault Document :=
  operations.foldlM perform d

/-- **A document is the scan of some text after any operations.** None of them faults. -/
theorem performAll_eq_parse (s : Scheme) {texts : List String} {operations : List Operation}
    (htexts : texts.length < Word.half)
    (hlines : ∀ operation ∈ operations, operation.lines.length < Word.half) :
    ∃ scheme held, (parse s texts).performAll operations = .ok (parse scheme held) := by
  induction operations generalizing s texts with
  | nil => exact ⟨s, texts, rfl⟩
  | cons operation rest ih =>
      obtain ⟨hline, hrest⟩ := List.forall_mem_cons.1 hlines
      cases operation with
      | update splice lines =>
          obtain ⟨effort, hupdate, hlength⟩ :=
            update_eq_parse_heldText s (r := ⟨splice, lines⟩) htexts hline
          obtain ⟨scheme, held, hperform⟩ := ih s (hlength ▸ hline) hrest
          refine ⟨scheme, held, ?_⟩
          simp only [performAll, List.foldlM_cons, perform, hupdate, ok_bind, pure_eq_ok]
          exact hperform
      | rescan lines => exact ih s hline hrest
      | restyle scheme lines => exact ih scheme hline hrest

/-! ### The theorem on reports -/

/-- **Reports show exactly the brackets.** Let a document come from a scan and any operations, under
any schemes; none of them faults. Then:

* the spans of all colors together are those of the brackets, each under the color of its bracket,
  and a span takes up the one column of its bracket;
* no two spans have a place in common;
* a color is listed only if it has a span, and its spans stand in text order, each before the next;
* for any number of a line, within the document or not, the spans of a color are those of the whole
  document on that line, in the same order, and a color is listed only if it has a span there;
* the plain report is that of the lines that have brackets, one after another, with a line break
  between each two. -/
theorem reports_brackets (s : Scheme) {texts : List String} {operations : List Operation}
    (htexts : texts.length < Word.half)
    (hlines : ∀ operation ∈ operations, operation.lines.length < Word.half) :
    ∃ d, (parse s texts).performAll operations = .ok d ∧
      d.colorMap.colored.Perm (d.brackets.map fun b => (d.scheme.colorOf b, b.span)) ∧
      (∀ b ∈ d.brackets,
        b.span = ⟨b.position.line, b.position.column, b.position.column + 1⟩) ∧
      (d.colorMap.colored.map Prod.snd).Pairwise Span.Disjoint ∧
      (∀ color spans, d.colorMap.get? color = some spans →
        spans ≠ [] ∧ spans.Pairwise Span.Before) ∧
      (∀ line color,
        (d.lineColorMap line).spansOf color =
          (d.colorMap.spansOf color).filter (fun span => span.line = line) ∧
        (d.lineColorMap line).get? color ≠ some []) ∧
      Report.text d none = "\n".intercalate
        (((List.range d.lineCount).filter fun line => d.lineBrackets line ≠ []).map fun line =>
          Report.text d (some line)) := by
  obtain ⟨scheme, held, hperform⟩ := performAll_eq_parse s htexts hlines
  have hspans (color : String) :=
    ColorMap.spansOf_ofBrackets scheme (parse scheme held).brackets color
  refine ⟨parse scheme held, hperform, ColorMap.colored_ofBrackets _ _, fun b hb => span_of_mem hb,
    ?_, fun color spans hcolor => ⟨?_, ?_⟩,
    fun line color => ⟨?_, ColorMap.get?_ofBrackets_ne_nil _ _ color⟩, ?_⟩
  · -- the order of the spans does not matter for whether they are disjoint
    have hperm := (ColorMap.colored_ofBrackets scheme (parse scheme held).brackets).map Prod.snd
    rw [List.map_map] at hperm
    have hsymm {a b : Span} (h : a.Disjoint b) : b.Disjoint a := h.imp Ne.symm Or.symm
    exact (hperm.pairwise_iff hsymm).2 (disjoint_spans scheme held)
  · rintro rfl
    exact ColorMap.get?_ofBrackets_ne_nil _ _ color hcolor
  · have hcolor : spans = (parse scheme held).colorMap.spansOf color := by
      rw [ColorMap.spansOf, hcolor, Option.getD_some]
    rw [hcolor, colorMap, scheme_parse, hspans]
    exact (before_spans scheme held).sublist (List.filter_sublist.map _)
  · rw [lineColorMap, colorMap, scheme_parse, hspans, ColorMap.spansOf_ofBrackets,
      lineBrackets_parse, List.filter_filter, List.filter_map, List.filter_filter]
    refine congrArg (List.map _) (List.filter_congr fun b _ => ?_)
    exact Bool.and_comm _ _
  · rw [Report.text, brackets_eq_flatten, Report.ofBrackets_flatten, List.filter_map, List.map_map]
    rfl

/-- A line goes away above a pair, with a splice that tells of it; then the text is scanned under
another scheme, in which both brackets have one color. -/
theorem reports_brackets_restyled :
    let s : Scheme := ⟨[⟨'(', ')', ["a", "b"], "x"⟩], .consecutive, false, true, 0⟩
    let s' : Scheme := ⟨[⟨'(', ')', ["a"], "a"⟩], .independent, true, false, 0⟩
    let texts := ["", "( (", ")"]
    let operations : List Operation :=
      [.update ⟨0, 1, 0⟩ ["( (", ")"], .restyle s' ["( (", "", ")"], .rescan ["((", "", ")"]]
    texts.length < Word.half ∧
      (∀ operation ∈ operations, operation.lines.length < Word.half) ∧
      ∃ d, (parse s texts).performAll operations = .ok d ∧
        d.colorMap.colored.Perm (d.brackets.map fun b => (d.scheme.colorOf b, b.span)) ∧
        (d.lineColorMap 0).spansOf "a" =
          (d.colorMap.spansOf "a").filter fun span => span.line = 0 := by
  intro s s' texts operations
  have htexts : texts.length < Word.half := by decide
  have hlines : ∀ operation ∈ operations, operation.lines.length < Word.half := by
    simp only [operations, List.forall_mem_cons, List.not_mem_nil, false_implies, implies_true,
      and_true]
    decide
  obtain ⟨d, hperform, hperm, -, -, -, hline, -⟩ := reports_brackets s htexts hlines
  exact ⟨htexts, hlines, d, hperform, hperm, (hline 0 "a").1⟩

end Document

end BracketTint
