import BracketTint.Proofs.Unclosed

/-!
# Stray Closers Are Inert

A closer that does not fit is reported as stray, and that is all that it does. It takes nothing off
the stack, it is not remembered for the colors of later openers, and the region stays what it was.
So the text could as well have a character in its place that means nothing at all (`Scheme.Inert`).

This compares two scans of two texts that differ in one character. They part at two places only. The
character before looks ahead to it, and must not see a mark of a comment in either text
(`Lexer.step_set`). And the character itself is passed in code, where one that is neither a quote
nor a mark leaves no trace (`Lexer.step_of_shows`). From there on both lexers are in one state, so
they show the same characters but for this one (`Lexer.view_set`). The brackets are read from what
is visible, and a stray closer hands on the open brackets as it found them (`Nest.read_stray`).

* `Row.scan_stray` — a line ends in the same context, and its row lacks the closer only;
* `Document.stray_closer_inert` — so does a whole text, and its partner table stays.
-/

namespace BracketTint

/-- Whether a character can be part of the mark of a comment, or escape a quote. -/
def Region.isMark (c : Char) : Bool := c == '/' || c == '*' || c == '\\'

/-- A character that means nothing under a scheme: it is no quote, no mark and no bracket. -/
structure Scheme.Inert (s : Scheme) (x : Char) : Prop where
  quote : Region.isQuote x = false
  mark : Region.isMark x = false
  bracket : s.classify x = none

/-! ### What is visible around one character -/

namespace Lexer

variable {l : Lexer} {a x : Char} {next : Option Char}

/-- A visible character stands in the text at its column. -/
theorem exists_of_mem_view {column : Nat} {text : List Char} {g : Glyph}
    (h : g ∈ (l.view column text).glyphs) :
    ∃ i, g.column = column + i ∧ text[i]? = some g.char := by
  induction text generalizing l column with
  | nil => exact absurd h List.not_mem_nil
  | cons c rest ih =>
      have hlater (h : g ∈ ((l.step c rest.head?).view (column + 1) rest).glyphs) :
          ∃ i, g.column = column + i ∧ (c :: rest)[i]? = some g.char := by
        obtain ⟨i, hcolumn, hchar⟩ := ih h
        exact ⟨i + 1, by omega, hchar⟩
      simp only [view] at h
      split at h
      · rcases List.mem_cons.1 h with rfl | h
        · exact ⟨0, rfl, rfl⟩
        · exact hlater h
      · exact hlater h

/-- Only code is visible, and no quote is. -/
theorem of_shows (h : l.shows a next = true) :
    l.region = .code ∧ l.midMark = false ∧ Region.isQuote a = false := by
  simp only [shows, Bool.and_eq_true, Bool.not_eq_true', beq_iff_eq] at h
  exact ⟨h.1.1.2, h.1.1.1, h.2⟩

/-- Where a character is visible, any other that is neither a quote nor a mark would be. -/
theorem shows_of_shows (h : l.shows a next = true) (hquote : Region.isQuote x = false)
    (hmark : Region.isMark x = false) : l.shows x next = true := by
  obtain ⟨hcode, hwhole, -⟩ := of_shows h
  simp only [Region.isMark, Bool.or_eq_false_iff] at hmark
  simp [shows, startsComment, hcode, hwhole, hquote, hmark.1.1]

/-- After a visible character that is no mark, reading is as at the start of a line of code. -/
theorem step_of_shows (h : l.shows a next = true) (hmark : Region.isMark a = false) :
    l.step a next = { region := .code } := by
  obtain ⟨hcode, hwhole, hquote⟩ := of_shows h
  simp only [Region.isMark, Bool.or_eq_false_iff] at hmark
  simp [step, hcode, hwhole, hquote, hmark.1.1, hmark.2]

/-- Looking ahead, no character that is not a mark can be told from another one. -/
theorem step_some (c : Char) (ha : Region.isMark a = false) (hx : Region.isMark x = false) :
    l.step c (some a) = l.step c (some x) ∧ l.shows c (some a) = l.shows c (some x) := by
  simp only [Region.isMark, Bool.or_eq_false_iff] at ha hx
  simp [step, shows, startsComment, ha.1.1, ha.1.2, hx.1.1, hx.1.2]

/-- A character is read alike if one that is not a mark takes the place of another one behind it. -/
theorem step_set (c : Char) {rest : List Char} {i : Nat} (hchar : rest[i]? = some a)
    (ha : Region.isMark a = false) (hx : Region.isMark x = false) :
    l.step c (rest.set i x).head? = l.step c rest.head? ∧
      l.shows c (rest.set i x).head? = l.shows c rest.head? := by
  cases rest with
  | nil => exact absurd hchar (by simp)
  | cons d rest =>
      cases i with
      | zero =>
          obtain rfl : d = a := by simpa using hchar
          exact step_some c hx ha
      | succ i => exact ⟨rfl, rfl⟩

/-- **One visible character is replaced by another one.** If neither is a mark, the line shows the
other one in its place, and all else stays. -/
theorem view_set {column i : Nat} {text : List Char} {left right : List Glyph} {g : Glyph}
    (hglyphs : (l.view column text).glyphs = left ++ g :: right) (hcolumn : g.column = column + i)
    (hmark : Region.isMark g.char = false) (hxquote : Region.isQuote x = false)
    (hxmark : Region.isMark x = false) :
    l.view column (text.set i x) =
      ⟨left ++ ⟨g.column, x⟩ :: right, (l.view column text).region⟩ := by
  induction text generalizing l column i left with
  | nil => exact absurd hglyphs (by simp [view])
  | cons c rest ih =>
      -- the character stands behind the first one, and the rest of the line is read alike
      have hlater {left : List Glyph}
          (h : ((l.step c rest.head?).view (column + 1) rest).glyphs = left ++ g :: right) :
          ∃ j, i = j + 1 ∧ l.shows c (rest.set j x).head? = l.shows c rest.head? ∧
            (l.step c (rest.set j x).head?).view (column + 1) (rest.set j x) =
              ⟨left ++ ⟨g.column, x⟩ :: right,
                ((l.step c rest.head?).view (column + 1) rest).region⟩ := by
        have hmem : g ∈ ((l.step c rest.head?).view (column + 1) rest).glyphs := by simp [h]
        obtain ⟨j, hj, hchar⟩ := exists_of_mem_view hmem
        obtain ⟨hstep, hshows⟩ := step_set (l := l) c hchar hmark hxmark
        refine ⟨j, by omega, hshows, ?_⟩
        rw [hstep]
        exact ih h hj
      by_cases hshows : l.shows c rest.head? = true
      · simp only [view, hshows, if_true] at hglyphs
        cases left with
        | nil =>
            -- the character is the first one
            obtain ⟨rfl, rfl⟩ := List.cons.inj hglyphs
            obtain rfl : i = 0 := by simpa using hcolumn
            have hstep := (step_of_shows hshows hmark).trans
              (step_of_shows (shows_of_shows hshows hxquote hxmark) hxmark).symm
            simp only [List.set_cons_zero, view, shows_of_shows hshows hxquote hxmark, hshows,
              if_true, hstep, List.nil_append]
        | cons first left =>
            obtain ⟨rfl, hrest⟩ := List.cons.inj hglyphs
            obtain ⟨j, rfl, hsame, hview⟩ := hlater hrest
            simp only [List.set_cons_succ, view, hsame, hshows, hview, if_true, List.cons_append]
      · simp only [view, hshows, if_false, Bool.false_eq_true] at hglyphs
        obtain ⟨j, rfl, hsame, hview⟩ := hlater hglyphs
        simp only [List.set_cons_succ, view, hsame, hshows, hview, if_false, Bool.false_eq_true]

end Lexer

/-! ### Brackets around a stray closer -/

namespace Nest

variable {s : Scheme} {line : Nat} {n : Nest}

/-- Characters are read in parts, the second from what the first leaves open. -/
theorem read_append (n : Nest) (left right : List Glyph) :
    n.read s line (left ++ right) =
      (((n.read s line left).1.read s line right).1,
        (n.read s line left).2 ++ ((n.read s line left).1.read s line right).2) := by
  induction left generalizing n with
  | nil => rfl
  | cons g left ih =>
      cases hg : s.classify g.char with
      | none => simp only [List.cons_append, read, hg, ih]
      | some found => simp only [List.cons_append, read, hg, ih]

/-- A stray closer leaves all as it was. -/
theorem leave_of_stray {pair : Nat} {p : Position} (h : (n.leave s pair p).2.link = .stray) :
    (n.leave s pair p).1 = n := by
  rw [leave_of_ne ((n.link_leave s pair p).2.1 h)]

/-- **A stray closer has no part in what is read around it.** A character that is no bracket in its
place leads to the same brackets but for the closer, and leaves the same open. -/
theorem read_stray {left : List Glyph} {g : Glyph} {c : Bracket} {x : Char}
    (hg : s.classify g.char = some (c.pair, .closer)) (hx : s.classify x = none)
    (hc : c = ((n.read s line left).1.leave s c.pair ⟨line, g.column⟩).2)
    (hstray : c.link = .stray) (right : List Glyph) :
    ∃ before after,
      (n.read s line (left ++ g :: right)).2 = before ++ c :: after ∧
      n.read s line (left ++ ⟨g.column, x⟩ :: right) =
        ((n.read s line (left ++ g :: right)).1, before ++ after) := by
  have hkept : ((n.read s line left).1.leave s c.pair ⟨line, g.column⟩).1 =
      (n.read s line left).1 := leave_of_stray (hc ▸ hstray)
  refine ⟨(n.read s line left).2, ((n.read s line left).1.read s line right).2, ?_, ?_⟩
  · simp only [read_append, read, hg, meet, hkept, ← hc]
  · simp only [read_append, read, hg, hx, meet, hkept]

end Nest

/-! ### Lines and texts -/

/-- A scanned line without one of its brackets. -/
def Row.without (b : Bracket) (r : Row) : Row := { r with brackets := r.brackets.erase b }

/-- No bracket is found twice in a line. -/
theorem Row.nodup_scan (s : Scheme) (line : Nat) (entry : Context) (text : String) :
    (scan s line entry text).brackets.Nodup :=
  .of_map _ ((before_scan s line entry text).imp Position.Before.ne)

/-- **A line with a stray closer is scanned as if the closer meant nothing**: the row lacks the
closer, and the line ends in the same context. -/
theorem Row.scan_stray {s : Scheme} {line : Nat} {entry : Context} {text : String} {c : Bracket}
    {x : Char} (hc : c ∈ (scan s line entry text).brackets) (hside : c.side = .closer)
    (hstray : c.link = .stray)
    (hmark : ∀ a, text.toList[c.position.column]? = some a → Region.isMark a = false)
    (hx : s.Inert x) :
    scan s line entry (String.ofList (text.toList.set c.position.column x)) =
      (scan s line entry text).without c := by
  have hnodup := nodup_scan s line entry text
  obtain ⟨left, g, right, -, hglyphs, hclass, hmet, -⟩ := Nest.exists_of_mem_read hc
  rw [hside] at hclass hmet
  have hposition : c.position = ⟨line, g.column⟩ := by
    rw [hmet, Nest.position_meet]
  rw [hposition] at hmark ⊢
  -- the closer was read from a character of the text
  have hmem : g ∈ (Lexer.view { region := entry.region } 0 text.toList).glyphs := by
    change g ∈ (entry.region.view text.toList).glyphs
    simp [hglyphs]
  obtain ⟨i, hcolumn, hchar⟩ := Lexer.exists_of_mem_view hmem
  rw [Nat.zero_add] at hcolumn
  rw [← hcolumn] at hchar
  have hview := Lexer.view_set hglyphs (Nat.zero_add g.column).symm (hmark _ hchar) hx.quote hx.mark
  obtain ⟨before, after, hfound, hread⟩ := Nest.read_stray hclass hx.bracket hmet hstray right
  -- what is left when the closer is taken out
  have herase : (scan s line entry text).brackets.erase c = before ++ after := by
    have hsplit : (scan s line entry text).brackets = before ++ c :: after := by
      rw [← hfound, ← hglyphs, scan]
    rw [hsplit] at hnodup ⊢
    have hnot : c ∉ before := fun h =>
      (List.nodup_append.1 hnodup).2.2 c h c List.mem_cons_self rfl
    rw [List.erase_append_right _ hnot, List.erase_cons_head]
  rw [without, herase]
  simp only [scan, Region.view, String.toList_ofList, hview, hread]
  rw [← hglyphs]
  rfl

namespace Document

/-- The character of a text at a position. -/
def charAt? (texts : List String) (p : Position) : Option Char :=
  texts[p.line]?.bind fun text => text.toList[p.column]?

/-- A text with another character at a position. -/
def replaceAt (texts : List String) (p : Position) (x : Char) : List String :=
  texts.modify p.line fun text => String.ofList (text.toList.set p.column x)

/-- A document without one of its brackets. The contexts of the rows and the partner table stay. -/
def without (b : Bracket) (d : Document) : Document :=
  { d with rows := d.rows.map (Row.without b) }

variable {s : Scheme} {texts : List String} {c : Bracket}

/-- Rows on other lines have nothing to lose. -/
theorem map_without_of_line {line : Nat} {entry : Context}
    (h : c.position.line < line ∨ line + texts.length ≤ c.position.line) :
    (scanLines s line entry texts).map (Row.without c) = scanLines s line entry texts := by
  refine (List.map_congr_left fun row hrow => ?_).trans (List.map_id _)
  have hnot : c ∉ row.brackets := fun hc => by
    have hline := line_of_mem_scanLines (List.mem_flatMap.2 ⟨row, hrow, hc⟩)
    omega
  rw [Row.without, List.erase_of_not_mem hnot, id]

/-- The rows of a text with a stray closer. -/
theorem scanLines_stray {x : Char} (hc : c ∈ found s texts) (hside : c.side = .closer)
    (hstray : c.link = .stray)
    (hmark : ∀ a, charAt? texts c.position = some a → Region.isMark a = false) (hx : s.Inert x) :
    scanLines s 0 {} (replaceAt texts c.position x) =
      (scanLines s 0 {} texts).map (Row.without c) := by
  obtain ⟨row, hrow, hcrow⟩ := List.mem_flatMap.1 hc
  obtain ⟨k, hk⟩ := List.mem_iff_getElem?.1 hrow
  rw [getElem?_scanLines, Nat.zero_add] at hk
  obtain ⟨text, htext, rfl⟩ := Option.map_eq_some_iff.1 hk
  have hline : c.position.line = k := Row.line_of_mem_scan hcrow
  -- the lines above and below the closer
  obtain ⟨above, text', below, hsplit, hlength, hreplace⟩ :=
    List.exists_of_modify (fun text => String.ofList (text.toList.set c.position.column x))
      (List.getElem?_eq_some_iff.1 htext).1
  obtain rfl : text = text' := by
    rw [hsplit, List.getElem?_append_right (by omega), hlength, Nat.sub_self] at htext
    exact (Option.some.inj htext).symm
  have habove : texts.take k = above := by rw [hsplit, List.take_left' hlength]
  have hplain : ∀ a, text.toList[c.position.column]? = some a → Region.isMark a = false := by
    intro a ha
    exact hmark a (by rw [charAt?, hline, htext, Option.bind_some, ha])
  rw [habove] at hcrow
  have hrow := Row.scan_stray hcrow hside hstray hplain hx
  rw [replaceAt, hline, hreplace, hsplit, scanLines_append, scanLines_append, List.map_append,
    map_without_of_line (.inr (by omega)), hlength, Nat.zero_add]
  simp only [scanLines, List.map_cons, hrow]
  rw [map_without_of_line (.inl (by omega))]
  rfl

/-- A stray closer closes no pair. -/
theorem closedPairs_without (hstray : c.link = .stray) (r : Row) :
    (r.without c).closedPairs = r.closedPairs := by
  have hnone : c.closedPair? = none := by
    simp only [Bracket.closedPair?, hstray, Link.partner?]
    cases c.side <;> rfl
  rw [Row.closedPairs, Row.without, Row.closedPairs]
  by_cases hc : c ∈ r.brackets
  · obtain ⟨left, right, -, hsplit, herase⟩ := List.exists_erase_eq hc
    rw [herase, hsplit, List.filterMap_append, List.filterMap_append,
      List.filterMap_cons_none hnone]
  · rw [List.erase_of_not_mem hc]

/-- The brackets of a document without a closer are the others. -/
theorem brackets_without (hside : c.side = .closer) :
    ((parse s texts).without c).brackets = (parse s texts).brackets.erase c := by
  have hrows : ∀ row ∈ scanLines s 0 {} texts, row.brackets.Nodup := fun row hrow => by
    obtain ⟨k, text, rfl, -⟩ := exists_scan_of_mem hrow
    exact Row.nodup_scan s _ _ text
  have hresolve : ((parse s texts).without c).resolve = (parse s texts).resolve := rfl
  have hfound : ((parse s texts).without c).rows.flatMap Row.brackets =
      (found s texts).filter (· != c) := by
    rw [without, List.flatMap_map, found, List.filter_flatMap]
    exact List.flatMap_congr fun row hrow => (hrows row hrow).erase_eq_filter c
  rw [brackets, hresolve, hfound, (nodup_positions s texts).of_map.erase_eq_filter, brackets_parse,
    List.filter_map]
  refine congrArg (List.map _) (List.filter_congr fun b _ => ?_)
  -- a bracket becomes the closer only if it is the closer
  have hiff : b = c ↔ (parse s texts).resolve b = c := by
    constructor
    · rintro rfl
      exact resolve_closer _ hside
    · intro h
      rw [← h, resolve_closer _ ((side_resolve _ b).symm.trans (h ▸ hside))]
  simp [bne, hiff]

/-- **Stray closers are inert.** Under any scheme, in any text, let `c` be a stray closer whose
character can be no part of a comment's mark and is no backslash, and let `x` be a character that
means nothing. With `x` in the place of the closer, the scan of the text is what it was but for the
closer: each row has the same contexts and the same brackets, the partner table is the same, and so
is each other bracket of the text, with its position, its depth, its color and its link. -/
theorem stray_closer_inert (s : Scheme) (texts : List String) {c : Bracket}
    (hc : c ∈ (parse s texts).brackets) (hside : c.side = .closer) (hstray : c.link = .stray)
    (hmark : ∀ a, charAt? texts c.position = some a → Region.isMark a = false) {x : Char}
    (hx : s.Inert x) :
    parse s (replaceAt texts c.position x) = (parse s texts).without c ∧
      (parse s (replaceAt texts c.position x)).brackets = (parse s texts).brackets.erase c := by
  have hrows := scanLines_stray ((mem_brackets_closer hside).1 hc) hside hstray hmark hx
  have hpairs : (scanLines s 0 {} (replaceAt texts c.position x)).flatMap Row.closedPairs =
      (scanLines s 0 {} texts).flatMap Row.closedPairs := by
    rw [hrows, List.flatMap_map]
    exact List.flatMap_congr fun row _ => closedPairs_without hstray row
  have hparse : parse s (replaceAt texts c.position x) = (parse s texts).without c := by
    rw [parse, hpairs, hrows]
    rfl
  exact ⟨hparse, hparse ▸ brackets_without hside⟩

/-- A stray closer between a slash and a star, inside a pair of another kind that goes on in the
next line, where colors depend on the opener before. -/
theorem stray_closer_inert_between :
    let s : Scheme :=
      ⟨[⟨'(', ')', ["a", "b"], "x"⟩, ⟨'[', ']', ["c", "d"], "y"⟩], .consecutive, true, true, 0⟩
    let texts := ["[ /)* (", ") ] ["]
    let c : Bracket := ⟨0, .closer, ⟨0, 3, 4⟩, 1, 0, .stray⟩
    c ∈ (parse s texts).brackets ∧ charAt? texts ⟨0, 3⟩ = some ')' ∧ s.Inert '.' ∧
      replaceAt texts ⟨0, 3⟩ '.' = ["[ /.* (", ") ] ["] ∧
      parse s ["[ /.* (", ") ] ["] = (parse s texts).without c ∧
      (parse s ["[ /.* (", ") ] ["]).brackets = (parse s texts).brackets.erase c := by
  intro s texts c
  have hc : c ∈ (parse s texts).brackets := by decide
  have hchar : charAt? texts ⟨0, 3⟩ = some ')' := by decide
  have hx : s.Inert '.' := ⟨by decide, by decide, by decide⟩
  have hmark : ∀ a, charAt? texts c.position = some a → Region.isMark a = false := by
    intro a ha
    obtain rfl : ')' = a := Option.some.inj (hchar.symm.trans ha)
    decide
  have hreplace : replaceAt texts ⟨0, 3⟩ '.' = ["[ /.* (", ") ] ["] := by decide
  exact ⟨hc, hchar, hx, hreplace, hreplace ▸ stray_closer_inert s texts hc rfl rfl hmark hx⟩

end Document

end BracketTint
