import BracketTint.Document.Update

/-!
# Rows of a Text

What holds of the rows of any text, from any line and any context on. Scanning goes line by line,
so a text that is cut in two is scanned in two parts, the second from the context in which the
first ends (`Document.scanLines_append`). That is all that scanning can be taken up again from.

The brackets stand in text order (`Document.before_scanLines`), each on the line of its row and
at the column of the visible character it was read from. So no two of them share a position.
-/

namespace BracketTint

/-! ### Text order -/

/-- A position stands before another in the text. -/
def Position.Before (a b : Position) : Prop :=
  a.line < b.line ∨ a.line = b.line ∧ a.column < b.column

/-- No position stands before itself. -/
theorem Position.Before.ne {a b : Position} (h : a.Before b) : a ≠ b := by
  rintro rfl
  rcases h with h | ⟨-, h⟩ <;> exact absurd h (Nat.lt_irrefl _)

/-! ### The visible characters of a line -/

/-- Reading from a column on shows no character before it. -/
theorem Lexer.le_column_of_mem_view {l : Lexer} {column : Nat} {text : List Char} {g : Glyph}
    (h : g ∈ (l.view column text).glyphs) : column ≤ g.column := by
  induction text generalizing l column with
  | nil => exact absurd h List.not_mem_nil
  | cons c rest ih =>
      simp only [view] at h
      split at h
      · rcases List.mem_cons.1 h with rfl | h
        · exact Nat.le_refl _
        · exact Nat.le_of_succ_le (ih h)
      · exact Nat.le_of_succ_le (ih h)

/-- The visible characters stand in the order of their columns. -/
theorem Lexer.pairwise_column_view (l : Lexer) (column : Nat) (text : List Char) :
    (l.view column text).glyphs.Pairwise fun a b => a.column < b.column := by
  induction text generalizing l column with
  | nil => exact .nil
  | cons c rest ih =>
      simp only [view]
      split
      · exact List.pairwise_cons.2 ⟨fun g hg => le_column_of_mem_view hg, ih _ _⟩
      · exact ih _ _

/-! ### The brackets of a line -/

/-- A bracket stands where it was read. -/
theorem Nest.position_meet (s : Scheme) (n : Nest) (pair : Nat) (side : Side) (p : Position) :
    (n.meet s pair side p).2.position = p := by
  cases side with
  | opener => rfl
  | closer =>
      simp only [meet, leave]
      split
      · split <;> rfl
      · rfl

/-- The brackets of a line stand at visible characters, in the same order. -/
theorem Nest.position_read_sublist (s : Scheme) (line : Nat) (n : Nest) (glyphs : List Glyph) :
    ((n.read s line glyphs).2.map Bracket.position).Sublist
      (glyphs.map fun g => ⟨line, g.column⟩) := by
  induction glyphs generalizing n with
  | nil => exact .slnil
  | cons g rest ih =>
      cases hc : s.classify g.char with
      | none =>
          simp only [read, hc, List.map_cons]
          exact (ih n).cons _
      | some found =>
          simp only [read, hc, List.map_cons, position_meet]
          exact (ih _).cons_cons _

/-- The brackets of a row stand on its line. -/
theorem Row.line_of_mem_scan {s : Scheme} {line : Nat} {entry : Context} {text : String}
    {b : Bracket} (h : b ∈ (scan s line entry text).brackets) : b.position.line = line := by
  have hmem := (entry.nest.position_read_sublist s line
    (entry.region.view text.toList).glyphs).subset (List.mem_map_of_mem h)
  obtain ⟨g, -, hg⟩ := List.mem_map.1 hmem
  rw [← hg]

/-- The brackets of a row stand in text order. -/
theorem Row.before_scan (s : Scheme) (line : Nat) (entry : Context) (text : String) :
    ((scan s line entry text).brackets.map Bracket.position).Pairwise Position.Before := by
  refine List.Pairwise.sublist (entry.nest.position_read_sublist s line _) ?_
  refine List.pairwise_map.2 ((Lexer.pairwise_column_view _ _ _).imp ?_)
  intro a b h
  exact .inr ⟨rfl, h⟩

namespace Document

/-! ### Scanning in parts -/

/-- The context after some rows, which is the one before them if there are none. -/
def contextFrom (entry : Context) (rows : List Row) : Context :=
  (rows.getLast?.map Row.exit).getD entry

@[simp] theorem contextFrom_nil (entry : Context) : contextFrom entry [] = entry := rfl

@[simp] theorem contextFrom_cons (entry : Context) (row : Row) (rows : List Row) :
    contextFrom entry (row :: rows) = contextFrom row.exit rows := by
  simp only [contextFrom, List.getLast?_cons, Option.map_some, Option.getD_some]
  cases rows.getLast? <;> rfl

/-- The context after some rows and then others. -/
theorem contextFrom_append (entry : Context) (above below : List Row) :
    contextFrom entry (above ++ below) = contextFrom (contextFrom entry above) below := by
  induction above generalizing entry with
  | nil => rfl
  | cons row rest ih => simp [ih]

/-- From the top of a text, the context after some rows needs no start. -/
theorem contextAfter_eq (rows : List Row) : contextAfter rows = contextFrom {} rows := rfl

@[simp] theorem length_scanLines (s : Scheme) (line : Nat) (entry : Context)
    (texts : List String) : (scanLines s line entry texts).length = texts.length := by
  induction texts generalizing line entry with
  | nil => rfl
  | cons text rest ih => simp [scanLines, ih]

/-- **A text is scanned in parts**, each from the context in which the one before it ends. -/
theorem scanLines_append (s : Scheme) (line : Nat) (entry : Context) (above below : List String) :
    scanLines s line entry (above ++ below) =
      scanLines s line entry above ++
        scanLines s (line + above.length) (contextFrom entry (scanLines s line entry above))
          below := by
  induction above generalizing line entry with
  | nil => rfl
  | cons text rest ih =>
      have hline : line + 1 + rest.length = line + (text :: rest).length := by
        rw [List.length_cons]
        omega
      simp only [List.cons_append, scanLines, ih, contextFrom_cons, hline]

/-- The first rows are those of the first lines. -/
theorem take_scanLines (s : Scheme) (line : Nat) (entry : Context) (texts : List String)
    (n : Nat) : (scanLines s line entry texts).take n = scanLines s line entry (texts.take n) := by
  induction texts generalizing line entry n with
  | nil => simp [scanLines]
  | cons text rest ih =>
      cases n with
      | zero => rfl
      | succ n => simp only [scanLines, List.take_succ_cons, ih]

/-- The other rows are those of the other lines, from the context in which the first end. -/
theorem drop_scanLines (s : Scheme) (line : Nat) (entry : Context) (texts : List String) {n : Nat}
    (h : n ≤ texts.length) :
    (scanLines s line entry texts).drop n =
      scanLines s (line + n) (contextFrom entry (scanLines s line entry (texts.take n)))
        (texts.drop n) := by
  have hlen : (texts.take n).length = n := List.length_take_of_le h
  have happend := scanLines_append s line entry (texts.take n) (texts.drop n)
  rw [List.take_append_drop, hlen] at happend
  rw [happend]
  exact List.drop_left' (by rw [length_scanLines, hlen])

/-- A row is the scan of its line, from the context in which the lines above end. -/
theorem getElem?_scanLines (s : Scheme) (line : Nat) (entry : Context) (texts : List String)
    (k : Nat) : (scanLines s line entry texts)[k]? = texts[k]?.map
      (Row.scan s (line + k) (contextFrom entry (scanLines s line entry (texts.take k)))) := by
  induction texts generalizing line entry k with
  | nil => rfl
  | cons text rest ih =>
      cases k with
      | zero => rfl
      | succ k =>
          have hline : line + 1 + k = line + (k + 1) := by omega
          simp only [scanLines, List.getElem?_cons_succ, List.take_succ_cons, contextFrom_cons, ih,
            hline]

/-- The lines down to a row end in the context in which the row ends. -/
theorem contextFrom_take_succ {s : Scheme} {line k : Nat} {entry : Context} {texts : List String}
    {row : Row} (h : (scanLines s line entry texts)[k]? = some row) :
    contextFrom entry (scanLines s line entry (texts.take (k + 1))) = row.exit := by
  rw [← take_scanLines, List.take_add_one, h, contextFrom_append]
  rfl

/-- Each row stands between what the lines above it end in and what the lines down to it end in. -/
theorem exists_scan_of_mem {s : Scheme} {line : Nat} {entry : Context} {texts : List String}
    {row : Row} (h : row ∈ scanLines s line entry texts) :
    ∃ k text,
      row = Row.scan s (line + k) (contextFrom entry (scanLines s line entry (texts.take k))) text ∧
        row.exit = contextFrom entry (scanLines s line entry (texts.take (k + 1))) := by
  obtain ⟨k, hk⟩ := List.mem_iff_getElem?.1 h
  have hexit := contextFrom_take_succ hk
  rw [getElem?_scanLines] at hk
  obtain ⟨text, -, hrow⟩ := Option.map_eq_some_iff.1 hk
  exact ⟨k, text, hrow.symm, hexit.symm⟩

/-! ### The brackets of a text -/

/-- A bracket of some lines stands on one of them. -/
theorem line_of_mem_scanLines {s : Scheme} {line : Nat} {entry : Context} {texts : List String}
    {b : Bracket} (h : b ∈ (scanLines s line entry texts).flatMap Row.brackets) :
    line ≤ b.position.line ∧ b.position.line < line + texts.length := by
  induction texts generalizing line entry with
  | nil => exact absurd h List.not_mem_nil
  | cons text rest ih =>
      rw [scanLines, List.flatMap_cons, List.mem_append] at h
      rw [List.length_cons]
      rcases h with h | h
      · have := Row.line_of_mem_scan h
        omega
      · have := ih h
        omega

/-- **The brackets of a text stand in text order.** -/
theorem before_scanLines (s : Scheme) (line : Nat) (entry : Context) (texts : List String) :
    (((scanLines s line entry texts).flatMap Row.brackets).map Bracket.position).Pairwise
      Position.Before := by
  induction texts generalizing line entry with
  | nil => exact .nil
  | cons text rest ih =>
      rw [scanLines, List.flatMap_cons, List.map_append]
      refine List.pairwise_append.2 ⟨Row.before_scan s line entry text, ih _ _, ?_⟩
      intro p hp q hq
      obtain ⟨a, ha, rfl⟩ := List.mem_map.1 hp
      obtain ⟨b, hb, rfl⟩ := List.mem_map.1 hq
      have ha := Row.line_of_mem_scan ha
      have hb := (line_of_mem_scanLines hb).1
      exact .inl (by omega)

end Document

end BracketTint
