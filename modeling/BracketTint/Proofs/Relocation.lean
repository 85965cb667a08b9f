import BracketTint.Scan.Row

/-!
# Scanning and the Places of Brackets

Scanning a line looks at the text, at the region, at the pairs of the open brackets and at the
colors remembered. It never looks at where an open bracket stands: positions are only carried
along. So scanning commutes with any movement of positions that carries the line as a whole
(`Carries`), to another line or to the right, whatever it does to other lines. To scan the line in
its new place, from the context moved there, is to move the row that was scanned in the old place
(`Row.scan_relocate`), and one scan faults if and only if the other does (`Row.scanFrom_relocate`).

Two movements are of use: lines that move because lines above them come or go (`Shift.position`),
and text that moves to the right because other text is put in front of it (`Position.indent`).
-/

namespace BracketTint

/-! ### Movements -/

section Relocate

variable (move : Position → Position)

/-- Moves the partner of a bracket. -/
def Link.relocate : Link → Link
  | .matched p => .matched (move p)
  | l => l

/-- Moves the two ends of a span. -/
def Span.relocate (sp : Span) : Span :=
  ⟨(move ⟨sp.line, sp.start⟩).line, (move ⟨sp.line, sp.start⟩).column,
    (move ⟨sp.line, sp.stop⟩).column⟩

/-- Moves a bracket and its partner. -/
def Bracket.relocate (b : Bracket) : Bracket :=
  { b with span := b.span.relocate move, link := b.link.relocate move }

/-- Moves an open bracket. -/
def Frame.relocate (f : Frame) : Frame := { f with position := move f.position }

/-- Moves the open brackets. -/
def Nest.relocate (n : Nest) : Nest := { n with stack := n.stack.map (Frame.relocate move) }

/-- Moves the open brackets of a context. -/
def Context.relocate (c : Context) : Context := { c with nest := c.nest.relocate move }

/-- Moves a scanned line with all that it refers to. -/
def Row.relocate (r : Row) : Row :=
  { entry := r.entry.relocate move, brackets := r.brackets.map (Bracket.relocate move),
    exit := r.exit.relocate move }

/-- A movement carries the line `line` as a whole, to the line `target` and to the right by
`width`. -/
def Carries (line target width : Nat) : Prop :=
  ∀ column, move ⟨line, column⟩ = ⟨target, column + width⟩

end Relocate

/-- Moves a visible character to the right. -/
def Glyph.indent (width : Nat) (g : Glyph) : Glyph := { g with column := g.column + width }

@[simp] theorem Glyph.column_indent (width : Nat) (g : Glyph) :
    (g.indent width).column = g.column + width := rfl

@[simp] theorem Glyph.char_indent (width : Nat) (g : Glyph) : (g.indent width).char = g.char := rfl

/-- Moves what is visible of a line to the right. -/
def View.indent (width : Nat) (v : View) : View :=
  { v with glyphs := v.glyphs.map (Glyph.indent width) }

@[simp] theorem View.indent_zero (v : View) : v.indent 0 = v := by
  have hid : Glyph.indent 0 = id := rfl
  rw [View.indent, hid, List.map_id]

/-- Reading from a column further to the right shows the same characters there. -/
theorem Lexer.view_add (l : Lexer) (column width : Nat) (text : List Char) :
    l.view (column + width) text = (l.view column text).indent width := by
  induction text generalizing l column with
  | nil => rfl
  | cons c rest ih =>
      have hrest := ih (l.step c rest.head?) (column + 1)
      rw [Nat.add_right_comm] at hrest
      simp only [view, hrest]
      split <;> rfl

variable {move : Position → Position}

/-! ### Colors do not depend on positions -/

/-- The brackets that count for a cycle are counted by their pairs. -/
theorem Scheme.nesting_relocate (s : Scheme) (pair : Nat) (stack : List Frame) :
    s.nesting pair (stack.map (Frame.relocate move)) = s.nesting pair stack := by
  cases hs : s.scope with
  | consecutive => simp [Scheme.nesting, hs]
  | independent =>
      simp only [Scheme.nesting, hs, List.countP_map]
      rfl

/-- The color of an opener stays when the open brackets move. -/
theorem Scheme.openIndex_relocate (s : Scheme) (n : Nest) (pair : Nat) :
    s.openIndex (n.relocate move) pair = s.openIndex n pair := by
  have hplain : s.plainIndex (n.relocate move) pair = s.plainIndex n pair := by
    simp only [Scheme.plainIndex, Nest.relocate, nesting_relocate]
  simp only [Scheme.openIndex, hplain]
  rfl

/-- The color of a closer stays when the open brackets move. -/
theorem Scheme.closeIndex_relocate (s : Scheme) (frame : Frame) (rest : List Frame) :
    s.closeIndex (frame.relocate move) (rest.map (Frame.relocate move)) =
      s.closeIndex frame rest := by
  simp only [Scheme.closeIndex, nesting_relocate]
  rfl

/-! ### One bracket -/

section Carries

variable {line target width : Nat} (hcarries : Carries move line target width)

include hcarries

/-- The span of a bracket on the line goes along. -/
theorem Carries.span (column : Nat) : Span.relocate move ⟨line, column, column + 1⟩ =
    ⟨target, column + width, column + width + 1⟩ := by
  rw [Span.relocate, hcarries column, hcarries (column + 1), Nat.add_right_comm]

/-- Reading an opener commutes with the movement. -/
theorem Nest.enter_relocate (s : Scheme) (n : Nest) (pair column : Nat) :
    (n.relocate move).enter s pair ⟨target, column + width⟩ =
      ((n.enter s pair ⟨line, column⟩).1.relocate move,
        (n.enter s pair ⟨line, column⟩).2.relocate move) := by
  simp only [enter, Scheme.openIndex_relocate, Bracket.relocate, hcarries.span]
  simp [relocate, Frame.relocate, Link.relocate, hcarries column]

/-- Reading a closer commutes with the movement. -/
theorem Nest.leave_relocate (s : Scheme) (n : Nest) (pair column : Nat) :
    (n.relocate move).leave s pair ⟨target, column + width⟩ =
      ((n.leave s pair ⟨line, column⟩).1.relocate move,
        (n.leave s pair ⟨line, column⟩).2.relocate move) := by
  obtain ⟨stack, memory⟩ := n
  cases stack with
  | nil => simp [leave, relocate, Bracket.relocate, Link.relocate, hcarries.span]
  | cons frame rest =>
      simp only [leave, relocate, List.map_cons, Scheme.closeIndex_relocate]
      by_cases hpair : frame.pair = pair
      · simp [hpair, Frame.relocate, Bracket.relocate, Link.relocate, hcarries.span]
      · simp [hpair, Frame.relocate, Bracket.relocate, Link.relocate, hcarries.span]

/-- Reading a bracket commutes with the movement. -/
theorem Nest.meet_relocate (s : Scheme) (n : Nest) (pair : Nat) (side : Side) (column : Nat) :
    (n.relocate move).meet s pair side ⟨target, column + width⟩ =
      ((n.meet s pair side ⟨line, column⟩).1.relocate move,
        (n.meet s pair side ⟨line, column⟩).2.relocate move) := by
  cases side with
  | opener => exact n.enter_relocate hcarries s pair column
  | closer => exact n.leave_relocate hcarries s pair column

/-! ### One line -/

/-- Reading the visible characters of a line commutes with the movement. -/
theorem Nest.read_relocate (s : Scheme) (n : Nest) (glyphs : List Glyph) :
    (n.relocate move).read s target (glyphs.map (Glyph.indent width)) =
      ((n.read s line glyphs).1.relocate move,
        (n.read s line glyphs).2.map (Bracket.relocate move)) := by
  induction glyphs generalizing n with
  | nil => rfl
  | cons g rest ih =>
      cases hg : s.classify g.char with
      | none =>
          simp only [read, List.map_cons, Glyph.char_indent, hg]
          exact ih n
      | some found =>
          obtain ⟨pair, side⟩ := found
          simp only [read, List.map_cons, Glyph.char_indent, Glyph.column_indent, hg,
            n.meet_relocate hcarries, ih]

/-- A color overflows on the line in its new place if it does in the old one. -/
theorem Nest.overflows_relocate (s : Scheme) (n : Nest) (glyphs : List Glyph) :
    (n.relocate move).overflows s target (glyphs.map (Glyph.indent width)) =
      n.overflows s line glyphs := by
  induction glyphs generalizing n with
  | nil => rfl
  | cons g rest ih =>
      cases hg : s.classify g.char with
      | none =>
          simp only [overflows, List.map_cons, Glyph.char_indent, hg]
          exact ih n
      | some found =>
          obtain ⟨pair, side⟩ := found
          simp only [overflows, List.map_cons, Glyph.char_indent, Glyph.column_indent, hg,
            n.meet_relocate hcarries, ih]
          rfl

/-- **Scanning a line commutes with a movement that carries it.** The texts may differ, as long as
the same is visible of them. -/
theorem Row.scan_relocate {entry : Context} {text text' : String}
    (hview : entry.region.view text'.toList = (entry.region.view text.toList).indent width)
    (s : Scheme) : Row.scan s target (entry.relocate move) text' =
      (Row.scan s line entry text).relocate move := by
  have hread := entry.nest.read_relocate hcarries s (entry.region.view text.toList).glyphs
  simp only [Row.scan, Context.relocate, hview, View.indent, hread, Row.relocate]

/-- The same for a context of any origin: one scan faults if the other does. -/
theorem Row.scanFrom_relocate {entry : Context} {text text' : String}
    (hview : entry.region.view text'.toList = (entry.region.view text.toList).indent width)
    (s : Scheme) : Row.scanFrom s target (entry.relocate move) text' =
      (Row.scanFrom s line entry text).map (Row.relocate move) := by
  have hover := entry.nest.overflows_relocate hcarries s (entry.region.view text.toList).glyphs
  rw [Row.scanFrom, Row.scanFrom, Row.scan_relocate hcarries hview]
  simp only [Context.relocate, hview, View.indent, hover]
  split <;> rfl

end Carries

end BracketTint
