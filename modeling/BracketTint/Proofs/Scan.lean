import BracketTint.Document.Basic
import BracketTint.Proofs.Lexical
import Mathlib.Logic.ExistsUnique

/-!
# What a Line Means

A line is scanned in two phases: the characters that are code are found (`Lexed`), and the brackets
among them are read from left to right (`Nests`). An opener goes on top of the open brackets, a
closer takes the innermost one if that belongs to the same pair, and a closer that does not fit is
stray and leaves all as it is. `Scanned` puts the phases together and says what the line passes on.

None of this can fail. Scanning can: where colors rotate, the place of an opener is the remembered
place plus one, taken modulo the length of the cycle only after the sum was formed. A context that
remembers the last word of all has no such sum (`Outgrows`).

## Main results

* `nests_iff` — reading brackets one by one gives what `Nests` says;
* `Row.scanFrom_eq_ok_iff_scanned` — each line has one meaning, and scanning finds it unless the
  line outgrows its words, in which case it faults;
* `Document.scanFrom_of_mem_parse` — no line of a document does, since the contexts within a
  document remember places of a cycle only.
-/

namespace BracketTint

variable {s : Scheme} {line : Nat} {n n' : Nest} {glyphs : List Glyph} {found : List Bracket}

/-! ### Brackets -/

/-- What the visible characters of a line mean: the brackets among them, and what is open and
remembered afterwards. -/
inductive Nests (s : Scheme) (line : Nat) : Nest → List Glyph → Nest → List Bracket → Prop where
  | nil {n : Nest} : Nests s line n [] n []
  /-- Other characters have no meaning. -/
  | other {n n' : Nest} {g : Glyph} {rest : List Glyph} {found : List Bracket}
      (hg : s.classify g.char = none) (hrest : Nests s line n rest n' found) :
      Nests s line n (g :: rest) n' found
  /-- An opener is innermost from then on, and its color is remembered. -/
  | opener {n n' : Nest} {g : Glyph} {rest : List Glyph} {found : List Bracket} {pair : Nat}
      (hg : s.classify g.char = some (pair, .opener))
      (hrest : Nests s line
        ⟨⟨pair, ⟨line, g.column⟩, s.openIndex n pair⟩ :: n.stack,
          s.remember n.memory pair (s.openIndex n pair)⟩ rest n' found) :
      Nests s line n (g :: rest) n'
        (⟨pair, .opener, ⟨line, g.column, g.column + 1⟩, n.stack.length + 1, s.openIndex n pair,
          .waiting⟩ :: found)
  /-- A closer takes the innermost open bracket, if that is of its pair. -/
  | matched {n' : Nest} {frame : Frame} {outer : List Frame} {memory : ColorMemory} {g : Glyph}
      {rest : List Glyph} {found : List Bracket}
      (hg : s.classify g.char = some (frame.pair, .closer))
      (hrest : Nests s line ⟨outer, memory⟩ rest n' found) :
      Nests s line ⟨frame :: outer, memory⟩ (g :: rest) n'
        (⟨frame.pair, .closer, ⟨line, g.column, g.column + 1⟩, outer.length + 1,
          s.closeIndex frame outer, .matched frame.position⟩ :: found)
  /-- Any other closer is stray. -/
  | stray {n n' : Nest} {g : Glyph} {rest : List Glyph} {found : List Bracket} {pair : Nat}
      (hg : s.classify g.char = some (pair, .closer))
      (hstack : ∀ frame ∈ n.stack.head?, frame.pair ≠ pair)
      (hrest : Nests s line n rest n' found) :
      Nests s line n (g :: rest) n'
        (⟨pair, .closer, ⟨line, g.column, g.column + 1⟩, n.stack.length, 0, .stray⟩ :: found)

/-- A closer that fits. -/
theorem Nest.leave_of_pair {frame : Frame} {outer : List Frame} {memory : ColorMemory}
    (p : Position) : Nest.leave s ⟨frame :: outer, memory⟩ frame.pair p =
      (⟨outer, memory⟩, ⟨frame.pair, .closer, ⟨p.line, p.column, p.column + 1⟩, outer.length + 1,
        s.closeIndex frame outer, .matched frame.position⟩) := by
  simp [Nest.leave]

/-- A closer that does not fit. -/
theorem Nest.leave_of_ne {pair : Nat} (hstack : ∀ frame ∈ n.stack.head?, frame.pair ≠ pair)
    (p : Position) : n.leave s pair p =
      (n, ⟨pair, .closer, ⟨p.line, p.column, p.column + 1⟩, n.stack.length, 0, .stray⟩) := by
  obtain ⟨stack, memory⟩ := n
  cases stack with
  | nil => rfl
  | cons frame outer => simp [Nest.leave, hstack frame rfl]

/-- Reading gives what the characters mean. -/
theorem Nests.read_eq (h : Nests s line n glyphs n' found) :
    n.read s line glyphs = (n', found) := by
  induction h with
  | nil => rfl
  | other hg hrest ih => simp only [Nest.read, hg, ih]
  | opener hg hrest ih => simp only [Nest.read, hg, Nest.meet, Nest.enter, ih]
  | matched hg hrest ih => simp only [Nest.read, hg, Nest.meet, Nest.leave_of_pair, ih]
  | stray hg hstack hrest ih => simp only [Nest.read, hg, Nest.meet, Nest.leave_of_ne hstack, ih]

/-- Any characters mean something. -/
theorem exists_nests (s : Scheme) (line : Nat) (n : Nest) (glyphs : List Glyph) :
    ∃ n' found, Nests s line n glyphs n' found := by
  induction glyphs generalizing n with
  | nil => exact ⟨n, [], .nil⟩
  | cons g rest ih =>
      rcases hg : s.classify g.char with _ | ⟨pair, side⟩
      · obtain ⟨n', found, hrest⟩ := ih n
        exact ⟨n', found, .other hg hrest⟩
      · cases side with
        | opener =>
            obtain ⟨n', found, hrest⟩ := ih _
            exact ⟨n', _, .opener hg hrest⟩
        | closer =>
            by_cases hstack : ∀ frame ∈ n.stack.head?, frame.pair ≠ pair
            · obtain ⟨n', found, hrest⟩ := ih n
              exact ⟨n', _, .stray hg hstack hrest⟩
            · obtain ⟨stack, memory⟩ := n
              cases stack with
              | nil => exact absurd (by simp) hstack
              | cons frame outer =>
                  obtain rfl : frame.pair = pair := by simpa using hstack
                  obtain ⟨n', found, hrest⟩ := ih ⟨outer, memory⟩
                  exact ⟨n', _, .matched hg hrest⟩

/-- **Reading brackets one by one gives exactly what they mean.** -/
theorem nests_iff : Nests s line n glyphs n' found ↔ n.read s line glyphs = (n', found) := by
  refine ⟨Nests.read_eq, fun h => ?_⟩
  obtain ⟨n₁, found₁, hnests⟩ := exists_nests s line n glyphs
  obtain ⟨rfl, rfl⟩ := Prod.mk.inj (hnests.read_eq.symm.trans h)
  exact hnests

/-! ### Openers beyond the last word -/

/-- The next place in the cycle of a pair is too large for a word. -/
theorem Scheme.overflows_iff {memory : ColorMemory} {pair : Nat} :
    s.overflows memory pair = true ↔
      s.rotate = true ∧ ∃ index, s.latest memory pair = some index ∧ Word.size ≤ index + 1 := by
  cases hlatest : s.latest memory pair <;> simp [Scheme.overflows, hlatest]

theorem Nest.read_cons_fst (n : Nest) (g : Glyph) (rest : List Glyph) :
    (n.read s line (g :: rest)).1 = ((n.read s line [g]).1.read s line rest).1 := by
  rcases hg : s.classify g.char with _ | ⟨pair, side⟩ <;> simp only [Nest.read, hg]

/-- Reading overflows at once or later. -/
theorem Nest.overflows_cons (n : Nest) (g : Glyph) (rest : List Glyph) :
    n.overflows s line (g :: rest) = true ↔
      (∃ pair, s.classify g.char = some (pair, .opener) ∧ s.overflows n.memory pair = true) ∨
        (n.read s line [g]).1.overflows s line rest = true := by
  rcases hg : s.classify g.char with _ | ⟨pair, side⟩
  · simp [Nest.overflows, Nest.read, hg]
  · cases side <;> simp [Nest.overflows, Nest.read, hg]

/-- Reading overflows at an opener for which there is no next place. -/
theorem Nest.overflows_iff : n.overflows s line glyphs = true ↔
    ∃ before g after pair, glyphs = before ++ g :: after ∧
      s.classify g.char = some (pair, .opener) ∧
      s.overflows (n.read s line before).1.memory pair = true := by
  induction glyphs generalizing n with
  | nil => simp [Nest.overflows]
  | cons g rest ih =>
      rw [Nest.overflows_cons, ih]
      constructor
      · rintro (⟨pair, hg, hover⟩ | ⟨before, g', after, pair, rfl, hg, hover⟩)
        · exact ⟨[], g, rest, pair, rfl, hg, hover⟩
        · exact ⟨g :: before, g', after, pair, rfl, hg, by rwa [Nest.read_cons_fst]⟩
      · rintro ⟨before, g', after, pair, hglyphs, hg, hover⟩
        cases before with
        | nil =>
            obtain ⟨rfl, rfl⟩ := List.cons.inj hglyphs
            exact .inl ⟨pair, hg, hover⟩
        | cons first before =>
            obtain ⟨rfl, rfl⟩ := List.cons.inj hglyphs
            rw [Nest.read_cons_fst] at hover
            exact .inr ⟨before, g', after, pair, rfl, hg, hover⟩

/-- **Choosing a color** without a line is what reading an opener does. It faults exactly if reading
that opener alone overflows, and otherwise gives the color of the opener and what is remembered
after it. -/
theorem Scheme.choose_eq {g : Glyph} {pair : Nat} (hg : s.classify g.char = some (pair, .opener))
    (n : Nest) (line : Nat) :
    s.choose n pair =
      if n.overflows s line [g] = true then .error .addOverflow
      else .ok ((n.enter s pair ⟨line, g.column⟩).2.color,
        (n.enter s pair ⟨line, g.column⟩).1.memory) := by
  have hover : n.overflows s line [g] = s.overflows n.memory pair := by
    simp [Nest.overflows, hg]
  rw [hover]
  rfl

/-! ### Lines -/

/-- **What a line means**: the brackets among what is code, and what it passes on. A line comment
ends with the line, and any other region goes on in the next line. -/
def Scanned (s : Scheme) (line : Nat) (entry : Context) (text : String) (row : Row) : Prop :=
  ∃ glyphs region nest found, Lexed text.toList entry.region 0 glyphs region ∧
    Nests s line entry.nest glyphs nest found ∧
    row = ⟨entry, found, ⟨if region = .lineComment then .code else region, nest⟩⟩

/-- Colors rotate, and at some opener the last word is remembered. -/
def Outgrows (s : Scheme) (line : Nat) (entry : Context) (text : String) : Prop :=
  s.rotate = true ∧ ∃ before g after region nest found pair index,
    Lexed text.toList entry.region 0 (before ++ g :: after) region ∧
    Nests s line entry.nest before nest found ∧ s.classify g.char = some (pair, .opener) ∧
    s.latest nest.memory pair = some index ∧ Word.size ≤ index + 1

variable {entry : Context} {text : String} {row : Row}

/-- The scan of a line is its one meaning. -/
theorem scanned_iff : Scanned s line entry text row ↔ row = Row.scan s line entry text := by
  constructor
  · rintro ⟨glyphs, region, nest, found, hlexed, hnests, rfl⟩
    rw [Row.scan, lexed_iff.1 hlexed, nests_iff.1 hnests, Region.afterLine_eq]
  · rintro rfl
    refine ⟨(entry.region.view text.toList).glyphs, (entry.region.view text.toList).region, _, _,
      lexed_iff.2 rfl, nests_iff.2 rfl, ?_⟩
    rw [Row.scan, Region.afterLine_eq]

/-- A line outgrows its words if reading its brackets overflows. -/
theorem outgrows_iff : Outgrows s line entry text ↔
    entry.nest.overflows s line (entry.region.view text.toList).glyphs = true := by
  rw [Nest.overflows_iff]
  constructor
  · rintro ⟨hrotate, before, g, after, region, nest, found, pair, index, hlexed, hnests, hg, hindex⟩
    refine ⟨before, g, after, pair, ?_, hg, ?_⟩
    · rw [lexed_iff.1 hlexed]
    · rw [nests_iff.1 hnests]
      exact Scheme.overflows_iff.2 ⟨hrotate, index, hindex⟩
  · rintro ⟨before, g, after, pair, hglyphs, hg, hover⟩
    obtain ⟨hrotate, index, hindex⟩ := Scheme.overflows_iff.1 hover
    refine ⟨hrotate, before, g, after, (entry.region.view text.toList).region, _, _, pair, index,
      lexed_iff.2 ?_, nests_iff.2 rfl, hg, hindex⟩
    rw [← hglyphs]

/-- **Scanning finds what a line means.** Whatever the text, the line number, the context and the
scheme are, the line has one meaning. Scanning finds it if the line does not outgrow its words, and
otherwise, and only then, the sum for the next place in the cycle overflows. -/
theorem Row.scanFrom_eq_ok_iff_scanned (s : Scheme) (line : Nat) (entry : Context)
    (text : String) :
    (∃! row, Scanned s line entry text row) ∧
    (∀ row, Row.scanFrom s line entry text = .ok row ↔
      Scanned s line entry text row ∧ ¬Outgrows s line entry text) ∧
    ∀ fault, Row.scanFrom s line entry text = .error fault ↔
      fault = .addOverflow ∧ Outgrows s line entry text := by
  refine ⟨⟨_, scanned_iff.2 rfl, fun row => scanned_iff.1⟩, fun row => ?_, fun fault => ?_⟩
  · rw [scanned_iff, outgrows_iff, Row.scanFrom]
    split
    next hover => simp [hover]
    next hfits => simp [hfits, eq_comm]
  · rw [outgrows_iff, Row.scanFrom]
    split
    next hover => simp [hover, eq_comm]
    next hfits => simp [hfits]

/-- The last word has no next one, though there is a next place in a cycle of three. -/
example : Row.scanFrom ⟨[⟨'(', ')', ["a", "b", "c"], "d"⟩], .consecutive, false, true, 0⟩ 0
    ⟨.code, ⟨[], ⟨some 18446744073709551615, ∅⟩⟩⟩ "(" = .error .addOverflow := rfl

/-! ### Lines of documents -/

/-- Each remembered place has a next one among the words. -/
def ColorMemory.Fits (s : Scheme) (memory : ColorMemory) : Prop :=
  ∀ pair index, s.latest memory pair = some index → index + 1 < Word.size

namespace Scheme

/-- A palette that has its place in memory has fewer colors than there are words. -/
theorem cycleLength_lt (hpalettes : ∀ p ∈ s.pairs, p.palette.length < Word.size) (pair : Nat) :
    s.cycleLength pair < Word.size := by
  rw [cycleLength]
  split
  next p hp => exact Nat.max_lt.2 ⟨hpalettes p (List.mem_of_getElem? hp), by decide⟩
  next => decide

/-- The place of an opener lies within the cycle. -/
theorem openIndex_lt (s : Scheme) (n : Nest) (pair : Nat) :
    s.openIndex n pair < s.cycleLength pair := by
  have hpos := s.cycleLength_pos pair
  have hplain : s.plainIndex n pair < s.cycleLength pair := by
    rw [plainIndex]
    split
    · split
      · exact hpos
      · exact Nat.mod_lt _ hpos
    · exact Nat.mod_lt _ hpos
  rw [openIndex]
  split
  · exact Nat.mod_lt _ hpos
  · exact hplain

/-- A color that is remembered for a pair is the latest of its cycle, and of no other cycle. -/
theorem latest_remember (s : Scheme) (memory : ColorMemory) (pair other index : Nat) :
    s.latest (s.remember memory pair index) other =
      if s.remembers = true ∧ (s.scope = .independent → pair = other) then some index
      else s.latest memory other := by
  cases hremembers : s.remembers with
  | false => simp [remember, hremembers]
  | true =>
      cases hscope : s.scope with
      | consecutive => simp [latest, remember, hremembers, hscope]
      | independent =>
          simp [latest, remember, hremembers, hscope, Table.get?_insert, eq_comm]

end Scheme

/-- Reading remembers places of a cycle only. -/
theorem Nest.fits_read (hpalettes : ∀ p ∈ s.pairs, p.palette.length < Word.size)
    (h : n.memory.Fits s) (line : Nat) (glyphs : List Glyph) :
    (n.read s line glyphs).1.memory.Fits s := by
  obtain ⟨n', found, hnests⟩ := exists_nests s line n glyphs
  rw [hnests.read_eq]
  induction hnests with
  | nil => exact h
  | other hg hrest ih => exact ih h
  | @opener n n' g rest found pair hg hrest ih =>
      refine ih fun other index hindex => ?_
      rw [s.latest_remember] at hindex
      split at hindex
      · obtain rfl : s.openIndex n pair = index := Option.some.inj hindex
        have hlt := s.openIndex_lt n pair
        have hlength := Scheme.cycleLength_lt hpalettes pair
        omega
      · exact h other index hindex
  | matched hg hrest ih => exact ih h
  | stray hg hstack hrest ih => exact ih h

/-- From a context that remembers places of a cycle, scanning does not fault. -/
theorem Row.scanFrom_of_fits (hpalettes : ∀ p ∈ s.pairs, p.palette.length < Word.size)
    (h : entry.nest.memory.Fits s) (line : Nat) (text : String) :
    Row.scanFrom s line entry text = .ok (Row.scan s line entry text) := by
  rw [Row.scanFrom, if_neg]
  intro hover
  obtain ⟨before, g, after, pair, -, -, hover⟩ := Nest.overflows_iff.1 hover
  obtain ⟨-, index, hindex, hle⟩ := Scheme.overflows_iff.1 hover
  have hlt := Nest.fits_read hpalettes h line before pair index hindex
  omega

/-- Each line that is scanned from such a context on is scanned from such a context. -/
theorem Document.scanFrom_of_fits (hpalettes : ∀ p ∈ s.pairs, p.palette.length < Word.size)
    (h : entry.nest.memory.Fits s) {lines : List String} {i : Nat} (htext : lines[i]? = some text)
    (hrow : (scanLines s line entry lines)[i]? = some row) :
    Row.scanFrom s (line + i) row.entry text = .ok row := by
  induction lines generalizing line entry i with
  | nil => exact absurd htext (by simp)
  | cons first rest ih =>
      cases i with
      | zero =>
          obtain rfl : first = text := Option.some.inj htext
          obtain rfl : Row.scan s line entry first = row := Option.some.inj hrow
          exact Row.scanFrom_of_fits hpalettes h line first
      | succ i =>
          have hexit : (Row.scan s line entry first).exit.nest.memory.Fits s :=
            Nest.fits_read hpalettes h line _
          have hline : line + 1 + i = line + (i + 1) := by omega
          exact hline ▸ ih hexit htext hrow

/-- **No line of a document outgrows its words**: each row is what scanning its line from the
context at its start gives, without a fault. -/
theorem Document.scanFrom_of_mem_parse (hpalettes : ∀ p ∈ s.pairs, p.palette.length < Word.size)
    {lines : List String} {i : Nat} (htext : lines[i]? = some text)
    (hrow : (parse s lines).rows[i]? = some row) :
    Row.scanFrom s i row.entry text = .ok row := by
  have hfits : ({} : Context).nest.memory.Fits s := by
    intro pair index hindex
    have hnone : s.latest {} pair = none := by
      rw [Scheme.latest]
      split <;> rfl
    exact absurd (hnone.symm.trans hindex) (by simp)
  have hscan := scanFrom_of_fits hpalettes hfits htext hrow
  rwa [Nat.zero_add] at hscan

end BracketTint
