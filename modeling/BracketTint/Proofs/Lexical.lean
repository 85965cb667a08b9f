import BracketTint.Region
import Mathlib.Data.Nat.Find

/-!
# What Is Code

`Region.view` passes over a line character by character and keeps a small state. This module says
what it finds without any state, by looking at the line as a whole:

* `//` hides the rest of the line;
* a comment that starts with `/*` ends just after the first `*/` that lies wholly behind the start;
* a string ends at the first quote of its kind that is not escaped, and a quote is escaped if an
  odd number of backslashes stands directly before it;
* a comment or a string that has no end on the line is passed on to the next line, and one that is
  passed on from the line before goes on at the first column.

`Lexed text region column glyphs exit` puts this together: if the line is in `region` at `column`,
these characters are visible from there on, and the line ends in `exit`. A comment or a string is
passed over in one step, up to its end.

## Main results

* `Lexed.viewAt_eq` — reading with the state agrees with what `Lexed` says;
* `exists_lexed` — `Lexed` says something about every line, so the two are the same (`lexed_iff`).
-/

namespace BracketTint

variable {text : List Char} {column : Nat} {c : Char}

/-! ### Ends of comments and strings -/

/-- Whether an odd number of backslashes stands directly before a column. -/
def escapedAt (text : List Char) (column : Nat) : Bool :=
  ((text.take column).reverse.takeWhile (· == '\\')).length % 2 == 1

/-- At the column stands `*/`. -/
def ClosesComment (text : List Char) (column : Nat) : Prop :=
  text[column]? = some '*' ∧ text[column + 1]? = some '/'

/-- At the column stands a quote that is not escaped. -/
def ClosesString (text : List Char) (quote : Char) (column : Nat) : Prop :=
  text[column]? = some quote ∧ escapedAt text column = false

/-- `stop` is the first column with a property, from `column` on. -/
structure FirstAt (p : Nat → Prop) (column stop : Nat) : Prop where
  le : column ≤ stop
  holds : p stop
  least : ∀ i, column ≤ i → i < stop → ¬p i

/-- What is visible of a line from a column on, where the line is in a region, and the region in
which the line ends. -/
inductive Lexed (text : List Char) : Region → Nat → List Glyph → Region → Prop where
  /-- The line ends in code. -/
  | finish {column : Nat} (hend : text.length ≤ column) : Lexed text .code column [] .code
  /-- A character that is neither a quote nor the start of a comment is visible. -/
  | visible {column : Nat} {c : Char} {glyphs : List Glyph} {exit : Region}
      (hc : text[column]? = some c) (hquote : c ∉ ['"', '\'', '\x60'])
      (hcomment : c = '/' → text[column + 1]? ≠ some '/' ∧ text[column + 1]? ≠ some '*')
      (hrest : Lexed text .code (column + 1) glyphs exit) :
      Lexed text .code column (⟨column, c⟩ :: glyphs) exit
  /-- An escaped quote starts nothing, but is not visible. -/
  | escaped {column : Nat} {c : Char} {glyphs : List Glyph} {exit : Region}
      (hc : text[column]? = some c) (hquote : c ∈ ['"', '\'', '\x60'])
      (hescaped : escapedAt text column = true)
      (hrest : Lexed text .code (column + 1) glyphs exit) : Lexed text .code column glyphs exit
  | startString {column : Nat} {c : Char} {glyphs : List Glyph} {exit : Region}
      (hc : text[column]? = some c) (hquote : c ∈ ['"', '\'', '\x60'])
      (hescaped : escapedAt text column = false)
      (hrest : Lexed text (.string c) (column + 1) glyphs exit) :
      Lexed text .code column glyphs exit
  | endString {quote : Char} {column stop : Nat} {glyphs : List Glyph} {exit : Region}
      (hstop : FirstAt (ClosesString text quote) column stop)
      (hrest : Lexed text .code (stop + 1) glyphs exit) :
      Lexed text (.string quote) column glyphs exit
  /-- The string goes on in the next line. -/
  | keepString {quote : Char} {column : Nat}
      (hnone : ∀ i, column ≤ i → ¬ClosesString text quote i) :
      Lexed text (.string quote) column [] (.string quote)
  | startComment {column : Nat} {glyphs : List Glyph} {exit : Region}
      (hslash : text[column]? = some '/') (hstar : text[column + 1]? = some '*')
      (hrest : Lexed text .blockComment (column + 2) glyphs exit) :
      Lexed text .code column glyphs exit
  | endComment {column stop : Nat} {glyphs : List Glyph} {exit : Region}
      (hstop : FirstAt (ClosesComment text) column stop)
      (hrest : Lexed text .code (stop + 2) glyphs exit) :
      Lexed text .blockComment column glyphs exit
  /-- The comment goes on in the next line. -/
  | keepComment {column : Nat} (hnone : ∀ i, column ≤ i → ¬ClosesComment text i) :
      Lexed text .blockComment column [] .blockComment
  | startLineComment {column : Nat} (hslash : text[column]? = some '/')
      (hslash' : text[column + 1]? = some '/') : Lexed text .code column [] .lineComment
  /-- A line comment hides all. -/
  | lineComment {column : Nat} : Lexed text .lineComment column [] .lineComment

theorem FirstAt.next {p : Nat → Prop} {stop : Nat} (h : FirstAt p column stop)
    (hne : column ≠ stop) : FirstAt p (column + 1) stop where
  le := by have hle := h.le; omega
  holds := h.holds
  least i hi := h.least i (by omega)

/-- If a property holds somewhere from a column on, there is a first such place. -/
theorem exists_firstAt {p : Nat → Prop} (h : ∃ i, column ≤ i ∧ p i) :
    ∃ stop, FirstAt p column stop := by
  classical
  obtain ⟨hle, hp⟩ := Nat.find_spec h
  exact ⟨Nat.find h, hle, hp, fun i hi hlt hpi => Nat.find_min h hlt ⟨hi, hpi⟩⟩

theorem escapedAt_zero (text : List Char) : escapedAt text 0 = false := by
  simp [escapedAt]

/-- A character is escaped if the one before is a backslash that is not escaped itself. -/
theorem escapedAt_succ (h : text[column]? = some c) :
    escapedAt text (column + 1) = (c == '\\' && !escapedAt text column) := by
  rw [escapedAt, escapedAt, List.take_add_one, h, Option.toList_some, List.reverse_append]
  by_cases hc : c = '\\'
  · subst hc
    simp only [List.reverse_cons, List.reverse_nil, List.nil_append, List.singleton_append,
      List.takeWhile_cons, beq_self_eq_true, if_true, List.length_cons, Bool.true_and]
    generalize (List.takeWhile (· == '\\') (text.take column).reverse).length = run
    rcases Nat.mod_two_eq_zero_or_one run with hrun | hrun <;> simp [hrun, Nat.add_mod]
  · simp [hc]

/-! ### Reading at a column -/

/-- Reads a line from a column on. -/
def Lexer.viewAt (s : Lexer) (text : List Char) (column : Nat) : View :=
  s.view column (text.drop column)

/-- The state in which a line is read at a column, where it is in a region. -/
def Lexer.within (text : List Char) (region : Region) (column : Nat) : Lexer :=
  match region with
  | .code | .string _ => { region, escaped := escapedAt text column }
  | .lineComment | .blockComment => { region }

namespace Lexer

variable {s : Lexer}

theorem viewAt_of_length_le (s : Lexer) (h : text.length ≤ column) :
    s.viewAt text column = ⟨[], s.region⟩ := by
  rw [viewAt, List.drop_eq_nil_of_le h, view]

/-- Reading one character. -/
theorem viewAt_of_getElem? (s : Lexer) (h : text[column]? = some c) :
    s.viewAt text column =
      let later := (s.step c text[column + 1]?).viewAt text (column + 1)
      if s.shows c text[column + 1]? then { later with glyphs := ⟨column, c⟩ :: later.glyphs }
      else later := by
  obtain ⟨hlt, rfl⟩ := List.getElem?_eq_some_iff.1 h
  rw [viewAt, List.drop_eq_getElem_cons hlt, view, List.head?_drop]
  rfl

/-- Reading a character that is not visible. -/
theorem viewAt_of_hidden (h : text[column]? = some c)
    (hhidden : s.shows c text[column + 1]? = false) :
    s.viewAt text column = (s.step c text[column + 1]?).viewAt text (column + 1) := by
  rw [viewAt_of_getElem? s h]
  simp [hhidden]

/-- **Passing over.** If no character is visible and the states follow a path as long as a property
does not hold, then reading passes over all that comes before the property first holds. -/
theorem viewAt_of_firstAt {p : Nat → Prop} {path : Nat → Lexer} {stop : Nat}
    (hpath : ∀ i c, text[i]? = some c → ¬p i → (path i).shows c text[i + 1]? = false ∧
      (path i).step c text[i + 1]? = path (i + 1))
    (hstop : stop ≤ text.length) (hfirst : FirstAt p column stop) :
    (path column).viewAt text column = (path stop).viewAt text stop := by
  induction hn : stop - column generalizing column with
  | zero =>
      have hle := hfirst.le
      obtain rfl : column = stop := by omega
      rfl
  | succ n ih =>
      have hlt : column < text.length := by omega
      have hc : text[column]? = some text[column] := List.getElem?_eq_getElem hlt
      obtain ⟨hhidden, hstep⟩ := hpath column _ hc (hfirst.least column (Nat.le_refl _) (by omega))
      rw [viewAt_of_hidden hc hhidden, hstep]
      exact ih (hfirst.next (by omega)) (by omega)

/-- If the property never holds, reading passes over the rest of the line. -/
theorem viewAt_of_forall_not {p : Nat → Prop} {path : Nat → Lexer} {region : Region}
    (hpath : ∀ i c, text[i]? = some c → ¬p i → (path i).shows c text[i + 1]? = false ∧
      (path i).step c text[i + 1]? = path (i + 1))
    (hregion : ∀ i, (path i).region = region) (hnone : ∀ i, column ≤ i → ¬p i) :
    (path column).viewAt text column = ⟨[], region⟩ := by
  induction hn : text.length - column generalizing column with
  | zero => rw [viewAt_of_length_le _ (by omega), hregion]
  | succ n ih =>
      have hlt : column < text.length := by omega
      have hc : text[column]? = some text[column] := List.getElem?_eq_getElem hlt
      obtain ⟨hhidden, hstep⟩ := hpath column _ hc (hnone column (Nat.le_refl _))
      rw [viewAt_of_hidden hc hhidden, hstep]
      exact ih (fun i hi => hnone i (by omega)) (by omega)

/-- The path through a comment. -/
theorem path_comment (i : Nat) (c : Char) (hc : text[i]? = some c)
    (hopen : ¬ClosesComment text i) :
    (Lexer.within text .blockComment i).shows c text[i + 1]? = false ∧
      (Lexer.within text .blockComment i).step c text[i + 1]? =
        .within text .blockComment (i + 1) := by
  refine ⟨by simp [within, shows], ?_⟩
  have hmark : (c == '*' && text[i + 1]? == some '/') = false := by
    rw [Bool.eq_false_iff]
    intro hmark
    obtain ⟨hstar, hslash⟩ := Bool.and_eq_true_iff.1 hmark
    exact hopen ⟨eq_of_beq hstar ▸ hc, eq_of_beq hslash⟩
  simp [within, step, hmark]

/-- The path through a string. -/
theorem path_string {quote : Char} (i : Nat) (c : Char) (hc : text[i]? = some c)
    (hopen : ¬ClosesString text quote i) :
    (Lexer.within text (.string quote) i).shows c text[i + 1]? = false ∧
      (Lexer.within text (.string quote) i).step c text[i + 1]? =
        .within text (.string quote) (i + 1) := by
  refine ⟨by simp [within, shows], ?_⟩
  have hend : (c == quote && !escapedAt text i) = false := by
    rw [Bool.eq_false_iff]
    intro hend
    obtain ⟨hquote, hescaped⟩ := Bool.and_eq_true_iff.1 hend
    exact hopen ⟨eq_of_beq hquote ▸ hc, by simpa using hescaped⟩
  simp [within, step, hend, escapedAt_succ hc]

/-- A comment is passed over up to its end. -/
theorem viewAt_comment {stop : Nat} (h : FirstAt (ClosesComment text) column stop) :
    (Lexer.within text .blockComment column).viewAt text column =
      (Lexer.within text .code (stop + 2)).viewAt text (stop + 2) := by
  obtain ⟨hstar, hslash⟩ := h.holds
  have hlt : stop < text.length := (List.getElem?_eq_some_iff.1 hstar).1
  rw [viewAt_of_firstAt path_comment (Nat.le_of_lt hlt) h,
    viewAt_of_hidden hstar (by simp [within, shows]),
    viewAt_of_hidden hslash (by simp [within, step, hslash, shows])]
  simp [within, step, hslash, escapedAt_succ hslash]

/-- A string is passed over up to its end. -/
theorem viewAt_string {quote : Char} {stop : Nat}
    (h : FirstAt (ClosesString text quote) column stop) :
    (Lexer.within text (.string quote) column).viewAt text column =
      (Lexer.within text .code (stop + 1)).viewAt text (stop + 1) := by
  obtain ⟨hquote, hescaped⟩ := h.holds
  have hlt : stop < text.length := (List.getElem?_eq_some_iff.1 hquote).1
  rw [viewAt_of_firstAt path_string (Nat.le_of_lt hlt) h,
    viewAt_of_hidden hquote (by simp [within, shows])]
  simp [within, step, hescaped, escapedAt_succ hquote]

/-- A line comment is passed over up to the end of the line. -/
theorem viewAt_lineComment (text : List Char) (column : Nat) :
    (Lexer.within text .lineComment column).viewAt text column = ⟨[], .lineComment⟩ := by
  have hpath (i : Nat) (c : Char) (_ : text[i]? = some c) (_ : ¬False) :
      (Lexer.within text .lineComment i).shows c text[i + 1]? = false ∧
        (Lexer.within text .lineComment i).step c text[i + 1]? =
          .within text .lineComment (i + 1) := by
    simp [within, shows, step]
  exact viewAt_of_forall_not hpath (fun _ => rfl) (fun _ _ => id)

/-- In code, a character that starts no comment either starts a string or does not. -/
theorem step_code (hc : text[column]? = some c)
    (hmark : startsComment c text[column + 1]? = false) :
    (Lexer.within text .code column).step c text[column + 1]? =
      .within text (if Region.isQuote c && !escapedAt text column then .string c else .code)
        (column + 1) := by
  rw [startsComment, Bool.and_or_distrib_left, Bool.or_eq_false_iff] at hmark
  obtain ⟨hline, hblock⟩ := hmark
  cases hstarts : Region.isQuote c && !escapedAt text column <;>
    simp only [within, step, hline, hblock, hstarts, Bool.false_eq_true, if_false, if_true,
      escapedAt_succ hc]

theorem startsComment_of_isQuote (hquote : Region.isQuote c = true) (next : Option Char) :
    startsComment c next = false := by
  have hne : c ≠ '/' := by
    rintro rfl
    exact absurd hquote (by decide)
  simp [startsComment, hne]

end Lexer

/-! ### Both agree -/

/-- **Reading with a state finds what is code.** -/
theorem Lexed.viewAt_eq {region exit : Region} {glyphs : List Glyph}
    (h : Lexed text region column glyphs exit) :
    (Lexer.within text region column).viewAt text column = ⟨glyphs, exit⟩ := by
  induction h with
  | finish hend => exact Lexer.viewAt_of_length_le _ hend
  | @visible column c glyphs exit hc hquote hcomment hrest ih =>
      rw [← Region.isQuote_iff, Bool.not_eq_true] at hquote
      have hmark : Lexer.startsComment c text[column + 1]? = false := by
        by_cases hslash : c = '/'
        · simp [Lexer.startsComment, hcomment hslash]
        · simp [Lexer.startsComment, hslash]
      have hshows : (Lexer.within text .code column).shows c text[column + 1]? = true := by
        simp [Lexer.within, Lexer.shows, hmark, hquote]
      rw [Lexer.viewAt_of_getElem? _ hc, Lexer.step_code hc hmark]
      simp [hshows, hquote, ih]
  | @escaped column c glyphs exit hc hquote hescaped hrest ih =>
      rw [← Region.isQuote_iff] at hquote
      have hmark := Lexer.startsComment_of_isQuote hquote text[column + 1]?
      have hhidden : (Lexer.within text .code column).shows c text[column + 1]? = false := by
        simp [Lexer.shows, hquote]
      rw [Lexer.viewAt_of_hidden hc hhidden, Lexer.step_code hc hmark]
      simp [hescaped, ih]
  | @startString column c glyphs exit hc hquote hescaped hrest ih =>
      rw [← Region.isQuote_iff] at hquote
      have hmark := Lexer.startsComment_of_isQuote hquote text[column + 1]?
      have hhidden : (Lexer.within text .code column).shows c text[column + 1]? = false := by
        simp [Lexer.shows, hquote]
      rw [Lexer.viewAt_of_hidden hc hhidden, Lexer.step_code hc hmark]
      simp [hquote, hescaped, ih]
  | endString hstop hrest ih => rw [Lexer.viewAt_string hstop, ih]
  | keepString hnone =>
      exact Lexer.viewAt_of_forall_not Lexer.path_string (fun i => rfl) hnone
  | @startComment column glyphs exit hslash hstar hrest ih =>
      rw [Lexer.viewAt_of_hidden hslash (by simp [Lexer.shows, Lexer.startsComment, hstar]),
        Lexer.viewAt_of_hidden hstar (by simp [Lexer.within, Lexer.step, hstar, Lexer.shows]), ← ih]
      simp [Lexer.within, Lexer.step, hstar]
  | endComment hstop hrest ih => rw [Lexer.viewAt_comment hstop, ih]
  | keepComment hnone =>
      exact Lexer.viewAt_of_forall_not Lexer.path_comment (fun i => rfl) hnone
  | @startLineComment column hslash hslash' =>
      rw [Lexer.viewAt_of_hidden hslash (by simp [Lexer.shows, Lexer.startsComment, hslash']),
        ← Lexer.viewAt_lineComment text (column + 1)]
      simp [Lexer.within, Lexer.step, hslash']
  | lineComment => exact Lexer.viewAt_lineComment text _

/-- In code, the character at hand says how the line goes on. -/
theorem exists_lexed_code
    (hlater : ∀ region column', column < column' → column < text.length →
      ∃ glyphs exit, Lexed text region column' glyphs exit) :
    ∃ glyphs exit, Lexed text .code column glyphs exit := by
  rcases Nat.lt_or_ge column text.length with hlt | hend
  · have hc : text[column]? = some text[column] := List.getElem?_eq_getElem hlt
    generalize text[column] = c at hc
    by_cases hquote : c ∈ ['"', '\'', '\x60']
    · cases hescaped : escapedAt text column with
      | true =>
          obtain ⟨glyphs, exit, hrest⟩ := hlater .code (column + 1) (by omega) hlt
          exact ⟨glyphs, exit, .escaped hc hquote hescaped hrest⟩
      | false =>
          obtain ⟨glyphs, exit, hrest⟩ := hlater (.string c) (column + 1) (by omega) hlt
          exact ⟨glyphs, exit, .startString hc hquote hescaped hrest⟩
    · by_cases hline : c = '/' ∧ text[column + 1]? = some '/'
      · exact ⟨_, _, .startLineComment (hline.1 ▸ hc) hline.2⟩
      · by_cases hblock : c = '/' ∧ text[column + 1]? = some '*'
        · obtain ⟨glyphs, exit, hrest⟩ := hlater .blockComment (column + 2) (by omega) hlt
          exact ⟨glyphs, exit, .startComment (hblock.1 ▸ hc) hblock.2 hrest⟩
        · obtain ⟨glyphs, exit, hrest⟩ := hlater .code (column + 1) (by omega) hlt
          exact ⟨_, exit, .visible hc hquote
            (fun hslash => ⟨fun h => hline ⟨hslash, h⟩, fun h => hblock ⟨hslash, h⟩⟩) hrest⟩
  · exact ⟨_, _, .finish hend⟩

/-- **Something is said about every line**, in whatever region it starts. -/
theorem exists_lexed (text : List Char) (region : Region) (column : Nat) :
    ∃ glyphs exit, Lexed text region column glyphs exit := by
  induction hn : text.length - column using Nat.strong_induction_on generalizing region column with
  | _ n ih =>
      cases region with
      | lineComment => exact ⟨_, _, .lineComment⟩
      | blockComment =>
          by_cases hclosed : ∃ i, column ≤ i ∧ ClosesComment text i
          · obtain ⟨stop, hstop⟩ := exists_firstAt hclosed
            have hle := hstop.le
            have hlt := (List.getElem?_eq_some_iff.1 hstop.holds.2).1
            obtain ⟨glyphs, exit, hrest⟩ := ih _ (by omega) .code (stop + 2) rfl
            exact ⟨glyphs, exit, .endComment hstop hrest⟩
          · exact ⟨_, _, .keepComment fun i hi hcloses => hclosed ⟨i, hi, hcloses⟩⟩
      | string quote =>
          by_cases hclosed : ∃ i, column ≤ i ∧ ClosesString text quote i
          · obtain ⟨stop, hstop⟩ := exists_firstAt hclosed
            have hle := hstop.le
            have hlt := (List.getElem?_eq_some_iff.1 hstop.holds.1).1
            obtain ⟨glyphs, exit, hrest⟩ := ih _ (by omega) .code (stop + 1) rfl
            exact ⟨glyphs, exit, .endString hstop hrest⟩
          · exact ⟨_, _, .keepString fun i hi hcloses => hclosed ⟨i, hi, hcloses⟩⟩
      | code =>
          exact exists_lexed_code fun region column' hlt hlt' =>
            ih _ (by omega) region column' rfl

/-- Reading a line finds exactly what is code, and nothing else is said about it. -/
theorem lexed_iff {region exit : Region} {glyphs : List Glyph} :
    Lexed text region 0 glyphs exit ↔ region.view text = ⟨glyphs, exit⟩ := by
  have hstart : Lexer.within text region 0 = { region } := by
    cases region <;> simp [Lexer.within, escapedAt_zero]
  have hview : region.view text = (Lexer.within text region 0).viewAt text 0 := by
    rw [hstart]
    rfl
  rw [hview]
  refine ⟨Lexed.viewAt_eq, fun h => ?_⟩
  obtain ⟨glyphs', exit', hlexed⟩ := exists_lexed text region 0
  have heq := hlexed.viewAt_eq.symm.trans h
  obtain ⟨rfl, rfl⟩ := View.mk.inj heq
  exact hlexed

end BracketTint
