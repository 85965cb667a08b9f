import BracketTint.Proofs.Lexical
import BracketTint.Proofs.Relocation

/-!
# Strings and Comments Are Opaque

What stands in a string or in a comment has no effect on what is found around it, whatever it is:
brackets, other quotes, marks of comments, backslashes. A text that is one whole string or one whole
comment is `Concealed`. In front of the rest of a line it is passed over, and reading goes on behind
it as if the line started there (`Region.view_concealed`): in code, with no backslash before and no
mark begun. So all that is found stands further to the right, and else nothing changes.

That the end of the region is found at the right place is what `FirstAt` is for. Inside the text the
backslashes are counted from the first quote on, in the body alone, and the two counts agree because
a quote is no backslash (`escapedAt_cons`).

* `Row.scanFrom_concealed` — a concealed text in front of a line moves what is found to the right;
  a line inside a string or a comment that does not end on it changes nothing.
-/

namespace BracketTint

variable {text : List Char}

/-- A text that is one whole string or one whole comment. -/
inductive Concealed : List Char → Prop where
  /-- Each quote of the kind in a string is escaped, but the last one is not. -/
  | string {quote : Char} {body : List Char} (hquote : Region.isQuote quote = true)
      (hescaped : ∀ i, body[i]? = some quote → escapedAt body i = true)
      (hend : escapedAt body body.length = false) : Concealed (quote :: body ++ [quote])
  /-- A comment has no end mark in it but the last one. -/
  | comment {body : List Char} (hopen : ∀ i, ¬ClosesComment body i) :
      Concealed ('/' :: '*' :: body ++ ['*', '/'])

/-! ### Where strings and comments end -/

/-- What follows has no part in whether a column is escaped. -/
theorem escapedAt_append {i : Nat} (hi : i ≤ text.length) (rest : List Char) :
    escapedAt (text ++ rest) i = escapedAt text i := by
  rw [escapedAt, List.take_append_of_le_length hi, ← escapedAt]

/-- A first character that is no backslash has no part in it, either. -/
theorem escapedAt_cons {c : Char} (hc : c ≠ '\\') {i : Nat} (hi : i ≤ text.length) :
    escapedAt (c :: text) (i + 1) = escapedAt text i := by
  induction i with
  | zero =>
      rw [escapedAt_succ (c := c) rfl, escapedAt_zero, escapedAt_zero]
      simp [hc]
  | succ i ih =>
      have hnext : text[i]? = some text[i] := List.getElem?_eq_getElem (by omega)
      have hnext' : (c :: text)[i + 1]? = some text[i] := by rw [List.getElem?_cons_succ, hnext]
      rw [escapedAt_succ hnext', escapedAt_succ hnext, ih (by omega)]

theorem Region.ne_of_isQuote {c : Char} (hquote : Region.isQuote c = true) : c ≠ '\\' := by
  rintro rfl
  exact absurd hquote (by decide)

/-- A string ends where its body does. -/
theorem firstAt_closesString {quote : Char} {body : List Char}
    (hquote : Region.isQuote quote = true)
    (hescaped : ∀ i, body[i]? = some quote → escapedAt body i = true)
    (hend : escapedAt body body.length = false) (rest : List Char) :
    FirstAt (ClosesString (quote :: (body ++ quote :: rest)) quote) 1 (body.length + 1) := by
  -- the first quote is no backslash, so backslashes are counted in the body alone
  have hcount {i : Nat} (hi : i ≤ body.length) :
      escapedAt (quote :: (body ++ quote :: rest)) (i + 1) = escapedAt body i := by
    have hle : i ≤ (body ++ quote :: rest).length := by
      rw [List.length_append]
      omega
    rw [escapedAt_cons (Region.ne_of_isQuote hquote) hle, escapedAt_append hi]
  refine ⟨Nat.le_add_left 1 _, ⟨?_, ?_⟩, ?_⟩
  · rw [List.getElem?_cons_succ, List.getElem?_append_right (Nat.le_refl _), Nat.sub_self]
    rfl
  · rw [hcount (Nat.le_refl _), hend]
  · rintro i hi hlt ⟨hat, hfree⟩
    obtain ⟨j, rfl⟩ : ∃ j, i = j + 1 := ⟨i - 1, by omega⟩
    have hj : j < body.length := by omega
    rw [List.getElem?_cons_succ, List.getElem?_append_left hj] at hat
    rw [hcount (Nat.le_of_lt hj), hescaped j hat] at hfree
    exact absurd hfree (by decide)

/-- A comment ends where its body does: the end mark does not begin earlier, as its slash cannot be
the star that stands behind the body. -/
theorem firstAt_closesComment {body : List Char} (hopen : ∀ i, ¬ClosesComment body i)
    (rest : List Char) :
    FirstAt (ClosesComment ('/' :: '*' :: (body ++ '*' :: '/' :: rest))) 2 (body.length + 2) := by
  refine ⟨Nat.le_add_left 2 _, ⟨?_, ?_⟩, ?_⟩
  · rw [List.getElem?_cons_succ, List.getElem?_cons_succ,
      List.getElem?_append_right (Nat.le_refl _), Nat.sub_self]
    rfl
  · rw [List.getElem?_cons_succ, List.getElem?_cons_succ,
      List.getElem?_append_right (Nat.le_add_right _ 1), Nat.add_sub_cancel_left]
    rfl
  · rintro i hi hlt ⟨hstar, hslash⟩
    obtain ⟨j, rfl⟩ : ∃ j, i = j + 2 := ⟨i - 2, by omega⟩
    have hj : j < body.length := by omega
    rw [List.getElem?_cons_succ, List.getElem?_cons_succ, List.getElem?_append_left hj] at hstar
    rw [List.getElem?_cons_succ, List.getElem?_cons_succ] at hslash
    rcases Nat.lt_or_ge (j + 1) body.length with hnext | hlast
    · rw [List.getElem?_append_left hnext] at hslash
      exact hopen j ⟨hstar, hslash⟩
    · have hend : j + 1 = body.length := by omega
      rw [hend, List.getElem?_append_right (Nat.le_refl _), Nat.sub_self] at hslash
      exact absurd hslash (by simp)

/-! ### Reading behind them -/

/-- Behind a character that is no backslash, code is read as at the start of a line. -/
theorem Lexer.viewAt_code_of_ne {c : Char} {column : Nat} (hc : text[column]? = some c)
    (hne : c ≠ '\\') : (Lexer.within text .code (column + 1)).viewAt text (column + 1) =
      (Region.code.view (text.drop (column + 1))).indent (column + 1) := by
  have hfree : escapedAt text (column + 1) = false := by
    rw [escapedAt_succ hc]
    simp [hne]
  have hview := Lexer.view_add { region := .code } 0 (column + 1) (text.drop (column + 1))
  rw [Nat.zero_add] at hview
  rw [Lexer.within, hfree, viewAt]
  exact hview

/-- **A concealed text is passed over**, and reading goes on behind it as at the start of a line. -/
theorem Region.view_concealed {hidden : List Char} (h : Concealed hidden) (rest : List Char) :
    Region.code.view (hidden ++ rest) = (Region.code.view rest).indent hidden.length := by
  cases h with
  | @string quote body hquote hescaped hend =>
      have htext : quote :: body ++ [quote] ++ rest = quote :: (body ++ quote :: rest) := by simp
      have hfirst := firstAt_closesString hquote hescaped hend rest
      obtain ⟨glyphs, exit, hlater⟩ :=
        exists_lexed (quote :: (body ++ quote :: rest)) .code (body.length + 1 + 1)
      have hline : Lexed (quote :: (body ++ quote :: rest)) .code 0 glyphs exit :=
        .startString rfl (Region.isQuote_iff.1 hquote) (escapedAt_zero _) (.endString hfirst hlater)
      rw [htext, lexed_iff.1 hline, ← hlater.viewAt_eq,
        Lexer.viewAt_code_of_ne hfirst.holds.1 (Region.ne_of_isQuote hquote)]
      simp
  | @comment body hopen =>
      have htext : '/' :: '*' :: body ++ ['*', '/'] ++ rest =
          '/' :: '*' :: (body ++ '*' :: '/' :: rest) := by simp
      have hfirst := firstAt_closesComment hopen rest
      obtain ⟨glyphs, exit, hlater⟩ :=
        exists_lexed ('/' :: '*' :: (body ++ '*' :: '/' :: rest)) .code (body.length + 2 + 2)
      have hline : Lexed ('/' :: '*' :: (body ++ '*' :: '/' :: rest)) .code 0 glyphs exit :=
        .startComment rfl rfl (.endComment hfirst hlater)
      rw [htext, lexed_iff.1 hline, ← hlater.viewAt_eq,
        Lexer.viewAt_code_of_ne hfirst.holds.2 (by decide)]
      simp

/-! ### Whole lines -/

/-- Moves what stands on a line to the right. -/
def Position.indent (line width : Nat) (p : Position) : Position :=
  if p.line = line then { p with column := p.column + width } else p

theorem Position.carries_indent (line width : Nat) :
    Carries (Position.indent line width) line line width := by
  intro column
  exact if_pos rfl

/-- Brackets that were opened on lines above stay where they are. -/
theorem Context.relocate_indent {line : Nat} {entry : Context}
    (habove : ∀ f ∈ entry.nest.stack, f.position.line < line) (width : Nat) :
    entry.relocate (Position.indent line width) = entry := by
  have hframe : ∀ f ∈ entry.nest.stack, f.relocate (Position.indent line width) = id f := by
    intro f hf
    rw [Frame.relocate, Position.indent, if_neg (Nat.ne_of_lt (habove f hf)), id]
  rw [Context.relocate, Nest.relocate, List.map_congr_left hframe, List.map_id]

/-- A line of which nothing is visible passes on what it was given. -/
theorem Row.scanFrom_of_view {entry : Context} {text : String}
    (hview : entry.region.view text.toList = ⟨[], entry.region⟩)
    (hregion : entry.region.afterLine = entry.region) (s : Scheme) (line : Nat) :
    Row.scanFrom s line entry text = .ok ⟨entry, [], entry⟩ := by
  rw [Row.scanFrom, Row.scan, hview]
  simp only [Nest.overflows, Nest.read, hregion]
  rfl

/-- **Strings and comments are opaque.** Under any scheme, on any line and from any context, where
`hidden` is one whole string or one whole comment:

* if the line starts in code, and all open brackets stand on lines above, then scanning `hidden` and
  the rest finds what scanning the rest finds and ends as that does, but for the columns: all that
  was found on this line stands further to the right by the length of `hidden`. One scan faults if
  and only if the other does;
* if the line starts in a comment or in a string that does not end on it, then nothing is found, and
  the line ends as it starts. -/
theorem Row.scanFrom_concealed (s : Scheme) (line : Nat) (entry : Context) :
    (entry.region = .code → (∀ f ∈ entry.nest.stack, f.position.line < line) →
      ∀ hidden rest : String, Concealed hidden.toList →
        Row.scanFrom s line entry (hidden ++ rest) =
          (Row.scanFrom s line entry rest).map
            (Row.relocate (Position.indent line hidden.length))) ∧
    ∀ text : String,
      (entry.region = .blockComment ∧ ∀ i, ¬ClosesComment text.toList i) ∨
        (∃ quote, entry.region = .string quote ∧ ∀ i, ¬ClosesString text.toList quote i) →
      Row.scanFrom s line entry text = .ok ⟨entry, [], entry⟩ := by
  constructor
  · intro hcode habove hidden rest hconcealed
    have hview : entry.region.view (hidden ++ rest).toList =
        (entry.region.view rest.toList).indent hidden.length := by
      rw [hcode, String.toList_append, Region.view_concealed hconcealed, String.length_toList]
    have hscan := Row.scanFrom_relocate (Position.carries_indent line hidden.length) hview s
    rwa [Context.relocate_indent habove] at hscan
  · rintro text (⟨hregion, hopen⟩ | ⟨quote, hregion, hopen⟩)
    · refine Row.scanFrom_of_view ?_ (by rw [hregion]; rfl) s line
      rw [hregion]
      exact lexed_iff.1 (.keepComment fun i _ => hopen i)
    · refine Row.scanFrom_of_view ?_ (by rw [hregion]; rfl) s line
      rw [hregion]
      exact lexed_iff.1 (.keepString fun i _ => hopen i)

/-- A string with an escaped quote and a mark of a comment in it, and a comment with a slash and a
star at its edges, in front of a closer whose opener stands above; and a line inside a string that
ends in an escaped quote. -/
theorem Row.scanFrom_concealed_edges :
    let s : Scheme := ⟨[⟨'(', ')', ["a", "b"], "x"⟩], .consecutive, false, false, 0⟩
    let entry (region : Region) : Context := ⟨region, ⟨[⟨0, ⟨0, 3⟩, 0⟩], {}⟩⟩
    (Concealed "'(\\'/*'".toList ∧
      Row.scanFrom s 1 (entry .code) ("'(\\'/*'" ++ ") (") =
        (Row.scanFrom s 1 (entry .code) ") (").map (Row.relocate (Position.indent 1 7))) ∧
    (Concealed "/*/(**/".toList ∧
      Row.scanFrom s 1 (entry .code) ("/*/(**/" ++ ") (") =
        (Row.scanFrom s 1 (entry .code) ") (").map (Row.relocate (Position.indent 1 7))) ∧
    Row.scanFrom s 1 (entry (.string '"')) "( \\\"" =
      .ok ⟨entry (.string '"'), [], entry (.string '"')⟩ := by
  intro s entry
  have habove : ∀ f ∈ (entry .code).nest.stack, f.position.line < 1 := by decide
  have hstring : Concealed "'(\\'/*'".toList := by
    refine @Concealed.string '\'' ['(', '\\', '\'', '/', '*'] rfl ?_ rfl
    have hquotes : ∀ i < 5, ['(', '\\', '\'', '/', '*'][i]? = some '\'' →
        escapedAt ['(', '\\', '\'', '/', '*'] i = true := by decide
    intro i hi
    exact hquotes i (List.getElem?_eq_some_iff.1 hi).1 hi
  have hcomment : Concealed "/*/(**/".toList := by
    refine @Concealed.comment ['/', '(', '*'] ?_
    have hmarks : ∀ i < 3, ¬(['/', '(', '*'][i]? = some '*' ∧
        ['/', '(', '*'][i + 1]? = some '/') := by decide
    intro i hi
    exact hmarks i (List.getElem?_eq_some_iff.1 hi.1).1 hi
  have hopen : ∀ i, ¬ClosesString "( \\\"".toList '"' i := by
    have hquotes : ∀ i < 4, ¬("( \\\"".toList[i]? = some '"' ∧
        escapedAt "( \\\"".toList i = false) := by decide
    intro i hi
    exact hquotes i (List.getElem?_eq_some_iff.1 hi.1).1 hi
  exact ⟨⟨hstring, (scanFrom_concealed s 1 (entry .code)).1 rfl habove _ _ hstring⟩,
    ⟨hcomment, (scanFrom_concealed s 1 (entry .code)).1 rfl habove _ _ hcomment⟩,
    (scanFrom_concealed s 1 (entry (.string '"'))).2 _ (.inr ⟨'"', rfl, hopen⟩)⟩

end BracketTint
