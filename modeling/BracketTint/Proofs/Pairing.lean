import Mathlib.Data.List.Nodup
import Mathlib.Data.List.Perm.Basic
import BracketTint.Proofs.Rows

/-!
# Openers Are Closed at Most Once

Each bracket either puts an opener on the stack, or takes the innermost one off and closes it, or
changes nothing. So scanning keeps account of openers: those that were open before and those that
were read are, taken together, those that were closed and those that are still open
(`Nest.openers_read`, and over many lines `Document.openers_scanLines`). It is an equation between
lists up to order, so nothing is counted twice.

In a text that is scanned from the top the openers stand at distinct positions. By the account,
then, no opener is closed twice (`Document.nodup_closedPairs`): the partner table of a document
loses no pair to another one.
-/

namespace BracketTint

/-- The position of a bracket that opens. -/
def Bracket.opened? (b : Bracket) : Option Position :=
  match b.side with
  | .opener => some b.position
  | .closer => none

/-- The positions of the openers of a row, in order. -/
def Row.openers (r : Row) : List Position := r.brackets.filterMap Bracket.opened?

/-- The positions of the open brackets, innermost first. -/
def Nest.positions (n : Nest) : List Position := n.stack.map Frame.position

/-! ### The account of openers -/

/-- One bracket keeps the account: what it closes and what is open after it are what was open
before it and what it opens. -/
theorem Nest.openers_meet (s : Scheme) (n : Nest) (pair : Nat) (side : Side) (p : Position) :
    ((n.meet s pair side p).2.closedPair?.toList.map Prod.fst ++
        (n.meet s pair side p).1.positions).Perm
      (n.positions ++ (n.meet s pair side p).2.opened?.toList) := by
  obtain ⟨stack, memory⟩ := n
  cases side with
  | opener =>
      -- the opener goes in front of the stack
      exact (List.perm_append_singleton _ _).symm
  | closer =>
      cases stack with
      | nil => exact .refl _
      | cons frame rest =>
          simp only [meet, leave]
          by_cases h : frame.pair = pair
          · simp [h, positions, Bracket.closedPair?, Bracket.opened?, Link.partner?]
          · simp [h, positions, Bracket.closedPair?, Bracket.opened?, Link.partner?]

/-- The visible characters of a line keep the account. -/
theorem Nest.openers_read (s : Scheme) (line : Nat) (n : Nest) (glyphs : List Glyph) :
    (((n.read s line glyphs).2.filterMap Bracket.closedPair?).map Prod.fst ++
        (n.read s line glyphs).1.positions).Perm
      (n.positions ++ (n.read s line glyphs).2.filterMap Bracket.opened?) := by
  induction glyphs generalizing n with
  | nil => simp [read]
  | cons g rest ih =>
      cases hc : s.classify g.char with
      | none =>
          simp only [read, hc]
          exact ih n
      | some found =>
          obtain ⟨pair, side⟩ := found
          simp only [read, hc]
          have hmeet := n.openers_meet s pair side ⟨line, g.column⟩
          have hrest := ih (n.meet s pair side ⟨line, g.column⟩).1
          generalize n.meet s pair side ⟨line, g.column⟩ = met at hmeet hrest ⊢
          generalize met.1.read s line rest = later at hrest ⊢
          have hcons {β : Type} (f : Bracket → Option β) :
              (met.2 :: later.2).filterMap f = (f met.2).toList ++ later.2.filterMap f := by
            cases h : f met.2 <;> simp [h]
          rw [hcons, hcons, List.map_append, List.append_assoc]
          refine (hrest.append_left _).trans ?_
          rw [← List.append_assoc, ← List.append_assoc]
          exact hmeet.append_right _

/-- A scanned line keeps the account. -/
theorem Row.openers_scan (s : Scheme) (line : Nat) (entry : Context) (text : String) :
    ((scan s line entry text).closedPairs.map Prod.fst ++
        (scan s line entry text).exit.nest.positions).Perm
      (entry.nest.positions ++ (scan s line entry text).openers) :=
  entry.nest.openers_read s line _

namespace Document

/-- **The account of openers.** Over any lines, the openers that are closed and those that stay
open are those that were open before and those that are read. -/
theorem openers_scanLines (s : Scheme) (line : Nat) (entry : Context) (texts : List String) :
    (((scanLines s line entry texts).flatMap Row.closedPairs).map Prod.fst ++
        (contextFrom entry (scanLines s line entry texts)).nest.positions).Perm
      (entry.nest.positions ++ (scanLines s line entry texts).flatMap Row.openers) := by
  induction texts generalizing line entry with
  | nil => simp [scanLines]
  | cons text rest ih =>
      have hrow := Row.openers_scan s line entry text
      have hrest := ih (line + 1) (Row.scan s line entry text).exit
      simp only [scanLines, List.flatMap_cons, List.map_append, contextFrom_cons]
      rw [List.append_assoc]
      refine (hrest.append_left _).trans ?_
      rw [← List.append_assoc, ← List.append_assoc]
      exact hrow.append_right _

/-! ### Distinct openers -/

/-- The openers of some lines are among the positions of their brackets, in order. -/
theorem openers_sublist_positions (rows : List Row) :
    (rows.flatMap Row.openers).Sublist ((rows.flatMap Row.brackets).map Bracket.position) := by
  have hrow (bs : List Bracket) :
      (bs.filterMap Bracket.opened?).Sublist (bs.map Bracket.position) := by
    induction bs with
    | nil => exact .slnil
    | cons b rest ih =>
        cases h : b.side with
        | opener =>
            have hb : b.opened? = some b.position := by simp [Bracket.opened?, h]
            rw [List.filterMap_cons_some hb]
            exact ih.cons_cons _
        | closer =>
            have hb : b.opened? = none := by simp [Bracket.opened?, h]
            rw [List.filterMap_cons_none hb]
            exact ih.cons _
  induction rows with
  | nil => exact .slnil
  | cons row rest ih =>
      simp only [List.flatMap_cons, List.map_append]
      exact (hrow row.brackets).append ih

/-- The openers of a text are distinct. -/
theorem nodup_openers (s : Scheme) (line : Nat) (entry : Context) (texts : List String) :
    ((scanLines s line entry texts).flatMap Row.openers).Nodup :=
  ((before_scanLines s line entry texts).imp Position.Before.ne).sublist
    (openers_sublist_positions _)

/-- The openers closed in a text from its top on are openers of the text. -/
theorem closed_subset_openers (s : Scheme) (texts : List String) :
    ((scanLines s 0 {} texts).flatMap Row.closedPairs).map Prod.fst ⊆
      (scanLines s 0 {} texts).flatMap Row.openers := by
  intro p hp
  exact (openers_scanLines s 0 {} texts).subset (List.mem_append_left _ hp)

/-- **No opener is closed twice** in a text from its top on. -/
theorem nodup_closedPairs (s : Scheme) (texts : List String) :
    (((scanLines s 0 {} texts).flatMap Row.closedPairs).map Prod.fst).Nodup := by
  have haccount := openers_scanLines s 0 {} texts
  have hopeners := nodup_openers s 0 {} texts
  exact (haccount.nodup_iff.2 hopeners).of_append_left

/-- The pairs of a text from its top on lie on its lines, both ends. -/
theorem lines_of_mem_closedPairs {s : Scheme} {texts : List String} {e : Position × Position}
    (h : e ∈ (scanLines s 0 {} texts).flatMap Row.closedPairs) :
    e.1.line < texts.length ∧ e.2.line < texts.length := by
  rw [← Nat.zero_add texts.length]
  constructor
  · have hopener := closed_subset_openers s texts (List.mem_map_of_mem h)
    have hposition := (openers_sublist_positions _).subset hopener
    obtain ⟨b, hb, hbe⟩ := List.mem_map.1 hposition
    rw [← hbe]
    exact (line_of_mem_scanLines hb).2
  · obtain ⟨row, hrow, he⟩ := List.mem_flatMap.1 h
    obtain ⟨b, hb, hbe⟩ := List.mem_filterMap.1 he
    obtain ⟨pair, side, span, depth, color, link⟩ := b
    have hline := (line_of_mem_scanLines (List.mem_flatMap.2 ⟨row, hrow, hb⟩)).2
    cases side with
    | opener => exact absurd hbe (by simp [Bracket.closedPair?])
    | closer =>
        obtain ⟨opener, -, rfl⟩ := Option.map_eq_some_iff.1 hbe
        exact hline

end Document

end BracketTint
