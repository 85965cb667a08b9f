import BracketTint.Proofs.Revision
import Mathlib.Order.Bounds.Basic

/-!
# Where an Update Settles

An update scans the lines that a splice brought in and then those below it, until a line ends in the
context in which its old row ended, moved with the lines. Two mistakes would be hard to see from
outside. To stop too early leaves wrong rows below, and to compare with contexts that were moved
wrongly leads to right rows, but the whole text below is scanned each time.

So what an update reports is compared here with the full scans of the two texts, which know nothing
of updates. A line of the new text `Resumes` the old one if it ends as the line that it was before.

## Main results

* `Document.agrees_of_le` — **below a line that resumes, all lines do**, since the lines there are
  the old ones and are scanned from the same context, moved;
* `Document.agrees_iff_resumes` — what an update compares is whether a line resumes;
* `Document.update_settles` — an update stops at the first line below the splice that resumes, and
  scans no other line than those from the splice down to there.
-/

namespace BracketTint

/-- The movement of lines that a splice within a text brings about. -/
def Splice.shift (s : Splice) : Shift := ⟨s.stop, (s.count : Int) - ((s.stop : Int) - s.start)⟩

/-- A context moves in the same way whether or not a shift by nothing is left out, as long as its
open brackets stand on lines. -/
theorem Shift.moveContext_eq_context (shift : Shift) {c : Context}
    (h : ∀ f ∈ c.nest.stack, f.position.line < Word.size) :
    shift.moveContext c = shift.context c := by
  rw [Shift.moveContext]
  split
  next hzero =>
    have hline (n : Nat) (hn : n < Word.size) : shift.line n = n := by
      rw [Shift.line, hzero, Word.move_zero hn, ite_self]
    have hstack : c.nest.stack.map shift.frame = c.nest.stack := by
      refine (List.map_congr_left fun f hf => ?_).trans (List.map_id _)
      simp only [Shift.frame, Shift.position, hline _ (h f hf), id_eq]
    simp only [Shift.context, Shift.nest, hstack]
  next => rfl

namespace Document

/-- The context in which a line ends. -/
def exit? (d : Document) (line : Nat) : Option Context := d.rows[line]?.map Row.exit

/-- A line of the new text ends as it did in the old text, where it stood before the splice: its
context is the old one, moved. -/
def Resumes (s : Scheme) (fitted : Splice) (before lines : List String) (line : Nat) : Prop :=
  (parse s lines).exit? line =
    ((parse s before).exit? ((line : Int) - fitted.shift.distance).toNat).map fitted.shift.context

instance (s : Scheme) (fitted : Splice) (before lines : List String) (line : Nat) :
    Decidable (Resumes s fitted before lines line) := inferInstanceAs (Decidable (_ = _))

/-! ### Contexts of a text -/

/-- A line ends in the context after all lines down to it. -/
theorem exit?_parse (s : Scheme) {lines : List String} {line : Nat} (h : line < lines.length) :
    (parse s lines).exit? line =
      some (contextFrom {} (scanLines s 0 {} (lines.take (line + 1)))) := by
  have hrow := List.getElem?_eq_getElem
    (show line < (scanLines s 0 {} lines).length by rwa [length_scanLines])
  rw [exit?, rows_parse, contextFrom_take_succ hrow, hrow, Option.map_some]

/-- The brackets that are open after some lines stand on these lines. -/
theorem line_lt_of_mem_stack {s : Scheme} {texts : List String} {f : Frame}
    (h : f ∈ (contextFrom {} (scanLines s 0 {} texts)).nest.stack) :
    f.position.line < texts.length := by
  have hopen : f.position ∈ (scanLines s 0 {} texts).flatMap Row.openers :=
    (openers_scanLines s 0 {} texts).subset (List.mem_append_right _ (List.mem_map_of_mem h))
  obtain ⟨b, hb, hposition⟩ := List.mem_map.1 ((openers_sublist_positions _).subset hopen)
  rw [← hposition, ← Nat.zero_add texts.length]
  exact (line_of_mem_scanLines hb).2

/-- The context after moved rows is the moved context. -/
theorem contextFrom_map_move (shift : Shift) (entry : Context) (rows : List Row) :
    contextFrom (shift.moveContext entry) (rows.map shift.move) =
      shift.moveContext (contextFrom entry rows) := by
  induction rows generalizing entry with
  | nil => rfl
  | cons row rest ih => rw [List.map_cons, contextFrom_cons, contextFrom_cons, Shift.exit_move, ih]

/-! ### Below a splice -/

section Below

variable {s : Scheme} {fitted : Splice} {before lines : List String} {k : Nat}

/-- For a splice that describes a change, the contexts that an update compares are those of the two
texts. -/
theorem agrees_iff_contexts (h : fitted.Describes before lines) (k : Nat) :
    Agrees s fitted before lines k ↔
      contextFrom {} (scanLines s 0 {} (lines.take (fitted.start + fitted.count + k))) =
        fitted.shift.moveContext
          (contextFrom {} (scanLines s 0 {} (before.take (fitted.stop + k)))) := by
  obtain ⟨hfits, habove, -⟩ := Splice.describes_iff.1 h
  have htake : before.take fitted.start ++ (lines.drop fitted.start).take (fitted.count + k) =
      lines.take (fitted.start + fitted.count + k) := by
    rw [← habove, Nat.add_assoc, ← List.take_add]
  rw [Agrees, scanLines_above hfits, htake, take_scanLines]
  rfl

/-- **Below a line that resumes, all lines do.** -/
theorem agrees_of_le (h : fitted.Describes before lines) (hlines : lines.length < Word.half)
    (hagrees : Agrees s fitted before lines k) {k' : Nat} (hle : k ≤ k')
    (hk' : k' ≤ before.length - fitted.stop) : Agrees s fitted before lines k' := by
  obtain ⟨⟨hstart, hstop, hlength⟩, -, hbelow⟩ := Splice.describes_iff.1 h
  obtain ⟨i, rfl⟩ := Nat.exists_eq_add_of_le hle
  have hsize := Word.size_eq
  rw [agrees_iff_contexts h] at hagrees ⊢
  -- the lines from there on are the old ones
  have hnew : lines.take (fitted.start + fitted.count + (k + i)) =
      lines.take (fitted.start + fitted.count + k) ++ (before.drop (fitted.stop + k)).take i := by
    rw [← Nat.add_assoc, List.take_add, ← List.drop_drop, hbelow, List.drop_drop]
  have hold : before.take (fitted.stop + (k + i)) =
      before.take (fitted.stop + k) ++ (before.drop (fitted.stop + k)).take i := by
    rw [← Nat.add_assoc, List.take_add]
  have hmove : (scanLines s (fitted.stop + k)
        (contextFrom {} (scanLines s 0 {} (before.take (fitted.stop + k))))
        ((before.drop (fitted.stop + k)).take i)).map fitted.shift.move =
      scanLines s (fitted.start + fitted.count + k)
        (fitted.shift.moveContext
          (contextFrom {} (scanLines s 0 {} (before.take (fitted.stop + k)))))
        ((before.drop (fitted.stop + k)).take i) :=
    scanLines_move s (Nat.le_add_right _ _) (by dsimp only [Splice.shift]; omega)
      (by rw [List.length_take, List.length_drop]; omega)
  rw [hnew, hold, scanLines_append, scanLines_append, contextFrom_append, contextFrom_append,
    List.length_take_of_le (by omega), List.length_take_of_le (by omega), Nat.zero_add,
    Nat.zero_add, hagrees, ← hmove, contextFrom_map_move]

/-- **What an update compares** `k` lines below a splice is whether the line above resumes. -/
theorem agrees_iff_resumes (h : fitted.Describes before lines)
    (hbefore : before.length < Word.half) (hk : k ≤ before.length - fitted.stop)
    (hnew : 0 < fitted.start + fitted.count + k) (hold : 0 < fitted.stop + k) :
    Agrees s fitted before lines k ↔
      Resumes s fitted before lines (fitted.start + fitted.count + k - 1) := by
  obtain ⟨⟨hstart, hstop, hlength⟩, -⟩ := Splice.describes_iff.1 h
  have hline : (((fitted.start + fitted.count + k - 1 : Nat) : Int) -
      fitted.shift.distance).toNat = fitted.stop + k - 1 := by
    dsimp only [Splice.shift]
    omega
  have hmoved := fitted.shift.moveContext_eq_context
    (c := contextFrom {} (scanLines s 0 {} (before.take (fitted.stop + k)))) fun f hf => by
      have hlt := line_lt_of_mem_stack hf
      have hsize := Word.size_eq
      rw [List.length_take] at hlt
      omega
  rw [agrees_iff_contexts h, Resumes, hline, exit?_parse s (by omega), exit?_parse s (by omega),
    Nat.sub_add_cancel hnew, Nat.sub_add_cancel hold, Option.map_some, Option.some.injEq, hmoved]

/-- The same for a line that is counted from the top of the text. -/
theorem agrees_iff_resumes_below (h : fitted.Describes before lines)
    (hbefore : before.length < Word.half) {line : Nat} (hline : fitted.start + fitted.count ≤ line)
    (hlast : line < lines.length) :
    Agrees s fitted before lines (line + 1 - (fitted.start + fitted.count)) ↔
      Resumes s fitted before lines line := by
  have hlength := (Splice.describes_iff.1 h).1.length
  have hcounted : fitted.start + fitted.count + (line + 1 - (fitted.start + fitted.count)) - 1 =
      line := by omega
  rw [agrees_iff_resumes h hbefore (by omega) (by omega) (by omega), hcounted]

/-- If the last line that a splice brought in resumes where the replaced lines ended, so does the
first line below. -/
theorem agrees_one_of_resumes (h : fitted.Describes before lines)
    (hbefore : before.length < Word.half) (hlines : lines.length < Word.half)
    (hcount : 0 < fitted.count) (hreplaced : fitted.start < fitted.stop)
    (hlast : fitted.start + fitted.count < lines.length)
    (hentry : Resumes s fitted before lines (fitted.start + fitted.count - 1)) :
    Agrees s fitted before lines 1 := by
  have hlength := (Splice.describes_iff.1 h).1.length
  have hzero : Agrees s fitted before lines 0 :=
    (agrees_iff_resumes h hbefore (Nat.zero_le _) (by omega) (by omega)).2 hentry
  exact agrees_of_le h hlines hzero (Nat.zero_le 1) (by omega)

end Below

/-- **Where an update settles.** A splice, brought inside the old text, describes how it became the
new one. Then

* the update stops at the first line below the splice that resumes, and at none if there is none;
* it scans the lines from the splice down to there, or down to the end;
* from there on all lines resume;
* if the lines that the splice brought in leave the context that the replaced lines left, the first
  line below them is the only other one that is scanned. -/
theorem update_settles (s : Scheme) {before lines : List String} {splice fitted : Splice}
    (hbefore : before.length < Word.half) (hlines : lines.length < Word.half)
    (hfit : splice.fit? before.length lines.length = some fitted)
    (hdescribes : fitted.Describes before lines) :
    ∃ effort, (parse s before).update splice lines = .ok (parse s lines, effort) ∧
      (∀ j, effort.settledAt = some j ↔
        IsLeast {j | fitted.start + fitted.count ≤ j ∧ j < lines.length ∧
          Resumes s fitted before lines j} j) ∧
      (effort.settledAt = none ↔ ∀ j, fitted.start + fitted.count ≤ j → j < lines.length →
        ¬ Resumes s fitted before lines j) ∧
      effort.scanned = (effort.settledAt.elim lines.length (· + 1)) - fitted.start ∧
      (∀ j, effort.settledAt = some j → ∀ k, j ≤ k → k < lines.length →
        Resumes s fitted before lines k) ∧
      (0 < fitted.count → fitted.start < fitted.stop →
        fitted.start + fitted.count < lines.length →
        Resumes s fitted before lines (fitted.start + fitted.count - 1) →
          effort.scanned = fitted.count + 1) := by
  obtain ⟨hfits, habove, hbelow⟩ := Splice.describes_iff.1 hdescribes
  obtain ⟨k, hk, settledAt, hupdate, hcase, hfirst⟩ := update_of_fit? s hbefore hlines hfit
  rw [blend_eq_of_agree habove.symm (by rw [← List.drop_drop, ← hbelow, List.drop_drop])]
    at hupdate
  obtain ⟨hstart, hstop, hlength⟩ := hfits
  have hresumes {j : Nat} (hj : fitted.start + fitted.count ≤ j) (hj' : j < lines.length) :=
    agrees_iff_resumes_below (s := s) hdescribes hbefore hj hj'
  refine ⟨⟨fitted.count + k, settledAt⟩, hupdate, ?_⟩
  rcases hcase with ⟨rfl, hk⟩ | ⟨rfl, hpos, hagrees⟩
  · -- no line resumes
    have hfirst (j : Nat) (hj : 0 < j) (hle : j ≤ k) : ¬ Agrees s fitted before lines j :=
      hfirst j hj ((Nat.lt_or_eq_of_le hle).imp_right (⟨·, rfl⟩))
    have hnone (j : Nat) (hj : fitted.start + fitted.count ≤ j) (hj' : j < lines.length) :
        ¬ Resumes s fitted before lines j := fun h =>
      hfirst _ (by omega) (by omega) ((hresumes hj hj').2 h)
    refine ⟨fun j => ⟨fun hsettled => ?_, ?_⟩, ⟨fun _ => hnone, fun _ => rfl⟩, ?_,
      fun j hsettled => ?_, fun hcount hreplaced hlast hentry => ?_⟩
    · cases hsettled
    · rintro ⟨⟨hj, hj', h⟩, -⟩
      exact absurd h (hnone j hj hj')
    · dsimp only [Option.elim]
      omega
    · cases hsettled
    · exact absurd (agrees_one_of_resumes hdescribes hbefore hlines hcount hreplaced hlast hentry)
        (hfirst 1 Nat.one_pos (by omega))
  · -- the last line that was scanned is the first one that resumes
    have hleast : IsLeast {j | fitted.start + fitted.count ≤ j ∧ j < lines.length ∧
        Resumes s fitted before lines j} (fitted.start + fitted.count + k - 1) := by
      refine ⟨⟨by omega, by omega, ?_⟩, ?_⟩
      · exact (agrees_iff_resumes hdescribes hbefore hk (by omega) (by omega)).1 hagrees
      · rintro j ⟨hj, hj', h⟩
        by_contra hlt
        exact hfirst _ (by omega) (.inl (by omega)) ((hresumes hj hj').2 h)
    refine ⟨fun j => ⟨?_, fun h => congrArg some (hleast.unique h)⟩,
      ⟨fun hsettled => ?_, fun h => absurd hleast.1.2.2 (h _ hleast.1.1 hleast.1.2.1)⟩, ?_, ?_,
      fun hcount hreplaced hlast hentry => ?_⟩
    · intro hsettled
      obtain rfl := Option.some.inj hsettled
      exact hleast
    · cases hsettled
    · dsimp only [Option.elim]
      omega
    · intro j hsettled l hjl hl
      obtain rfl := Option.some.inj hsettled
      exact (hresumes (by omega) hl).1
        (agrees_of_le hdescribes hlines hagrees (by omega) (by omega))
    · have hone : ¬ 1 < k := fun hlt => hfirst 1 Nat.one_pos (.inl hlt)
        (agrees_one_of_resumes hdescribes hbefore hlines hcount hreplaced hlast hentry)
      dsimp only
      omega

/-- A line inside a pair becomes two. Below it an opener that was on line 2 is on line 3, and the
scan stops there all the same. -/
theorem update_settles_moved :
    let s : Scheme := ⟨[⟨'(', ')', ["a", "b"], "c"⟩], .consecutive, false, false, 0⟩
    let before := ["(", "x", "(", ")", ")"]
    let lines := ["(", "y", "z", "(", ")", ")"]
    let splice : Splice := ⟨1, 2, 2⟩
    before.length < Word.half ∧ lines.length < Word.half ∧
      splice.fit? before.length lines.length = some splice ∧ splice.Describes before lines ∧
      ∃ effort, (parse s before).update splice lines = .ok (parse s lines, effort) ∧
        effort.settledAt = some 3 ∧ effort.scanned = 3 := by
  intro s before lines splice
  have hbefore : before.length < Word.half := by decide
  have hlines : lines.length < Word.half := by decide
  have hfit : splice.fit? before.length lines.length = some splice := by decide
  have hdescribes : splice.Describes before lines :=
    ⟨by decide, by decide, ["y", "z"], rfl, rfl⟩
  obtain ⟨effort, hupdate, hleast, -, -, -, hentry⟩ :=
    update_settles s hbefore hlines hfit hdescribes
  refine ⟨hbefore, hlines, hfit, hdescribes, effort, hupdate, (hleast 3).2 ⟨?_, ?_⟩, ?_⟩
  · exact ⟨by decide, by decide, by decide⟩
  · rintro j ⟨hj, -⟩
    exact hj
  · exact hentry (by decide) (by decide) (by decide) (by decide)

end Document

end BracketTint
