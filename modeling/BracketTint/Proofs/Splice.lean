import BracketTint.Splice

/-!
# Splices within a Text

A splice that was fitted to a text (`Splice.fit?`) lies inside it and accounts exactly for the
number of lines after it (`Splice.Fits`). A splice that describes how one text became another
(`Splice.Describes`) moreover leaves the lines above and below it as they were.

Where texts have fewer lines than half of all words, nothing in the arithmetic of such splices
leaves the range of a word, and two of them that follow each other make one that describes the
whole change (`Splice.Describes.andThen`).
-/

namespace BracketTint

/-- A computation goes on with what was computed. -/
@[simp] theorem ok_bind {α β : Type} (a : α) (f : α → Except Fault β) :
    (Except.ok a >>= f) = f a := rfl

/-- A computation that returns has no fault. -/
@[simp] theorem pure_eq_ok {α : Type} (a : α) : (pure a : Except Fault α) = .ok a := rfl

/-- A computation in two parts returns exactly if both parts do. -/
theorem bind_eq_ok_iff {α β : Type} {x : Except Fault α} {f : α → Except Fault β} {b : β} :
    (x >>= f) = .ok b ↔ ∃ a, x = .ok a ∧ f a = .ok b := by
  cases x with
  | error fault => exact ⟨(fun h => nomatch h), (fun ⟨_, h, _⟩ => nomatch h)⟩
  | ok a => simp

/-- A computation in two parts faults exactly if one of the parts does. -/
theorem bind_eq_error_iff {α β : Type} {x : Except Fault α} {f : α → Except Fault β}
    {fault : Fault} :
    (x >>= f) = .error fault ↔ x = .error fault ∨ ∃ a, x = .ok a ∧ f a = .error fault := by
  cases x with
  | error other => simp [bind, Except.bind]
  | ok a => simp

namespace Word

/-- Half of all words, twice. -/
theorem size_eq : size = half + half := rfl

/-- A sum within the range of a word. -/
theorem add_of_lt {a b : Nat} (h : a + b < size) : add a b = .ok (a + b) := if_pos h

/-- A difference within the range of a word. -/
theorem sub_of_le {a b : Nat} (h : b ≤ a) : sub a b = .ok (a - b) := if_pos h

/-- A word in the lower half is its own signed reading. -/
theorem toSigned_of_lt {a : Nat} (h : a < half) : toSigned a = a := by
  have hsize := size_eq
  simp only [toSigned, Int.bmod_def]
  rw [Int.emod_eq_of_lt (by omega) (by omega)]
  split <;> omega

/-- The signed difference of two words in the lower half is a signed word. -/
theorem subSigned_of_lt {a b : Nat} (ha : a < half) (hb : b < half) :
    subSigned (toSigned a) (toSigned b) = .ok ((a : Int) - b) := by
  rw [toSigned_of_lt ha, toSigned_of_lt hb, subSigned, if_pos (by omega)]

end Word

namespace Splice

/-- A splice lies within a text of `before` lines and leads to a text of `after` lines. -/
structure Fits (s : Splice) (before after : Nat) : Prop where
  start_le : s.start ≤ s.stop
  stop_le : s.stop ≤ before
  length : s.start + s.count + (before - s.stop) = after

/-- **What fitting does**: the bounds are brought inside the text, and the number of new lines is
the one that fits. -/
theorem fit?_eq_some_iff {s fitted : Splice} {before after : Nat} :
    s.fit? before after = some fitted ↔
      fitted.start = min s.start before ∧
        fitted.stop = max fitted.start (min s.stop before) ∧ fitted.Fits before after := by
  constructor
  · intro h
    simp only [fit?] at h
    split at h
    · obtain rfl := Option.some.inj h
      exact ⟨rfl, by dsimp only; omega, by dsimp only; omega, by dsimp only; omega,
        by dsimp only; omega⟩
    · exact absurd h (by simp)
  · rintro ⟨hstart, hstop, hle, hwithin, hlength⟩
    obtain ⟨start, stop, count⟩ := fitted
    simp only at hstart hstop hle hwithin hlength
    simp only [fit?]
    rw [if_pos (by omega), Option.some.injEq, Splice.mk.injEq]
    omega

/-- The growth of a splice whose numbers are in the lower half of the words. -/
theorem growth_of_lt {s : Splice} (hle : s.start ≤ s.stop) (hstop : s.stop < Word.half)
    (hcount : s.count < Word.half) :
    s.growth = .ok ((s.count : Int) - ((s.stop : Int) - s.start)) := by
  have hremoved : s.removed = .ok (s.stop - s.start) := Word.sub_of_le hle
  have hcast : ((s.stop - s.start : Nat) : Int) = (s.stop : Int) - s.start := by omega
  have hsub := Word.subSigned_of_lt hcount (Nat.lt_of_le_of_lt (Nat.sub_le _ s.start) hstop)
  rw [growth, hremoved, ok_bind, hsub, hcast]

/-! ### Splices that tell what happened -/

/-- A splice lies within a text and tells exactly how it became another: the lines before `start`
and from `stop` on stayed, with `count` lines between them. -/
structure Describes (s : Splice) (before after : List String) : Prop where
  start_le : s.start ≤ s.stop
  stop_le : s.stop ≤ before.length
  inserted : ∃ lines : List String, lines.length = s.count ∧
    after = before.take s.start ++ lines ++ before.drop s.stop

/-- A splice describes a change exactly if it fits and the texts agree above and below it. -/
theorem describes_iff {s : Splice} {before after : List String} :
    s.Describes before after ↔ s.Fits before.length after.length ∧
      after.take s.start = before.take s.start ∧
        after.drop (s.start + s.count) = before.drop s.stop := by
  constructor
  · rintro ⟨hstart, hstop, lines, hcount, rfl⟩
    have habove : (before.take s.start).length = s.start := List.length_take_of_le (by omega)
    refine ⟨⟨hstart, hstop, ?_⟩, ?_, ?_⟩
    · simp only [List.length_append, List.length_drop, habove, hcount]
    · rw [List.append_assoc]
      exact List.take_left' habove
    · exact List.drop_left' (by rw [List.length_append, habove, hcount])
  · rintro ⟨⟨hstart, hstop, hlength⟩, habove, hbelow⟩
    refine ⟨hstart, hstop, (after.drop s.start).take s.count, ?_, ?_⟩
    · rw [List.length_take, List.length_drop]
      omega
    · rw [← habove, ← hbelow, ← List.drop_drop, List.append_assoc, List.take_append_drop,
        List.take_append_drop]

/-- The splice that two make together, in numbers without bounds. -/
def joined (s next : Splice) : Splice :=
  let top := min s.start next.start
  let bottom := max (s.start + s.count) next.stop
  ⟨top, bottom - (s.start + s.count) + s.stop, bottom - top - (next.stop - next.start) + next.count⟩

theorem start_joined (s next : Splice) : (s.joined next).start = min s.start next.start := rfl

theorem stop_joined (s next : Splice) :
    (s.joined next).stop = max (s.start + s.count) next.stop - (s.start + s.count) + s.stop := rfl

/-- Where the new lines of a joined splice end. -/
theorem reach_joined (s : Splice) {next : Splice} (h : next.start ≤ next.stop) :
    (s.joined next).start + (s.joined next).count =
      max (s.start + s.count) next.stop - next.stop + (next.start + next.count) := by
  simp only [joined]
  omega

theorem joined_start_le {s : Splice} (next : Splice) (h : s.start ≤ s.stop) :
    (s.joined next).start ≤ (s.joined next).stop := by
  rw [start_joined, stop_joined]
  omega

/-- Splices with the same bounds, whose new lines end at the same place. -/
theorem eq_of_reach {s t : Splice} (hstart : s.start = t.start) (hstop : s.stop = t.stop)
    (hreach : s.start + s.count = t.start + t.count) : s = t := by
  obtain ⟨start, stop, count⟩ := s
  obtain ⟨start', stop', count'⟩ := t
  simp only [mk.injEq] at hstart hstop hreach ⊢
  omega

/-- **Joining splices is associative.** -/
theorem joined_assoc (s : Splice) {next last : Splice} (hnext : next.start ≤ next.stop)
    (hlast : last.start ≤ last.stop) :
    (s.joined next).joined last = s.joined (next.joined last) := by
  refine eq_of_reach ?_ ?_ ?_
  · simp only [start_joined, Nat.min_assoc]
  · rw [stop_joined, stop_joined, stop_joined, stop_joined, reach_joined s hnext]
    omega
  · rw [reach_joined _ hlast, reach_joined s hnext, reach_joined s (joined_start_le last hnext),
      reach_joined next hlast, stop_joined]
    omega

/-- **Two splices are joined without a fault** if their numbers and those of the joined splice are
in the lower half of the words. -/
theorem andThen_eq_joined {s next : Splice} (hs : s.start ≤ s.stop) (hnext : next.start ≤ next.stop)
    (hstop : s.stop < Word.half) (hreach : s.start + s.count < Word.half)
    (hnextStop : next.stop < Word.half) (hjoinedStop : (s.joined next).stop < Word.half)
    (hjoinedCount : (s.joined next).count < Word.half) :
    s.andThen next = .ok (s.joined next) := by
  have hsize := Word.size_eq
  have hgrowth := growth_of_lt hs hstop (show s.count < Word.half by omega)
  obtain ⟨bottom, hbottom⟩ : ∃ bottom, bottom = max (s.start + s.count) next.stop := ⟨_, rfl⟩
  simp only [joined, ← hbottom] at hjoinedStop hjoinedCount
  have hsub : Word.subSigned (Word.toSigned bottom)
      ((s.count : Int) - ((s.stop : Int) - s.start)) =
        .ok ((bottom - (s.start + s.count) + s.stop : Nat) : Int) := by
    rw [Word.toSigned_of_lt (by omega), Word.subSigned, if_pos (by omega), Except.ok.injEq]
    omega
  have hword : Word.ofSigned ((bottom - (s.start + s.count) + s.stop : Nat) : Int) =
      bottom - (s.start + s.count) + s.stop := by
    rw [Word.ofSigned, Int.emod_eq_of_lt (by omega) (by omega), Int.toNat_natCast]
  rw [andThen, Word.add_of_lt (by omega), ok_bind, hgrowth, ok_bind, ← hbottom, hsub, ok_bind,
    Word.sub_of_le (by omega), ok_bind, removed, Word.sub_of_le hnext, ok_bind,
    Word.sub_of_le (by omega), ok_bind, Word.add_of_lt (by omega), ok_bind, hword, joined,
    ← hbottom]
  rfl

/-- **Splices compose**, in numbers without bounds: two splices that describe two changes in a row
describe the whole change together. -/
theorem Describes.joined {s next : Splice} {before middle after : List String}
    (hs : s.Describes before middle) (hnext : next.Describes middle after) :
    (s.joined next).Describes before after := by
  obtain ⟨⟨hstart₁, hstop₁, hlength₁⟩, habove₁, hbelow₁⟩ := describes_iff.1 hs
  obtain ⟨⟨hstart₂, hstop₂, hlength₂⟩, habove₂, hbelow₂⟩ := describes_iff.1 hnext
  have hold := stop_joined s next
  have hnew := reach_joined s hstart₂
  have htop := start_joined s next
  refine describes_iff.2 ⟨⟨joined_start_le next hstart₁, by omega, by omega⟩, ?_, ?_⟩
  · -- above both splices the first text is left alone by the one and then by the other
    have hsecond := congrArg (List.take (s.joined next).start) habove₂
    have hfirst := congrArg (List.take (s.joined next).start) habove₁
    rw [List.take_take, List.take_take, Nat.min_eq_left (by omega)] at hsecond hfirst
    exact hsecond.trans hfirst
  · -- below both splices likewise
    have hsecond := congrArg
      (List.drop (max (s.start + s.count) next.stop - next.stop)) hbelow₂
    have hfirst := congrArg
      (List.drop (max (s.start + s.count) next.stop - (s.start + s.count))) hbelow₁
    rw [List.drop_drop, List.drop_drop] at hsecond hfirst
    have hreach : next.stop + (max (s.start + s.count) next.stop - next.stop) =
        s.start + s.count + (max (s.start + s.count) next.stop - (s.start + s.count)) := by omega
    rw [hnew, hold, Nat.add_comm _ (next.start + next.count), hsecond, hreach, hfirst,
      Nat.add_comm _ s.stop]

/-- **Splices compose** without a fault, if the texts have fewer lines than half of all words. -/
theorem Describes.andThen {s next : Splice} {before middle after : List String}
    (hs : s.Describes before middle) (hnext : next.Describes middle after)
    (hbefore : before.length < Word.half) (hmiddle : middle.length < Word.half)
    (hafter : after.length < Word.half) :
    ∃ both, s.andThen next = .ok both ∧ both.Describes before after := by
  obtain ⟨⟨hstart₁, hstop₁, hlength₁⟩, -⟩ := describes_iff.1 hs
  obtain ⟨⟨hstart₂, hstop₂, hlength₂⟩, -⟩ := describes_iff.1 hnext
  have hjoined := hs.joined hnext
  obtain ⟨⟨-, hstop, hlength⟩, -⟩ := describes_iff.1 hjoined
  exact ⟨s.joined next, andThen_eq_joined hstart₁ hstart₂ (by omega) (by omega) (by omega)
    (by omega) (by omega), hjoined⟩

end Splice

end BracketTint
