import BracketTint.Proofs.Revision

/-!
# Merging Any Number of Splices

A document that was not scanned for a while has seen many splices, and they are merged from the
left into one. Each tells of a change of the text as it was then, and may reach beyond that text, in
which case it is brought inside it (`Splice.Explains`). The bounds of a merged splice are worked out
as if no splice had reached beyond, so they need not be those of the real change. Still nothing is
missed (`Splice.Covers`):

* above the merged splice, brought inside the first text, nothing has changed;
* if it lies within the first text, it describes the whole change. If it reaches beyond, then all
  lines down to the end count as changed, whatever its number of new lines says.

One more splice keeps this (`Splice.Covers.joined`), and so do any number of them
(`Splice.merged_covers`).

## Numbers

Merging computes in words. `Splice.Roomy` says of the numbers that are formed on the way, worked out
without bounds, that they stay in the lower half of the words; then nothing faults
(`Splice.Roomy.foldlM`).
-/

namespace BracketTint

namespace Splice

variable {s next : Splice} {before middle after : List String}

/-- A splice, brought inside a text, tells how the text became another one. -/
def Explains (s : Splice) (before after : List String) : Prop :=
  let start := min s.start before.length
  let stop := max start (min s.stop before.length)
  ∃ lines : List String, lines.length = s.count ∧
    after = before.take start ++ lines ++ before.drop stop

/-- A splice covers all that changed between two texts. -/
structure Covers (s : Splice) (before after : List String) : Prop where
  start_le : s.start ≤ s.stop
  above : after.take (min s.start before.length) = before.take (min s.start before.length)
  within : s.stop ≤ before.length → s.Describes before after

/-- Above a splice that explains a change the text stays. -/
theorem Explains.take_eq (h : s.Explains before after) {n : Nat} (hstart : n ≤ s.start)
    (hbefore : n ≤ before.length) : after.take n = before.take n := by
  obtain ⟨lines, -, rfl⟩ := h
  have hlength : n ≤ (before.take (min s.start before.length)).length := by
    rw [List.length_take]
    omega
  rw [List.append_assoc, List.take_append_of_le_length hlength, List.take_take,
    Nat.min_eq_left (by omega)]

/-- A splice that explains a change and lies within the text describes it. -/
theorem Explains.describes (h : s.Explains before after) (hle : s.start ≤ s.stop)
    (hstop : s.stop ≤ before.length) : s.Describes before after := by
  obtain ⟨lines, hcount, hafter⟩ := h
  rw [Nat.min_eq_left (by omega), Nat.min_eq_left hstop, Nat.max_eq_right hle] at hafter
  exact ⟨hle, hstop, lines, hcount, hafter⟩

/-- A splice that explains a change covers it. -/
theorem Explains.covers (h : s.Explains before after) (hle : s.start ≤ s.stop) :
    s.Covers before after :=
  ⟨hle, h.take_eq (Nat.min_le_left _ _) (Nat.min_le_right _ _), h.describes hle⟩

/-- Texts that agree in their first lines both have that many. -/
theorem Covers.start_le_length (h : s.Covers before after) :
    min s.start before.length ≤ after.length := by
  have hlength := congrArg List.length h.above
  rw [List.length_take, List.length_take] at hlength
  omega

/-- **One more splice.** If a splice covers a change and the next one explains the change after it,
the two together cover both. -/
theorem Covers.joined (h : s.Covers before middle) (hnext : next.Explains middle after)
    (hle : next.start ≤ next.stop) : (s.joined next).Covers before after := by
  have hs := h.start_le
  have hmiddle := h.start_le_length
  refine ⟨joined_start_le next hs, ?_, fun hstop => ?_⟩
  · -- what lies above both splices is above the first one and above the second one
    have htop := start_joined s next
    have hfirst := congrArg (List.take (min (s.joined next).start before.length)) h.above
    rw [List.take_take, List.take_take, Nat.min_eq_left (by omega)] at hfirst
    rw [hnext.take_eq (by omega) (by omega), hfirst]
  · -- if the two together lie within the first text, then each lies within its own text
    have hjoined := stop_joined s next
    have hdescribes := h.within (by omega)
    have hlength := (describes_iff.1 hdescribes).1.length
    exact hdescribes.joined (hnext.describes hle (by omega))

/-- **What covering is good for**: brought inside the first text, a splice that covers a change
describes it. If it lies within, it stays as it is. -/
theorem Covers.fit? (h : s.Covers before after) :
    (∃ fitted, s.fit? before.length after.length = some fitted ∧ fitted.Describes before after) ∧
      (s.stop ≤ before.length → s.fit? before.length after.length = some s) := by
  have hs := h.start_le
  have hself (hstop : s.stop ≤ before.length) :
      s.fit? before.length after.length = some s :=
    fit?_eq_some_iff.2 ⟨by omega, by omega, (describes_iff.1 (h.within hstop)).1⟩
  refine ⟨?_, hself⟩
  by_cases hstop : s.stop ≤ before.length
  · exact ⟨s, hself hstop, h.within hstop⟩
  · have hafter := h.start_le_length
    have hfits : Fits ⟨min s.start before.length, before.length,
        after.length - min s.start before.length⟩ before.length after.length :=
      ⟨by dsimp only; omega, Nat.le_refl _, by dsimp only; omega⟩
    refine ⟨_, fit?_eq_some_iff.2 ⟨rfl, by dsimp only; omega, hfits⟩,
      describes_iff.2 ⟨hfits, h.above, ?_⟩⟩
    dsimp only
    rw [List.drop_eq_nil_of_le (by omega), List.drop_eq_nil_of_le (Nat.le_refl _)]

/-- The numbers that are formed when two splices are merged. -/
def formed (s next : Splice) : List Nat :=
  [s.stop, s.start + s.count, next.stop, (s.joined next).stop, (s.joined next).count]

/-- No number formed when splices are merged from the left is half of all words or more. -/
def Roomy : Splice → List Splice → Prop
  | _, [] => True
  | s, next :: rest => (∀ n ∈ s.formed next, n < Word.half) ∧ Roomy (s.joined next) rest

/-- Two splices are merged without a fault if there is room. -/
theorem andThen_of_formed (hs : s.start ≤ s.stop) (hnext : next.start ≤ next.stop)
    (hroom : ∀ n ∈ s.formed next, n < Word.half) : s.andThen next = .ok (s.joined next) := by
  simp only [formed, List.forall_mem_cons] at hroom
  obtain ⟨hstop, hreach, hnextStop, hjoinedStop, hjoinedCount, -⟩ := hroom
  exact andThen_eq_joined hs hnext hstop hreach hnextStop hjoinedStop hjoinedCount

/-- Splices are merged from the left without a fault if there is room. -/
theorem Roomy.foldlM {rest : List Splice} (hroomy : Roomy s rest) (hs : s.start ≤ s.stop)
    (hrest : ∀ r ∈ rest, r.start ≤ r.stop) :
    rest.foldlM andThen s = .ok (rest.foldl joined s) := by
  induction rest generalizing s with
  | nil => rfl
  | cons next rest ih =>
      obtain ⟨hnext, hrest⟩ := List.forall_mem_cons.1 hrest
      obtain ⟨hroom, hroomyRest⟩ := hroomy
      rw [List.foldlM_cons, andThen_of_formed hs hnext hroom, ok_bind,
        ih hroomyRest (joined_start_le next hs) hrest, List.foldl_cons]

end Splice

namespace Revision

/-- Splices that follow each other, each of which explains how its text came about. -/
def ExplainedFrom : List String → List Revision → Prop
  | _, [] => True
  | before, r :: rest => r.splice.Explains before r.lines ∧ ExplainedFrom r.lines rest

/-- Splices that follow each other, each of which lies within the text before it. -/
def WithinFrom : List String → List Revision → Prop
  | _, [] => True
  | before, r :: rest => r.splice.stop ≤ before.length ∧ WithinFrom r.lines rest

/-- The text after some revisions. -/
def finalLines : List String → List Revision → List String
  | before, [] => before
  | _, r :: rest => finalLines r.lines rest

end Revision

namespace Splice

open Revision (ExplainedFrom WithinFrom finalLines)

/-- **A run of splices**, in numbers without bounds. A splice that covers what changed so far is joined
with all that follow, and the joined splice covers the whole change. If none of them reaches beyond
its text, neither does the joined splice. -/
theorem Covers.foldl {s : Splice} {before middle : List String} {revisions : List Revision}
    (h : s.Covers before middle) (hle : ∀ r ∈ revisions, r.splice.start ≤ r.splice.stop)
    (hexplained : ExplainedFrom middle revisions) :
    let merged := (revisions.map Revision.splice).foldl Splice.joined s
    merged.Covers before (finalLines middle revisions) ∧
      (s.stop ≤ before.length → WithinFrom middle revisions → merged.stop ≤ before.length) := by
  induction revisions generalizing s middle with
  | nil => exact ⟨h, fun hstop _ => hstop⟩
  | cons r rest ih =>
      obtain ⟨hr, hrest⟩ := List.forall_mem_cons.1 hle
      obtain ⟨hexplains, hexplainedRest⟩ := hexplained
      obtain ⟨hcovers, hwithin⟩ := ih (h.joined hexplains hr) hrest hexplainedRest
      refine ⟨hcovers, ?_⟩
      rintro hstop ⟨hrstop, hrestWithin⟩
      have hdescribes := (h.within hstop).joined (hexplains.describes hr hrstop)
      exact hwithin hdescribes.stop_le hrestWithin

/-- **A run of splices**, in words: as long as there is room nothing faults. -/
theorem Covers.foldlM {s : Splice} {before middle : List String} {revisions : List Revision}
    (h : s.Covers before middle) (hle : ∀ r ∈ revisions, r.splice.start ≤ r.splice.stop)
    (hexplained : ExplainedFrom middle revisions)
    (hroomy : Roomy s (revisions.map Revision.splice)) :
    ∃ merged, (revisions.map Revision.splice).foldlM andThen s = .ok merged ∧
      merged.Covers before (finalLines middle revisions) ∧
      (s.stop ≤ before.length → WithinFrom middle revisions → merged.stop ≤ before.length) :=
  ⟨_, hroomy.foldlM h.start_le (List.forall_mem_map.2 hle), h.foldl hle hexplained⟩

/-- **Merging covers any sequence of splices.** Splices that follow each other, the first of which
starts from the text `before`, are merged without a fault as long as there is room. The merged
splice, brought inside the first text, leaves above and below it only lines that stayed; and if no
splice reaches beyond its text, the merged splice lies within the first one as it is. -/
theorem merged_covers {before : List String} {first : Revision} {rest : List Revision}
    (hle : ∀ r ∈ first :: rest, r.splice.start ≤ r.splice.stop)
    (hexplained : ExplainedFrom before (first :: rest))
    (hroomy : Roomy first.splice (rest.map Revision.splice)) :
    ∃ merged, (rest.map Revision.splice).foldlM andThen first.splice = .ok merged ∧
      merged.start ≤ merged.stop ∧
      (∃ fitted, merged.fit? before.length (finalLines before (first :: rest)).length =
          some fitted ∧
        (finalLines before (first :: rest)).take fitted.start = before.take fitted.start ∧
        (finalLines before (first :: rest)).drop (fitted.start + fitted.count) =
          before.drop fitted.stop) ∧
      (WithinFrom before (first :: rest) → merged.stop ≤ before.length ∧
        merged.fit? before.length (finalLines before (first :: rest)).length = some merged) := by
  obtain ⟨hfirst, hrest⟩ := List.forall_mem_cons.1 hle
  obtain ⟨hexplains, hexplainedRest⟩ := hexplained
  obtain ⟨merged, hmerged, hcovers, hwithin⟩ :=
    (hexplains.covers hfirst).foldlM hrest hexplainedRest hroomy
  obtain ⟨⟨fitted, hfit, hdescribes⟩, hself⟩ := hcovers.fit?
  refine ⟨merged, hmerged, hcovers.start_le,
    ⟨fitted, hfit, (describes_iff.1 hdescribes).2⟩, ?_⟩
  rintro ⟨hstop, hrestWithin⟩
  have hmergedStop := hwithin hstop hrestWithin
  exact ⟨hmergedStop, hself hmergedStop⟩

/-- Two lines go in far below the end of a text, and then a line above them goes away. -/
theorem merged_covers_beyond :
    let before := ["a", "b"]
    let first : Revision := ⟨⟨5, 7, 2⟩, ["a", "b", "c", "d"]⟩
    let rest : List Revision := [⟨⟨1, 2, 0⟩, ["a", "c", "d"]⟩]
    (∀ r ∈ first :: rest, r.splice.start ≤ r.splice.stop) ∧
      ExplainedFrom before (first :: rest) ∧
      Roomy first.splice (rest.map Revision.splice) ∧
      ∃ merged, (rest.map Revision.splice).foldlM andThen first.splice = .ok merged ∧
        merged.start ≤ merged.stop ∧
        ∃ fitted, merged.fit? 2 3 = some fitted ∧
          ["a", "c", "d"].take fitted.start = before.take fitted.start ∧
          ["a", "c", "d"].drop (fitted.start + fitted.count) = before.drop fitted.stop := by
  intro before first rest
  have hle : ∀ r ∈ first :: rest, r.splice.start ≤ r.splice.stop := by decide
  have hexplained : ExplainedFrom before (first :: rest) :=
    ⟨⟨["c", "d"], rfl, rfl⟩, ⟨[], rfl, rfl⟩, trivial⟩
  have hroomy : Roomy first.splice (rest.map Revision.splice) := ⟨by decide, trivial⟩
  obtain ⟨merged, hmerged, hstart, hfitted, -⟩ := merged_covers hle hexplained hroomy
  exact ⟨hle, hexplained, hroomy, merged, hmerged, hstart, hfitted⟩

end Splice

end BracketTint
