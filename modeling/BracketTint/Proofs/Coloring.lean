import BracketTint.Proofs.Unclosed

/-!
# Colors of Brackets

A closer gets its place in the color cycle in one of two ways. Where colors depend on the opener
before, it takes the place that was kept with the open bracket. Otherwise it counts again what is
open around it. Both lead to the place of its opener, since between the two brackets of a pair what
is open around them is left alone: the open bracket that a closer takes was put on the stack by its
opener, above the same brackets (`Frame.OpenedBy`), and all of them belong to the brackets before
(`Document.nested_nestBefore`).

* `Document.closer_color_eq` — a matched closer, the open bracket that it takes and its opener have
  one place in the cycle, and the two brackets have one color.
-/

namespace BracketTint

/-- A closer that is matched takes the innermost open bracket. -/
theorem Nest.leave_of_matched {s : Scheme} {n : Nest} {pair : Nat} {p q : Position}
    (h : (n.leave s pair p).2.link = .matched q) :
    ∃ f outer, n.stack = f :: outer ∧ f.pair = pair ∧ f.position = q ∧
      (n.leave s pair p).1 = { n with stack := outer } ∧
      (n.leave s pair p).2.color = s.closeIndex f outer := by
  obtain ⟨f, hhead, rfl, rfl⟩ := ((n.link_leave s pair p).1 q).1 h
  obtain ⟨stack, memory⟩ := n
  obtain ⟨outer, rfl⟩ := List.head?_eq_some_iff.1 hhead
  rw [Nest.leave_of_pair]
  exact ⟨f, outer, rfl, rfl, rfl, rfl, rfl⟩

/-- The innermost open bracket comes from an opener that was read. -/
theorem Nested.exists_openedBy {s : Scheme} {f : Frame} {outer : List Frame} {bs : List Bracket}
    (h : Nested s (f :: outer) bs) : ∃ o ∈ bs, f.OpenedBy s outer o := by
  cases h with
  | opened habove ho hinner => exact ⟨_, by simp, ho⟩

/-- Two brackets with partners, of one pair and at one place in the cycle, have the same color. -/
theorem Scheme.colorOf_eq (s : Scheme) {a b : Bracket} (hpair : a.pair = b.pair)
    (hcolor : a.color = b.color) (ha : a.link ≠ .stray) (hb : b.link ≠ .stray) :
    s.colorOf a = s.colorOf b := by
  simp [colorOf, Bracket.isStray, hpair, hcolor, ha, hb]

/-- **A closer has the color of its opener.** Under any scheme, in any text, what the scan holds
where a matched closer stands has its opener as the innermost open bracket, and the scan takes that
one off the stack. The place in the cycle that is then computed for the closer is the one kept with
the open bracket and that of the opener, so the two brackets are colored alike. -/
theorem Document.closer_color_eq (s : Scheme) (texts : List String) :
    ∀ c ∈ (parse s texts).brackets, c.side = .closer → ∀ p, c.link = .matched p →
      ∃ f outer o, (nestBefore s texts c.position).stack = f :: outer ∧ f.position = p ∧
        (nestBefore s texts c.position).leave s c.pair c.position =
          ({ nestBefore s texts c.position with stack := outer }, c) ∧
        c.color = s.closeIndex f outer ∧ s.closeIndex f outer = f.color ∧
        (parse s texts).bracketsAt p = [o] ∧ o.side = .opener ∧ o.color = f.color ∧
        s.colorOf o = s.colorOf c := by
  intro c hc hside p hlink
  have hfound := (mem_brackets_closer hside).1 hc
  have hnested := (nested_nestBefore hfound).1
  have hread := leave_nestBefore hfound hside
  -- the open bracket that the closer takes, and the opener that it comes from
  obtain ⟨f, outer, hstack, hpair, hposition, hleft, hcolor⟩ :=
    Nest.leave_of_matched (show Bracket.link _ = .matched p by rw [hread, hlink])
  rw [hread] at hcolor
  rw [hstack] at hnested
  obtain ⟨o, ho, hopened⟩ := hnested.exists_openedBy
  have hpinned : s.closeIndex f outer = f.color := hopened.color.symm.trans hopened.pinned
  have hoposition : o.position = p := hopened.position.trans hposition
  have hmem : (parse s texts).resolve o ∈ (parse s texts).brackets :=
    List.mem_map_of_mem (List.mem_filter.1 ho).1
  -- once resolved, the opener is linked to the closer
  have hmatched : ((parse s texts).resolve o).link = .matched c.position := by
    rw [link_resolve_opener _ hopened.side, hoposition]
    exact partner?_eq_some_iff.2 ⟨c, hc, hside, rfl, hlink⟩
  have hocolor : ((parse s texts).resolve o).color = f.color := by
    rw [resolve_eq]
    exact hopened.pinned
  have hopair : ((parse s texts).resolve o).pair = c.pair := by
    rw [resolve_eq]
    exact hopened.pair.trans hpair
  refine ⟨f, outer, (parse s texts).resolve o, hstack, hposition, Prod.ext hleft hread, hcolor,
    hpinned, ?_, (side_resolve _ o).trans hopened.side, hocolor, ?_⟩
  · rw [← hoposition, ← position_resolve (parse s texts) o]
    exact bracketsAt_eq hmem
  · refine s.colorOf_eq hopair (hocolor.trans (hpinned.symm.trans hcolor.symm)) ?_ ?_
    · simp [hmatched]
    · simp [hlink]

/-- Pairs with cycles of different length over two lines: a closer that has one bracket open around
it, where colors follow from nesting. -/
theorem Document.closer_color_eq_across :
    let s : Scheme :=
      ⟨[⟨'(', ')', ["a", "b", "c"], "x"⟩, ⟨'[', ']', ["d", "e"], "x"⟩], .consecutive, false, false,
        0⟩
    let texts := ["( [ (", ") x ] )"]
    let c : Bracket := ⟨1, .closer, ⟨1, 4, 5⟩, 2, 1, .matched ⟨0, 2⟩⟩
    c ∈ (parse s texts).brackets ∧
      ∃ f outer o, (nestBefore s texts ⟨1, 4⟩).stack = f :: outer ∧ f.position = ⟨0, 2⟩ ∧
        s.closeIndex f outer = f.color ∧ (parse s texts).bracketsAt ⟨0, 2⟩ = [o] ∧
        o.color = f.color ∧ s.colorOf o = s.colorOf c := by
  intro s texts c
  have hc : c ∈ (parse s texts).brackets := by decide
  obtain ⟨f, outer, o, hstack, hposition, -, -, hpinned, hat, -, hcolor, hsame⟩ :=
    closer_color_eq s texts c hc rfl _ rfl
  exact ⟨hc, f, outer, o, hstack, hposition, hpinned, hat, hcolor, hsame⟩

end BracketTint
