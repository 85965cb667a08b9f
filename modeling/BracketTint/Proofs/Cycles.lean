import BracketTint.Proofs.Unclosed

/-!
# Color Cycles

An opener gets its place in the color cycle from what the scan holds where it stands: the stack of
open brackets and the memory of the latest colors. Neither is part of the result, so this module
says the same by the brackets of the text alone.

The openers that run through one cycle are a stretch of their own (`Scheme.cycle`): all openers
where the pairs share a cycle, and otherwise those of one pair. What is open in a cycle are its
unclosed openers (`Scheme.nesting_eq`), and what is remembered for it is the color of its last
opener, if anything is remembered at all (`ColorMemory.Recalls`; one bracket keeps it by
`Nest.recalls_meet`). So the place of an opener follows from the openers of its cycle that stand
before it, and from which of them are unclosed there.

## Main results

* `Document.colors_follow_depth` — without the two flags, the place is the number of unclosed
  openers, and nothing is remembered;
* `Document.colors_rotate` — with rotation, the place is the number of the opener in its cycle;
* `Document.colors_avoid_repeat` — where repeats are avoided, the place is the number of unclosed
  openers, or one more if the opener before has that place.
-/

namespace BracketTint

/-! ### The openers of a cycle -/

namespace Scheme

variable {s : Scheme} {pair : Nat} {bs : List Bracket}

/-- The openers that run through the color cycle of a pair: all of them where the pairs share one
cycle, and otherwise those of the pair. -/
def cycle (s : Scheme) (pair : Nat) (bs : List Bracket) : List Bracket :=
  bs.filter fun b => b.side = .opener ∧ (s.scope = .independent → b.pair = pair)

theorem mem_cycle {b : Bracket} : b ∈ s.cycle pair bs ↔
    b ∈ bs ∧ b.side = .opener ∧ (s.scope = .independent → b.pair = pair) := by
  simp only [cycle, List.mem_filter, decide_eq_true_eq]

theorem cycle_of_consecutive (hscope : s.scope = .consecutive) (pair : Nat) (bs : List Bracket) :
    s.cycle pair bs = bs.filter fun b => b.side = .opener := by
  simp [cycle, hscope]

theorem cycle_of_independent (hscope : s.scope = .independent) (pair : Nat) (bs : List Bracket) :
    s.cycle pair bs = bs.filter fun b => b.side = .opener ∧ b.pair = pair := by
  simp [cycle, hscope]

/-- One more bracket is the last of a cycle, if it is an opener of that cycle. -/
theorem cycle_concat (s : Scheme) (pair : Nat) (bs : List Bracket) (b : Bracket) :
    s.cycle pair (bs ++ [b]) =
      if b.side = .opener ∧ (s.scope = .independent → b.pair = pair) then s.cycle pair bs ++ [b]
      else s.cycle pair bs := by
  rw [cycle, List.filter_append, ← cycle, List.filter_cons, List.filter_nil]
  by_cases hcycle : b.side = .opener ∧ (s.scope = .independent → b.pair = pair)
  · rw [if_pos hcycle, if_pos (decide_eq_true hcycle)]
  · rw [if_neg hcycle, if_neg fun h => hcycle (of_decide_eq_true h), List.append_nil]

/-- The cycle of a pair is that of each opener in it. -/
theorem cycle_eq_of_mem {b : Bracket} (hb : b ∈ s.cycle pair bs) :
    s.cycle b.pair = s.cycle pair := by
  funext more
  obtain ⟨-, -, hpair⟩ := mem_cycle.1 hb
  cases hscope : s.scope with
  | consecutive => rw [cycle_of_consecutive hscope, cycle_of_consecutive hscope]
  | independent => rw [hpair hscope]

/-- The open brackets that count for a pair are the openers of its cycle that are open. -/
theorem nesting_eq {stack : List Frame} (hstack : stack.reverse = bs.map Bracket.frame)
    (hopeners : ∀ b ∈ bs, b.side = .opener) (pair : Nat) :
    s.nesting pair stack = (s.cycle pair bs).length := by
  cases hscope : s.scope with
  | consecutive =>
      have hall : bs.filter (fun b => b.side = .opener) = bs := by
        refine List.filter_eq_self.2 ?_
        intro b hb
        exact decide_eq_true (hopeners b hb)
      rw [cycle_of_consecutive hscope, hall, ← List.length_map Bracket.frame, ← hstack,
        List.length_reverse]
      simp only [nesting, hscope]
  | independent =>
      have hpairs : bs.filter (fun b => b.side = .opener ∧ b.pair = pair) =
          bs.filter ((fun f : Frame => f.pair == pair) ∘ Bracket.frame) := by
        refine List.filter_congr ?_
        intro b hb
        rw [Bool.eq_iff_iff]
        simp [hopeners b hb, Bracket.frame]
      rw [cycle_of_independent hscope, hpairs, ← List.countP_eq_length_filter, ← List.countP_map,
        ← hstack, List.countP_reverse]
      simp only [nesting, hscope]

/-! ### The place of an opener -/

/-- Without the two flags the place of an opener is the number of open brackets that count for its
pair. -/
theorem openIndex_of_forgets (hforgets : s.remembers = false) (n : Nest) (pair : Nat) :
    s.openIndex n pair = s.nesting pair n.stack % s.cycleLength pair := by
  refine (s.openIndex_eq_closeIndex n pair ⟨0, 0⟩).trans ?_
  simp [closeIndex, hforgets]

/-- One step along a cycle of more than one place leads to another place. -/
theorem step_ne {length : Nat} (hlength : 1 < length) (index : Nat) :
    (index + 1) % length ≠ index % length := by
  intro hsame
  have hone := Nat.sub_mod_eq_zero_of_mod_eq hsame
  rw [Nat.add_sub_cancel_left, Nat.mod_eq_of_lt hlength] at hone
  exact absurd hone (by decide)

/-- Where colors rotate, the first opener of a cycle takes the first place. -/
theorem openIndex_of_latest_none (hrotate : s.rotate = true) {n : Nest}
    (hlatest : s.latest n.memory pair = none) : s.openIndex n pair = 0 := by
  simp [openIndex, plainIndex, hrotate, hlatest]

/-- Where colors rotate, each other opener takes the place after that of the opener before. This is
never a repeat, so the flag that avoids repeats has no say. -/
theorem openIndex_of_latest_some (hrotate : s.rotate = true) {n : Nest} {index : Nat}
    (hlatest : s.latest n.memory pair = some index) (hindex : index < s.cycleLength pair) :
    s.openIndex n pair = (index + 1) % s.cycleLength pair := by
  have hplain : s.plainIndex n pair = (index + 1) % s.cycleLength pair := by
    rw [plainIndex, if_pos hrotate, hlatest]
  rw [openIndex, hplain, hlatest, if_neg]
  intro havoid
  simp only [Bool.and_eq_true, decide_eq_true_eq, beq_iff_eq, Option.some.injEq] at havoid
  obtain ⟨⟨-, hlength⟩, hrepeat⟩ := havoid
  exact step_ne hlength index (hrepeat.symm.trans (Nat.mod_eq_of_lt hindex).symm)

/-- Where repeats are avoided, an opener takes one step more if the opener before has the place
that follows from nesting. -/
theorem openIndex_of_avoidRepeat (havoid : s.avoidRepeat = true) (hrotate : s.rotate = false)
    (n : Nest) (pair : Nat) :
    s.openIndex n pair =
      if 1 < s.cycleLength pair ∧
          s.latest n.memory pair = some (s.nesting pair n.stack % s.cycleLength pair) then
        (s.nesting pair n.stack + 1) % s.cycleLength pair
      else s.nesting pair n.stack % s.cycleLength pair := by
  have hplain : s.plainIndex n pair = s.nesting pair n.stack % s.cycleLength pair := by
    simp [plainIndex, hrotate]
  simp [openIndex, hplain, havoid]

/-- So in a cycle of more than one place no opener takes the place of the opener before. -/
theorem openIndex_ne_latest (havoid : s.avoidRepeat = true) (hrotate : s.rotate = false) {n : Nest}
    {index : Nat} (hlength : 1 < s.cycleLength pair)
    (hlatest : s.latest n.memory pair = some index) : s.openIndex n pair ≠ index := by
  rw [openIndex_of_avoidRepeat havoid hrotate, hlatest]
  split
  next hrepeat =>
    rw [Option.some.inj hrepeat.2]
    exact step_ne hlength _
  next hfree =>
    intro hsame
    exact hfree ⟨hlength, congrArg some hsame.symm⟩

/-- A pair that a character stands for is one of the scheme, and the character is its side. -/
theorem getElem?_of_classify {c : Char} {side : Side} (h : s.classify c = some (pair, side)) :
    ∃ p, s.pairs[pair]? = some p ∧ p.side? c = some side := by
  obtain ⟨⟨p, i⟩, hmem, hside⟩ := List.exists_of_findSome?_eq_some h
  obtain ⟨side', hp, heq⟩ := Option.map_eq_some_iff.1 hside
  obtain ⟨rfl, rfl⟩ := Prod.mk.inj heq
  exact ⟨p, List.mem_zipIdx_iff_getElem?.1 hmem, hp⟩

end Scheme

/-! ### What is remembered -/

variable {s : Scheme}

/-- What is remembered for each cycle is the color of its last opener. -/
def ColorMemory.Recalls (s : Scheme) (memory : ColorMemory) (bs : List Bracket) : Prop :=
  ∀ pair, s.latest memory pair = (s.cycle pair bs).getLast?.map Bracket.color

/-- A closer leaves the memory alone. -/
theorem Nest.memory_leave (s : Scheme) (n : Nest) (pair : Nat) (p : Position) :
    (n.leave s pair p).1.memory = n.memory := by
  simp only [leave]
  split
  · split <;> rfl
  · rfl

/-- **One bracket**: an opener is the last of its cycle from then on, and a closer belongs to
none. -/
theorem Nest.recalls_meet (hremembers : s.remembers = true) (n : Nest) (bs : List Bracket)
    (pair : Nat) (side : Side) (p : Position) (h : n.memory.Recalls s bs) :
    (n.meet s pair side p).1.memory.Recalls s (bs ++ [(n.meet s pair side p).2]) := by
  intro other
  rw [Scheme.cycle_concat]
  obtain ⟨hpair, hside⟩ := n.pair_side_meet s pair side p
  rw [hpair, hside]
  cases side with
  | opener =>
      have hlatest := s.latest_remember n.memory pair other (s.openIndex n pair)
      by_cases hcycle : s.scope = .independent → pair = other
      · rw [if_pos ⟨rfl, hcycle⟩, List.getLast?_concat]
        exact hlatest.trans (if_pos ⟨hremembers, hcycle⟩)
      · rw [if_neg fun h => hcycle h.2, ← h other]
        exact hlatest.trans (if_neg fun h => hcycle h.2)
  | closer =>
      rw [if_neg fun h => absurd h.1 (by decide), ← h other]
      exact congrArg (s.latest · other) (n.memory_leave s pair p)

/-- Without the two flags nothing is ever remembered. -/
theorem Nest.memory_meet_of_forgets (hforgets : s.remembers = false) (n : Nest) (pair : Nat)
    (side : Side) (p : Position) : (n.meet s pair side p).1.memory = n.memory := by
  cases side with
  | opener => simp [meet, enter, Scheme.remember, hforgets]
  | closer => exact n.memory_leave s pair p

namespace Document

variable {texts : List String} {t : Bracket}

/-- So the memory is empty after any lines. -/
theorem memory_eq_of_forgets (hforgets : s.remembers = false) (texts : List String) :
    (contextFrom {} (scanLines s 0 {} texts)).nest.memory = {} := by
  have hmeet (n : Nest) (_ : List Bracket) (pair : Nat) (side : Side) (p : Position)
      (hmemory : n.memory = {}) : (n.meet s pair side p).1.memory = {} := by
    rw [n.memory_meet_of_forgets hforgets, hmemory]
  exact @scanLines_keeps s (fun n _ => n.memory = {}) hmeet 0 {} [] rfl texts

/-- Every row of a text starts and ends with an empty memory, then. -/
theorem memory_of_mem_rows (hforgets : s.remembers = false) {row : Row}
    (hrow : row ∈ (parse s texts).rows) :
    row.entry.nest.memory = {} ∧ row.exit.nest.memory = {} := by
  obtain ⟨k, text, hscan, hexit⟩ := exists_scan_of_mem hrow
  constructor
  · rw [hscan]
    exact memory_eq_of_forgets hforgets (texts.take k)
  · rw [hexit]
    exact memory_eq_of_forgets hforgets (texts.take (k + 1))

theorem color_resolve (d : Document) (b : Bracket) : (d.resolve b).color = b.color := by
  rw [resolve_eq]

theorem pair_resolve (d : Document) (b : Bracket) : (d.resolve b).pair = b.pair := by
  rw [resolve_eq]

/-- Resolving has no part in what runs through a cycle. -/
theorem cycle_map_resolve (d : Document) (pair : Nat) (bs : List Bracket) :
    s.cycle pair (bs.map d.resolve) = (s.cycle pair bs).map d.resolve := by
  simp only [Scheme.cycle, List.filter_map, Function.comp_def, side_resolve, pair_resolve]

/-- What is remembered where a bracket is read are the colors of the openers before it. -/
theorem latest_nestBefore (hremembers : s.remembers = true) (ht : t ∈ (parse s texts).brackets)
    (pair : Nat) :
    s.latest (nestBefore s texts t.position).memory pair =
      (s.cycle pair ((parse s texts).bracketsBefore t.position)).getLast?.map Bracket.color := by
  obtain ⟨raw, hraw, rfl⟩ := List.mem_map.1 ht
  have hstart : ({} : Context).nest.memory.Recalls s [] := by
    intro pair
    rw [Scheme.latest]
    split <;> rfl
  have hrecalls := (nestBefore_keeps (motive := fun n bs => n.memory.Recalls s bs)
    (Nest.recalls_meet hremembers) hstart hraw).1 pair
  rw [position_resolve, hrecalls, bracketsBefore_parse, cycle_map_resolve, List.getLast?_map,
    Option.map_map]
  refine congrArg (Option.map · _) (funext ?_)
  intro b
  exact (color_resolve _ b).symm

/-- What is open where a bracket of the resolved text is read. -/
theorem stack_nestBefore_of_mem (ht : t ∈ (parse s texts).brackets) :
    (nestBefore s texts t.position).stack.reverse =
      (unclosed ((parse s texts).bracketsBefore t.position)).map Bracket.frame := by
  obtain ⟨raw, hraw, rfl⟩ := List.mem_map.1 ht
  rw [position_resolve]
  exact stack_nestBefore hraw

/-- What is open in a cycle where a bracket is read are its unclosed openers before the bracket. -/
theorem nesting_nestBefore (ht : t ∈ (parse s texts).brackets) (pair : Nat) :
    s.nesting pair (nestBefore s texts t.position).stack =
      (s.cycle pair (unclosed ((parse s texts).bracketsBefore t.position))).length := by
  refine Scheme.nesting_eq (stack_nestBefore_of_mem ht) ?_ pair
  intro b hb
  exact (mem_unclosed.1 hb).2.1

/-- The depth and the place of an opener, from what the scan holds where it stands. -/
theorem depth_color_opener (ht : t ∈ (parse s texts).brackets) (hside : t.side = .opener) :
    t.depth = (nestBefore s texts t.position).stack.length + 1 ∧
      t.color = s.openIndex (nestBefore s texts t.position) t.pair := by
  obtain ⟨raw, hraw, rfl⟩ := List.mem_map.1 ht
  have hmet := (nested_nestBefore hraw).2
  rw [side_resolve] at hside
  rw [hside] at hmet
  rw [resolve_eq]
  exact ⟨congrArg Bracket.depth hmet, congrArg Bracket.color hmet⟩

/-! ### Openers in text order -/

theorem inOrder_brackets (s : Scheme) (texts : List String) :
    InOrder (parse s texts).brackets := by
  rw [brackets_parse, InOrder, List.pairwise_map]
  refine (inOrder_found s texts).imp ?_
  intro a b hbefore
  rwa [position_resolve, position_resolve]

/-- The openers of a cycle before the opener with number `k` are the first `k`. -/
theorem cycle_bracketsBefore {pair k : Nat}
    (ht : (s.cycle pair (parse s texts).brackets)[k]? = some t) :
    s.cycle pair ((parse s texts).bracketsBefore t.position) =
      (s.cycle pair (parse s texts).brackets).take k := by
  have hsorted : (s.cycle pair (parse s texts).brackets).Pairwise
      fun a b => a.position.Before b.position := (inOrder_brackets s texts).filter _
  rw [bracketsBefore, Scheme.cycle, List.filter_comm, ← Scheme.cycle]
  generalize s.cycle pair (parse s texts).brackets = openers at ht hsorted
  obtain ⟨left, right, rfl, rfl⟩ :
      ∃ left right, openers = left ++ t :: right ∧ left.length = k := by
    obtain ⟨hlt, rfl⟩ := List.getElem?_eq_some_iff.1 ht
    refine ⟨openers.take k, openers.drop (k + 1), ?_, List.length_take_of_le (Nat.le_of_lt hlt)⟩
    rw [← List.drop_eq_getElem_cons hlt, List.take_append_drop]
  rw [List.take_left]
  exact filter_of_pairwise (fun _ _ => Position.Before.asymm) hsorted

/-- The last opener of a cycle before another one is the one with the number before. -/
theorem getLast?_cycle_bracketsBefore {pair k : Nat} {a : Bracket}
    (ha : (s.cycle pair (parse s texts).brackets)[k]? = some a)
    (ht : (s.cycle pair (parse s texts).brackets)[k + 1]? = some t) :
    (s.cycle pair ((parse s texts).bracketsBefore t.position)).getLast? = some a := by
  rw [cycle_bracketsBefore ht, List.getLast?_take, if_neg (Nat.succ_ne_zero k),
    Nat.add_sub_cancel, ha, Option.some_or]

/-- The brackets of a document down to a position, the one there included. -/
def bracketsTo (d : Document) (p : Position) : List Bracket :=
  d.brackets.filter fun b => ¬ p.Before b.position

/-- An opener is unclosed where it stands, and last among the unclosed ones. -/
theorem unclosed_bracketsTo (ht : t ∈ (parse s texts).brackets) (hside : t.side = .opener) :
    unclosed ((parse s texts).bracketsTo t.position) =
      unclosed ((parse s texts).bracketsBefore t.position) ++ [t] := by
  obtain ⟨raw, hraw, rfl⟩ := List.mem_map.1 ht
  rw [side_resolve] at hside
  obtain ⟨left, right, hfound⟩ : ∃ left right, found s texts = left ++ raw :: right :=
    List.append_of_mem hraw
  have hsorted : InOrder (left ++ raw :: right) := hfound ▸ inOrder_found s texts
  have hbefore : foundBefore s texts raw.position = left := by
    rw [foundBefore, hfound]
    exact filter_of_pairwise (fun _ _ => Position.Before.asymm) hsorted
  have hto : (parse s texts).bracketsTo raw.position =
      (left ++ [raw]).map (parse s texts).resolve := by
    rw [bracketsTo, brackets_parse, List.filter_map, hfound]
    simp only [Function.comp_def, position_resolve]
    rw [filter_not_of_pairwise (fun _ _ => Position.Before.asymm) hsorted]
  have hnodup : ((left ++ [raw]).map Bracket.position).Nodup := by
    refine List.pairwise_map.2 (List.Pairwise.imp Position.Before.ne (hsorted.sublist ?_))
    exact (List.append_sublist_append_left left).2 (by simp)
  have hnested := (nested_nestBefore hraw).1
  rw [hbefore] at hnested
  rw [position_resolve, hto, bracketsBefore_parse, hbefore, unclosed_map_resolve,
    unclosed_map_resolve, hnested.unclosed_append hside .nil hnodup, List.map_append]
  rfl

/-- **The depth of an opener** is the number of openers down to it that are unclosed there. -/
theorem depth_eq_unclosed (ht : t ∈ (parse s texts).brackets) (hside : t.side = .opener) :
    t.depth = (unclosed ((parse s texts).bracketsTo t.position)).length := by
  have hstack := congrArg List.length (stack_nestBefore_of_mem ht)
  rw [List.length_reverse, List.length_map] at hstack
  rw [unclosed_bracketsTo ht hside, (depth_color_opener ht hside).1, hstack, List.length_append,
    List.length_singleton]

/-! ### Colors by depth -/

/-- A matched closer has an opener with the same pair, depth and color. -/
theorem exists_opener_of_matched {c : Bracket} {p : Position} (hc : c ∈ (parse s texts).brackets)
    (hside : c.side = .closer) (hlink : c.link = .matched p) :
    ∃ o ∈ (parse s texts).brackets, o.position = p ∧ o.side = .opener ∧ c.pair = o.pair ∧
      c.depth = o.depth ∧ c.color = o.color := by
  obtain ⟨raw, hpair⟩ :=
    (nested_found s texts).exists_opener ((mem_brackets_closer hside).1 hc) hside hlink
  obtain rfl : raw.position = p := Link.matched.inj (hpair.1.link.symm.trans hlink)
  refine ⟨(parse s texts).resolve raw, List.mem_map_of_mem hpair.opener_mem,
    position_resolve _ raw, (side_resolve _ raw).trans hpair.1.opener, ?_⟩
  rw [resolve_eq]
  exact ⟨hpair.1.pair, hpair.1.depth, hpair.1.color⟩

/-- **Colors follow from depth.** Under any scheme without the two flags, in any text:

* the depth of an opener is the number of openers down to it, itself included, that no closer before
  it is matched to;
* where the pairs share a cycle, an opener and a matched closer have the place that their depth
  gives, counted from one, modulo the length of the cycle of their pair;
* where each pair has a cycle of its own, an opener has the place that the number of unclosed
  openers of its pair before it gives, and a matched closer that of its opener;
* every line starts and ends with an empty memory. -/
theorem colors_follow_depth (havoid : s.avoidRepeat = false) (hrotate : s.rotate = false)
    (texts : List String) :
    (∀ t ∈ (parse s texts).brackets, t.side = .opener →
      t.depth = (unclosed ((parse s texts).bracketsTo t.position)).length) ∧
    (s.scope = .consecutive → ∀ t ∈ (parse s texts).brackets,
      (t.side = .opener ∨ ∃ p, t.link = .matched p) →
        1 ≤ t.depth ∧ t.color = (t.depth - 1) % s.cycleLength t.pair) ∧
    (s.scope = .independent →
      (∀ t ∈ (parse s texts).brackets, t.side = .opener →
        t.color = ((unclosed ((parse s texts).bracketsBefore t.position)).filter
          fun o => o.pair = t.pair).length % s.cycleLength t.pair) ∧
      ∀ c ∈ (parse s texts).brackets, c.side = .closer → ∀ p, c.link = .matched p →
        ∃ o, (parse s texts).bracketsAt p = [o] ∧ o.side = .opener ∧ c.color = o.color) ∧
    ∀ row ∈ (parse s texts).rows, row.entry.nest.memory = {} ∧ row.exit.nest.memory = {} := by
  have hforgets : s.remembers = false := by
    rw [Scheme.remembers, havoid, hrotate]
    rfl
  have hcolor (t : Bracket) (ht : t ∈ (parse s texts).brackets) (hside : t.side = .opener) :
      t.color = s.nesting t.pair (nestBefore s texts t.position).stack % s.cycleLength t.pair := by
    rw [(depth_color_opener ht hside).2, Scheme.openIndex_of_forgets hforgets]
  have hconsecutive (hscope : s.scope = .consecutive) (o : Bracket)
      (ho : o ∈ (parse s texts).brackets) (hside : o.side = .opener) :
      1 ≤ o.depth ∧ o.color = (o.depth - 1) % s.cycleLength o.pair := by
    rw [hcolor o ho hside, (depth_color_opener ho hside).1, Scheme.nesting, hscope]
    exact ⟨Nat.le_add_left 1 _, rfl⟩
  refine ⟨?_, ?_, ?_, ?_⟩
  · intro t ht hside
    exact depth_eq_unclosed ht hside
  · intro hscope t ht hmatched
    cases hside : t.side with
    | opener => exact hconsecutive hscope t ht hside
    | closer =>
        obtain ⟨p, hlink⟩ := hmatched.resolve_left (by simp [hside])
        obtain ⟨o, ho, -, hopener, hpair, hdepth, hsame⟩ := exists_opener_of_matched ht hside hlink
        rw [hpair, hdepth, hsame]
        exact hconsecutive hscope o ho hopener
  · intro hscope
    refine ⟨?_, ?_⟩
    · intro t ht hside
      have hopeners : s.cycle t.pair (unclosed ((parse s texts).bracketsBefore t.position)) =
          (unclosed ((parse s texts).bracketsBefore t.position)).filter
            fun o => o.pair = t.pair := by
        rw [Scheme.cycle_of_independent hscope]
        refine List.filter_congr ?_
        intro o ho
        simp [(mem_unclosed.1 ho).2.1]
      rw [hcolor t ht hside, nesting_nestBefore ht, hopeners]
    · intro c hc hside p hlink
      obtain ⟨o, ho, rfl, hopener, -, -, hsame⟩ := exists_opener_of_matched hc hside hlink
      exact ⟨o, bracketsAt_eq ho, hopener, hsame⟩
  · intro row hrow
    exact memory_of_mem_rows hforgets hrow

/-- Brackets that cross over three lines: an opener with one opener of its pair around it and three
in all, and a closer where the pairs share a cycle. -/
theorem colors_follow_depth_crossed :
    let s (scope : CycleScope) : Scheme :=
      ⟨[⟨'(', ')', ["a", "b"], "x"⟩, ⟨'[', ']', ["c", "d", "e"], "x"⟩], scope, false, false, 0⟩
    let texts := ["( [ )", "[ ( ]", ") ] ]"]
    let own := parse (s .independent) texts
    let shared := parse (s .consecutive) texts
    let t : Bracket := ⟨0, .opener, ⟨1, 2, 3⟩, 4, 1, .matched ⟨2, 0⟩⟩
    let c : Bracket := ⟨1, .closer, ⟨2, 2, 3⟩, 3, 2, .matched ⟨1, 0⟩⟩
    (t ∈ own.brackets ∧ t.depth = (unclosed (own.bracketsTo ⟨1, 2⟩)).length ∧
      t.color = ((unclosed (own.bracketsBefore ⟨1, 2⟩)).filter fun o => o.pair = 0).length % 2) ∧
    c ∈ shared.brackets ∧ c.color = (c.depth - 1) % 3 ∧
      ∀ row ∈ shared.rows, row.entry.nest.memory = {} ∧ row.exit.nest.memory = {} := by
  intro s texts own shared t c
  have ht : t ∈ own.brackets := by decide
  have hc : c ∈ shared.brackets := by decide
  obtain ⟨hdepth, -, hcolor, -⟩ := colors_follow_depth (s := s .independent) rfl rfl texts
  obtain ⟨-, hmatched, -, hmemory⟩ := colors_follow_depth (s := s .consecutive) rfl rfl texts
  exact ⟨⟨ht, hdepth t ht rfl, (hcolor rfl).1 t ht rfl⟩, hc, (hmatched rfl c hc (.inr ⟨_, rfl⟩)).2,
    hmemory⟩

/-! ### Colors by rotation -/

/-- A bracket of a text was read from a character that stands for its pair and its side. -/
theorem exists_classify_of_mem (ht : t ∈ (parse s texts).brackets) :
    ∃ c, s.classify c = some (t.pair, t.side) := by
  obtain ⟨raw, hraw, rfl⟩ := List.mem_map.1 ht
  obtain ⟨row, hrow, hmem⟩ := List.mem_flatMap.1 hraw
  obtain ⟨k, text, rfl, -⟩ := exists_scan_of_mem hrow
  obtain ⟨-, g, -, -, -, hclass, -⟩ := Nest.exists_of_mem_read hmem
  rw [pair_resolve, side_resolve]
  exact ⟨g.char, hclass⟩

/-- A bracket of a text belongs to a pair of the scheme. -/
theorem exists_pair_of_mem (ht : t ∈ (parse s texts).brackets) :
    ∃ p ∈ s.pairs, s.cycleLength t.pair = p.cycleLength := by
  obtain ⟨c, hclass⟩ := exists_classify_of_mem ht
  obtain ⟨p, hp, -⟩ := Scheme.getElem?_of_classify hclass
  exact ⟨p, List.mem_of_getElem? hp, by rw [Scheme.cycleLength, hp]⟩

/-- An opener of a cycle is an opener of the text, and its own cycle is that one. -/
theorem opener_of_getElem? {pair k : Nat}
    (ht : (s.cycle pair (parse s texts).brackets)[k]? = some t) :
    t ∈ (parse s texts).brackets ∧ t.side = .opener ∧ s.cycle t.pair = s.cycle pair := by
  have hmem := List.mem_of_getElem? ht
  obtain ⟨hbrackets, hside, -⟩ := Scheme.mem_cycle.1 hmem
  exact ⟨hbrackets, hside, Scheme.cycle_eq_of_mem hmem⟩

/-- **Openers take turns.** In a cycle all of whose pairs have palettes of one length, an opener
has the place that its number gives. -/
theorem color_of_rotate (hrotate : s.rotate = true) {pair length : Nat}
    (hlength : ∀ b ∈ s.cycle pair (parse s texts).brackets, s.cycleLength b.pair = length) {k : Nat}
    (ht : (s.cycle pair (parse s texts).brackets)[k]? = some t) : t.color = k % length := by
  have hremembers : s.remembers = true := by
    rw [Scheme.remembers, hrotate, Bool.or_true]
  -- by the number of the opener: what is remembered is the place of the opener before
  induction k generalizing t with
  | zero =>
      obtain ⟨hbrackets, hside, hcycle⟩ := opener_of_getElem? ht
      have hlatest : s.latest (nestBefore s texts t.position).memory t.pair = none := by
        rw [latest_nestBefore hremembers hbrackets, hcycle, cycle_bracketsBefore ht]
        rfl
      rw [(depth_color_opener hbrackets hside).2, Scheme.openIndex_of_latest_none hrotate hlatest,
        Nat.zero_mod]
  | succ k ih =>
      obtain ⟨hbrackets, hside, hcycle⟩ := opener_of_getElem? ht
      obtain ⟨a, ha⟩ : ∃ a, (s.cycle pair (parse s texts).brackets)[k]? = some a := by
        have hlt := (List.getElem?_eq_some_iff.1 ht).1
        exact ⟨_, List.getElem?_eq_getElem (by omega)⟩
      have hlatest : s.latest (nestBefore s texts t.position).memory t.pair =
          some (k % length) := by
        rw [latest_nestBefore hremembers hbrackets, hcycle, getLast?_cycle_bracketsBefore ha ht,
          Option.map_some, ih ha]
      obtain rfl : s.cycleLength t.pair = length := hlength t (List.mem_of_getElem? ht)
      have hplace : k % s.cycleLength t.pair < s.cycleLength t.pair :=
        Nat.mod_lt _ (s.cycleLength_pos t.pair)
      rw [(depth_color_opener hbrackets hside).2,
        Scheme.openIndex_of_latest_some hrotate hlatest hplace, Nat.mod_add_mod]

/-- **Colors rotate.** Under any scheme with rotation, whether repeats are avoided or not, in any
text, with openers numbered from zero in text order:

* where each pair has a cycle of its own, the opener of a pair with number `k` has the place `k`
  modulo the length of its cycle;
* where the pairs share a cycle and have palettes of one length, the opener with number `k` among
  those of all pairs has the place `k` modulo that length.

Nothing but the number of the opener counts. -/
theorem colors_rotate (hrotate : s.rotate = true) (texts : List String) :
    (s.scope = .independent → ∀ pair k t,
      ((parse s texts).brackets.filter fun b => b.side = .opener ∧ b.pair = pair)[k]? = some t →
        t.color = k % s.cycleLength pair) ∧
    (s.scope = .consecutive → ∀ length, (∀ p ∈ s.pairs, p.cycleLength = length) → ∀ k t,
      ((parse s texts).brackets.filter fun b => b.side = .opener)[k]? = some t →
        t.color = k % length) := by
  constructor
  · intro hscope pair k t ht
    rw [← Scheme.cycle_of_independent hscope] at ht
    refine color_of_rotate hrotate ?_ ht
    intro b hb
    rw [(Scheme.mem_cycle.1 hb).2.2 hscope]
  · intro hscope length hpairs k t ht
    rw [← Scheme.cycle_of_consecutive hscope 0] at ht
    refine color_of_rotate hrotate ?_ ht
    intro b hb
    obtain ⟨p, hp, hlength⟩ := exists_pair_of_mem (Scheme.mem_cycle.1 hb).1
    rw [hlength, hpairs p hp]

/-- Openers over three lines, with stray and matched closers, a string and a comment between them:
the last one has number three in the cycle of its pair, and number four where the pairs share a
cycle. -/
theorem colors_rotate_past :
    let s (scope : CycleScope) : Scheme :=
      ⟨[⟨'(', ')', ["a", "b"], "x"⟩, ⟨'[', ']', ["c", "d"], "x"⟩], scope, true, true, 0⟩
    let texts := ["( [ ) '(' (", "] ( // [", ") ("]
    let t : Bracket := ⟨0, .opener, ⟨2, 2, 3⟩, 4, 1, .stray⟩
    let t' : Bracket := ⟨0, .opener, ⟨2, 2, 3⟩, 4, 0, .stray⟩
    (((parse (s .independent) texts).brackets.filter
      fun b => b.side = .opener ∧ b.pair = 0)[3]? = some t ∧ t.color = 3 % 2) ∧
    ((parse (s .consecutive) texts).brackets.filter fun b => b.side = .opener)[4]? = some t' ∧
      t'.color = 4 % 2 := by
  intro s texts t t'
  have ht : ((parse (s .independent) texts).brackets.filter
      fun b => b.side = .opener ∧ b.pair = 0)[3]? = some t := by decide
  have ht' : ((parse (s .consecutive) texts).brackets.filter fun b => b.side = .opener)[4]? =
      some t' := by decide
  have hpairs : ∀ p ∈ (s .consecutive).pairs, p.cycleLength = 2 := by decide
  exact ⟨⟨ht, (colors_rotate (s := s .independent) rfl texts).1 rfl 0 3 t ht⟩, ht',
    (colors_rotate (s := s .consecutive) rfl texts).2 rfl 2 hpairs 4 t' ht'⟩

/-! ### Colors without repeats -/

/-- **Colors avoid repeats.** Under any scheme that avoids repeats without rotation, in any text:

* an opener has the place that the number of unclosed openers of its cycle before it gives, modulo
  the length of the cycle of its pair, but one place more if that length is not one and the last
  opener of its cycle before it has that place;
* so of two openers that follow each other in a cycle, the second one has another place than the
  first, if its pair has more than one color. -/
theorem colors_avoid_repeat (havoid : s.avoidRepeat = true) (hrotate : s.rotate = false)
    (texts : List String) :
    (∀ t ∈ (parse s texts).brackets, t.side = .opener →
      let before := (parse s texts).bracketsBefore t.position
      let around := (s.cycle t.pair (unclosed before)).length
      let length := s.cycleLength t.pair
      t.color =
        if 1 < length ∧ (s.cycle t.pair before).getLast?.map Bracket.color = some (around % length)
        then (around + 1) % length else around % length) ∧
    ∀ pair k a b, (s.cycle pair (parse s texts).brackets)[k]? = some a →
      (s.cycle pair (parse s texts).brackets)[k + 1]? = some b → 1 < s.cycleLength b.pair →
        a.color ≠ b.color := by
  have hremembers : s.remembers = true := by
    rw [Scheme.remembers, havoid, Bool.true_or]
  constructor
  · intro t ht hside
    rw [(depth_color_opener ht hside).2, Scheme.openIndex_of_avoidRepeat havoid hrotate,
      nesting_nestBefore ht, latest_nestBefore hremembers ht]
  · intro pair k a b ha hb hlength
    obtain ⟨hbrackets, hside, hcycle⟩ := opener_of_getElem? hb
    have hlatest : s.latest (nestBefore s texts b.position).memory b.pair = some a.color := by
      rw [latest_nestBefore hremembers hbrackets, hcycle, getLast?_cycle_bracketsBefore ha hb,
        Option.map_some]
    rw [(depth_color_opener hbrackets hside).2]
    exact (Scheme.openIndex_ne_latest havoid hrotate hlength hlatest).symm

/-- Pairs with palettes of different length that share a cycle over three lines: an opener inside
one bracket, after an opener that has the place for this depth, takes the next place. -/
theorem colors_avoid_repeat_across :
    let s : Scheme :=
      ⟨[⟨'(', ')', ["a", "b"], "x"⟩, ⟨'[', ']', ["c", "d", "e"], "x"⟩], .consecutive, true, false,
        0⟩
    let d := parse s ["( )", "[ /* ( */ (", "] ) ["]
    let a : Bracket := ⟨1, .opener, ⟨1, 0, 1⟩, 1, 1, .stray⟩
    let t : Bracket := ⟨0, .opener, ⟨1, 10, 11⟩, 2, 0, .matched ⟨2, 2⟩⟩
    let before := d.bracketsBefore ⟨1, 10⟩
    let around := (s.cycle 0 (unclosed before)).length
    (t ∈ d.brackets ∧ t.color =
      if 1 < 2 ∧ (s.cycle 0 before).getLast?.map Bracket.color = some (around % 2)
      then (around + 1) % 2 else around % 2) ∧
    (s.cycle 0 d.brackets)[1]? = some a ∧ (s.cycle 0 d.brackets)[2]? = some t ∧
      a.color ≠ t.color := by
  intro s d a t before around
  have ht : t ∈ d.brackets := by decide
  have hfirst : (s.cycle 0 d.brackets)[1]? = some a := by decide
  have hsecond : (s.cycle 0 d.brackets)[2]? = some t := by decide
  obtain ⟨hcolor, hnext⟩ := colors_avoid_repeat (s := s) rfl rfl ["( )", "[ /* ( */ (", "] ) ["]
  exact ⟨⟨ht, hcolor t ht rfl⟩, hfirst, hsecond, hnext 0 1 a t hfirst hsecond (by decide)⟩

end Document

end BracketTint
