import BracketTint.Proofs.Nesting

/-!
# Brackets Still Open

The stack that is passed on from line to line has a meaning that does not mention it. An opener is
`unclosed` in a stretch of brackets if no closer of the stretch is matched to it, and what is open
after some brackets are exactly those of them that are unclosed, in the order of the text.

This follows from how the brackets nest (`Nested.stack_eq`), so no step of the scan is looked at
again. Every closer of a balanced stretch is matched to an opener of that stretch, hence none inside
a stretch that was left open closes anything outside.

To speak of the moment at which one bracket is read, `Document.nestBefore` is what the scan holds
when it comes to a position. What each bracket keeps holds there, too, of the brackets before the
position (`Document.nestBefore_keeps`).

* `Document.contexts_hold_unclosed` — what the contexts between the lines hold, when a closer is
  matched and to which opener, and which openers are stray.
-/

namespace BracketTint

/-- The openers of a stretch to which no closer of it is matched. -/
def unclosed (bs : List Bracket) : List Bracket :=
  bs.filter fun o => o.side = .opener ∧
    ∀ c ∈ bs, c.side = .closer → c.link ≠ .matched o.position

theorem mem_unclosed {bs : List Bracket} {o : Bracket} :
    o ∈ unclosed bs ↔ o ∈ bs ∧ o.side = .opener ∧
      ∀ c ∈ bs, c.side = .closer → c.link ≠ .matched o.position := by
  simp [unclosed]

/-- What is kept of an opener while it is open. -/
def Bracket.frame (b : Bracket) : Frame := ⟨b.pair, b.position, b.color⟩

instance (a b : Position) : Decidable (a.Before b) :=
  inferInstanceAs (Decidable (a.line < b.line ∨ a.line = b.line ∧ a.column < b.column))

/-! ### The stack and the unclosed openers -/

/-- A matched closer among what was read is linked to a place in it. -/
theorem Nested.link_mem {s : Scheme} {stack : List Frame} {bs : List Bracket}
    (h : Nested s stack bs) {c : Bracket} {p : Position} (hc : c ∈ bs) (hside : c.side = .closer)
    (hlink : c.link = .matched p) : p ∈ bs.map Bracket.position := by
  obtain ⟨o, hpair⟩ := h.exists_opener hc hside hlink
  obtain rfl : o.position = p := Link.matched.inj (hpair.1.link.symm.trans hlink)
  exact List.mem_map_of_mem hpair.opener_mem

/-- Nothing is unclosed in a balanced stretch. -/
theorem Balanced.not_mem_unclosed {bs more : List Bracket} (h : Balanced bs) (hsub : bs ⊆ more)
    {o : Bracket} (ho : o ∈ bs) : o ∉ unclosed more := by
  intro hmem
  obtain ⟨-, hside, hnone⟩ := mem_unclosed.1 hmem
  obtain ⟨c, hpair⟩ := h.exists_closer ho hside
  exact hnone c (hsub hpair.closer_mem) hpair.1.closer hpair.1.link

/-- An opener that a balanced stretch follows is unclosed, and nothing changes above it. -/
theorem Nested.unclosed_append {s : Scheme} {outer : List Frame} {above inner : List Bracket}
    {o : Bracket} (habove : Nested s outer above) (hside : o.side = .opener)
    (hinner : Balanced inner)
    (hnodup : ((above ++ o :: inner).map Bracket.position).Nodup) :
    unclosed (above ++ o :: inner) = unclosed above ++ [o] := by
  rw [List.map_append, List.map_cons, List.nodup_append', List.nodup_cons] at hnodup
  obtain ⟨-, ⟨hnotInner, -⟩, hdisjoint⟩ := hnodup
  -- a closer below the opener is matched inside the balanced stretch
  have hbelow {c : Bracket} {p : Position} (hc : c ∈ o :: inner) (hcloser : c.side = .closer)
      (hlink : c.link = .matched p) : p ∈ inner.map Bracket.position := by
    rcases List.mem_cons.1 hc with rfl | hc
    · exact absurd (hside.symm.trans hcloser) (by decide)
    · exact (Nested.closed hinner : Nested s [] inner).link_mem hc hcloser hlink
  have hold : above.filter (fun a => a.side = .opener ∧
      ∀ c ∈ above ++ o :: inner, c.side = .closer → c.link ≠ .matched a.position) =
      unclosed above := by
    refine List.filter_congr fun a ha => decide_eq_decide.2 (and_congr_right fun _ => ?_)
    refine ⟨fun h c hc => h c (List.mem_append_left _ hc), fun h c hc hcloser hlink => ?_⟩
    rcases List.mem_append.1 hc with hc | hc
    · exact h c hc hcloser hlink
    · exact hdisjoint (List.mem_map_of_mem ha)
        (List.mem_cons_of_mem _ (hbelow hc hcloser hlink))
  have hnew : ∀ c ∈ above ++ o :: inner, c.side = .closer → c.link ≠ .matched o.position := by
    intro c hc hcloser hlink
    rcases List.mem_append.1 hc with hc | hc
    · exact hdisjoint (habove.link_mem hc hcloser hlink) List.mem_cons_self
    · exact hnotInner (hbelow hc hcloser hlink)
  have hrest : inner.filter (fun a => a.side = .opener ∧
      ∀ c ∈ above ++ o :: inner, c.side = .closer → c.link ≠ .matched a.position) = [] := by
    refine List.filter_eq_nil_iff.2 fun a ha hopen => ?_
    have hsub : inner ⊆ above ++ o :: inner := by simp
    exact hinner.not_mem_unclosed hsub ha (mem_unclosed.2 ⟨hsub ha, of_decide_eq_true hopen⟩)
  rw [unclosed, List.filter_append, hold, List.filter_cons, hrest,
    if_pos (decide_eq_true ⟨hside, hnew⟩)]

/-- **The stack holds the unclosed openers**, innermost first, as long as no two brackets share a
position. -/
theorem Nested.stack_eq {s : Scheme} {stack : List Frame} {bs : List Bracket}
    (h : Nested s stack bs) (hnodup : (bs.map Bracket.position).Nodup) :
    stack.reverse = (unclosed bs).map Bracket.frame := by
  induction h with
  | closed hbs =>
      have hnil : unclosed _ = [] := List.eq_nil_iff_forall_not_mem.2 fun o ho =>
        hbs.not_mem_unclosed (List.Subset.refl _) (mem_unclosed.1 ho).1 ho
      rw [hnil]
      rfl
  | @opened f outer above inner o habove ho hinner ih =>
      have hframe : o.frame = f := by
        rw [Bracket.frame, ho.pair, ho.position, ho.pinned]
      have hupper : (above.map Bracket.position).Nodup :=
        hnodup.sublist ((List.sublist_append_left _ _).map _)
      rw [habove.unclosed_append ho.side hinner hnodup, List.reverse_cons, ih hupper,
        List.map_append, List.map_singleton, hframe]

/-! ### One moment of the scan -/

/-- A bracket belongs to the pair and the side that were read. -/
theorem Nest.pair_side_meet (s : Scheme) (n : Nest) (pair : Nat) (side : Side) (p : Position) :
    (n.meet s pair side p).2.pair = pair ∧ (n.meet s pair side p).2.side = side := by
  cases side with
  | opener => exact ⟨rfl, rfl⟩
  | closer =>
      simp only [meet, leave]
      split
      · split <;> exact ⟨rfl, rfl⟩
      · exact ⟨rfl, rfl⟩

/-- A closer is matched if the innermost open bracket belongs to its pair, and otherwise stray. -/
theorem Nest.link_leave (s : Scheme) (n : Nest) (pair : Nat) (p : Position) :
    (∀ q, (n.leave s pair p).2.link = .matched q ↔
      ∃ f, n.stack.head? = some f ∧ f.pair = pair ∧ f.position = q) ∧
    ((n.leave s pair p).2.link = .stray ↔ ∀ f, n.stack.head? = some f → f.pair ≠ pair) := by
  obtain ⟨stack, memory⟩ := n
  cases stack with
  | nil => simp [leave]
  | cons frame outer =>
      by_cases hpair : frame.pair = pair <;> simp [leave, hpair]

/-- A bracket of a line was read at one of its characters, which stands for the pair and the side of
the bracket, after those to the left of it. -/
theorem Nest.exists_of_mem_read {s : Scheme} {line : Nat} {n : Nest} {glyphs : List Glyph}
    {b : Bracket} (h : b ∈ (n.read s line glyphs).2) :
    ∃ left g right rest, glyphs = left ++ g :: right ∧
      s.classify g.char = some (b.pair, b.side) ∧
      b = ((n.read s line left).1.meet s b.pair b.side ⟨line, g.column⟩).2 ∧
      (n.read s line glyphs).2 = (n.read s line left).2 ++ b :: rest := by
  induction glyphs generalizing n with
  | nil => exact absurd h List.not_mem_nil
  | cons g glyphs ih =>
      cases hg : s.classify g.char with
      | none =>
          have hread (more : List Glyph) : n.read s line (g :: more) = n.read s line more := by
            simp only [read, hg]
          rw [hread] at h ⊢
          obtain ⟨left, g', right, rest, rfl, hclass, hb, hrest⟩ := ih h
          exact ⟨g :: left, g', right, rest, rfl, hclass, by rwa [hread], by rwa [hread]⟩
      | some found =>
          obtain ⟨pair, side⟩ := found
          have hread (more : List Glyph) : n.read s line (g :: more) =
              (((n.meet s pair side ⟨line, g.column⟩).1.read s line more).1,
                (n.meet s pair side ⟨line, g.column⟩).2 ::
                  ((n.meet s pair side ⟨line, g.column⟩).1.read s line more).2) := by
            simp only [read, hg]
          rw [hread] at h ⊢
          rcases List.mem_cons.1 h with rfl | h
          · obtain ⟨hpair, hside⟩ := n.pair_side_meet s pair side ⟨line, g.column⟩
            exact ⟨[], g, glyphs, _, rfl, by rw [hpair, hside, hg], by rw [hpair, hside]; rfl, rfl⟩
          · obtain ⟨left, g', right, rest, rfl, hclass, hb, hrest⟩ := ih h
            exact ⟨g :: left, g', right, rest, rfl, hclass, by rwa [hread],
              by rw [hread, hrest]; rfl⟩

/-- In a list in strict order, what comes before an element stands to the left of it. -/
theorem filter_of_pairwise {α : Type} {r : α → α → Prop} [DecidableRel r]
    (hasymm : ∀ a b, r a b → ¬ r b a) {left right : List α} {a : α}
    (h : (left ++ a :: right).Pairwise r) :
    (left ++ a :: right).filter (fun b => r b a) = left := by
  obtain ⟨-, hright, hleft⟩ := List.pairwise_append.1 h
  have hkept : left.filter (fun b => r b a) = left :=
    List.filter_eq_self.2 fun b hb => decide_eq_true (hleft b hb a List.mem_cons_self)
  have hdropped : (a :: right).filter (fun b => r b a) = [] := by
    refine List.filter_eq_nil_iff.2 fun b hb hba => ?_
    have hba := of_decide_eq_true hba
    rcases List.mem_cons.1 hb with rfl | hb
    · exact hasymm b b hba hba
    · exact hasymm a b ((List.pairwise_cons.1 hright).1 b hb) hba
  rw [List.filter_append, hkept, hdropped, List.append_nil]

/-- In a list in strict order, what does not come after an element stands to the left of it or is
the element. -/
theorem filter_not_of_pairwise {α : Type} {r : α → α → Prop} [DecidableRel r]
    (hasymm : ∀ a b, r a b → ¬ r b a) {left right : List α} {a : α}
    (h : (left ++ a :: right).Pairwise r) :
    (left ++ a :: right).filter (fun b => ¬ r a b) = left ++ [a] := by
  obtain ⟨-, hright, hleft⟩ := List.pairwise_append.1 h
  have hkept : left.filter (fun b => ¬ r a b) = left := by
    refine List.filter_eq_self.2 ?_
    intro b hb
    exact decide_eq_true (hasymm b a (hleft b hb a List.mem_cons_self))
  have hself : ¬ r a a := fun haa => hasymm a a haa haa
  have hdropped : right.filter (fun b => ¬ r a b) = [] := by
    refine List.filter_eq_nil_iff.2 ?_
    intro b hb hnot
    exact of_decide_eq_true hnot ((List.pairwise_cons.1 hright).1 b hb)
  rw [List.filter_append, hkept, List.filter_cons, if_pos (decide_eq_true hself), hdropped]

namespace Document

variable {s : Scheme} {texts : List String} {b : Bracket} {k : Nat}

/-- The brackets down to a line are those of the lines above and then those of its row. -/
theorem found_take_succ {row : Row} (h : (scanLines s 0 {} texts)[k]? = some row) :
    found s (texts.take (k + 1)) = found s (texts.take k) ++ row.brackets := by
  rw [found, found, ← take_scanLines, ← take_scanLines, List.take_add_one, h, List.flatMap_append]
  simp

/-- The brackets down to a line are those with a position there. -/
theorem filter_line_found (s : Scheme) (texts : List String) (k : Nat) :
    (found s texts).filter (fun b => b.position.line < k) = found s (texts.take k) := by
  have hsplit := congrArg (List.flatMap Row.brackets)
    (scanLines_append s 0 {} (texts.take k) (texts.drop k))
  rw [List.take_append_drop, List.flatMap_append] at hsplit
  rw [found, hsplit, List.filter_append, found]
  have habove : ((scanLines s 0 {} (texts.take k)).flatMap Row.brackets).filter
      (fun b => b.position.line < k) = (scanLines s 0 {} (texts.take k)).flatMap Row.brackets := by
    refine List.filter_eq_self.2 fun b hb => decide_eq_true ?_
    have hline := (line_of_mem_scanLines hb).2
    rw [List.length_take] at hline
    omega
  rw [habove, List.filter_eq_nil_iff.2, List.append_nil]
  intro b hb hlt
  have hlt := of_decide_eq_true hlt
  obtain ⟨hline, hend⟩ := line_of_mem_scanLines hb
  rw [List.length_take, List.length_drop] at hend
  rw [List.length_take] at hline
  omega

/-- What the scan of a text holds when it comes to a position: what is open after the lines above,
and then after the visible characters to the left. -/
def nestBefore (s : Scheme) (texts : List String) (p : Position) : Nest :=
  let entry := contextFrom {} (scanLines s 0 {} (texts.take p.line))
  let view := entry.region.view (texts[p.line]?.getD "").toList
  (entry.nest.read s p.line (view.glyphs.filter fun g => g.column < p.column)).1

/-- The brackets of a text before a position. -/
def foundBefore (s : Scheme) (texts : List String) (p : Position) : List Bracket :=
  (found s texts).filter fun b => b.position.Before p

/-- Before a position stand only brackets of the lines down to it. -/
theorem foundBefore_eq {p : Position} (h : p.line < k) :
    foundBefore s texts p = (found s (texts.take k)).filter fun b => b.position.Before p := by
  rw [foundBefore, ← filter_line_found, List.filter_filter]
  refine List.filter_congr fun b _ => ?_
  rw [← Bool.decide_and, decide_eq_decide]
  refine (and_iff_left_of_imp fun hbefore => ?_).symm
  rcases hbefore with hlt | ⟨heq, -⟩ <;> omega

/-- **One moment of the scan.** A bracket is what the scan reads where it stands, and all that a
bracket keeps holds of those before it. -/
theorem nestBefore_keeps {motive : Nest → List Bracket → Prop}
    (hmeet : ∀ n bs pair side p, motive n bs →
      motive (n.meet s pair side p).1 (bs ++ [(n.meet s pair side p).2]))
    (hstart : motive ({} : Context).nest []) (hb : b ∈ found s texts) :
    motive (nestBefore s texts b.position) (foundBefore s texts b.position) ∧
      b = ((nestBefore s texts b.position).meet s b.pair b.side b.position).2 := by
  obtain ⟨row, hrow, hbrow⟩ := List.mem_flatMap.1 hb
  obtain ⟨k, hk⟩ := List.mem_iff_getElem?.1 hrow
  have hfound := found_take_succ hk
  rw [getElem?_scanLines, Nat.zero_add] at hk
  obtain ⟨text, htext, rfl⟩ := Option.map_eq_some_iff.1 hk
  generalize hentry : contextFrom {} (scanLines s 0 {} (texts.take k)) = entry at hfound hbrow
  obtain ⟨left, g, right, rest, hglyphs, -, hmet, hread⟩ := Nest.exists_of_mem_read hbrow
  have hposition : b.position = ⟨k, g.column⟩ := by
    rw [hmet, Nest.position_meet]
  have hnest : nestBefore s texts b.position = (entry.nest.read s k left).1 := by
    have hsorted : (left ++ g :: right).Pairwise fun a b => a.column < b.column :=
      hglyphs ▸ Lexer.pairwise_column_view _ _ _
    have hleft := filter_of_pairwise (fun _ _ => Nat.lt_asymm) hsorted
    simp only [nestBefore, hposition, hentry, htext, Option.getD_some, hglyphs, hleft]
  have hbefore : foundBefore s texts b.position =
      found s (texts.take k) ++ (entry.nest.read s k left).2 := by
    have hline : b.position.line < k + 1 := by
      rw [hposition]
      exact Nat.lt_succ_self k
    have hsplit : found s (texts.take (k + 1)) =
        (found s (texts.take k) ++ (entry.nest.read s k left).2) ++ b :: rest := by
      rw [hfound, List.append_assoc, ← hread]
      rfl
    have hsorted := inOrder_found s (texts.take (k + 1))
    rw [foundBefore_eq hline, hsplit]
    rw [hsplit] at hsorted
    exact filter_of_pairwise (fun _ _ => Position.Before.asymm) hsorted
  have habove : motive entry.nest (found s (texts.take k)) :=
    hentry ▸ scanLines_keeps hmeet 0 hstart (texts.take k)
  rw [hnest, hbefore, hposition]
  exact ⟨Nest.read_keeps hmeet k habove left, hmet⟩

/-- What is open where a bracket is read nests as the brackets before it do. -/
theorem nested_nestBefore (hb : b ∈ found s texts) :
    Nested s (nestBefore s texts b.position).stack (foundBefore s texts b.position) ∧
      b = ((nestBefore s texts b.position).meet s b.pair b.side b.position).2 := by
  have hstart : Nested s ({} : Context).nest.stack [] := .closed .nil
  exact nestBefore_keeps (motive := fun n bs => Nested s n.stack bs) (Nested.meet s) hstart hb

/-- A closer is what the scan makes of it where it stands. -/
theorem leave_nestBefore (hb : b ∈ found s texts) (hside : b.side = .closer) :
    ((nestBefore s texts b.position).leave s b.pair b.position).2 = b := by
  have hmet := (nested_nestBefore hb).2
  rw [hside] at hmet
  exact hmet.symm

/-! ### Openers of a resolved text -/

/-- An opener is stray if the partner table has nothing for it. -/
theorem link_resolve_stray (d : Document) (h : b.side = .opener) :
    (d.resolve b).link = .stray ↔ d.partner? b.position = none := by
  simp only [resolve, h]
  cases d.partner? b.position <;> simp

theorem frame_resolve (d : Document) (b : Bracket) : (d.resolve b).frame = b.frame := by
  rw [resolve_eq]
  rfl

/-- Resolving has no part in what is unclosed: only the links of closers count. -/
theorem unclosed_map_resolve (d : Document) (bs : List Bracket) :
    unclosed (bs.map d.resolve) = (unclosed bs).map d.resolve := by
  rw [unclosed, List.filter_map, unclosed]
  refine congrArg (List.map d.resolve) (List.filter_congr fun o _ => ?_)
  simp only [Function.comp_apply, side_resolve, position_resolve, List.forall_mem_map,
    decide_eq_decide]
  refine and_congr_right fun _ => forall₂_congr fun c _ => forall_congr' fun hside => ?_
  rw [resolve_closer d hside]

/-- **An opener that is unclosed in the whole text is stray**, and no other is. -/
theorem link_resolve_stray_iff (hb : b ∈ found s texts) (hside : b.side = .opener) :
    ((parse s texts).resolve b).link = .stray ↔ b ∈ unclosed (found s texts) := by
  rw [link_resolve_stray _ hside, mem_unclosed, Option.eq_none_iff_forall_ne_some]
  constructor
  · intro hnone
    refine ⟨hb, hside, fun c hc hcloser hlink => hnone c.position ?_⟩
    exact partner?_eq_some_iff.2 ⟨c, (mem_brackets_closer hcloser).2 hc, hcloser, rfl, hlink⟩
  · rintro ⟨-, -, hnone⟩ q hq
    obtain ⟨c, hc, hcloser, -, hlink⟩ := partner?_eq_some_iff.1 hq
    exact hnone c ((mem_brackets_closer hcloser).1 hc) hcloser hlink

/-- The brackets of a document down to a line. -/
def bracketsThrough (d : Document) (line : Nat) : List Bracket :=
  d.brackets.filter fun b => b.position.line ≤ line

/-- The brackets of a document before a position. -/
def bracketsBefore (d : Document) (p : Position) : List Bracket :=
  d.brackets.filter fun b => b.position.Before p

theorem bracketsThrough_parse (s : Scheme) (texts : List String) (k : Nat) :
    (parse s texts).bracketsThrough k =
      (found s (texts.take (k + 1))).map (parse s texts).resolve := by
  rw [bracketsThrough, brackets_parse, List.filter_map, ← filter_line_found]
  refine congrArg (List.map _) (List.filter_congr fun b _ => ?_)
  simp only [Function.comp_apply, position_resolve, Nat.lt_succ_iff]

theorem bracketsBefore_parse (s : Scheme) (texts : List String) (p : Position) :
    (parse s texts).bracketsBefore p =
      (foundBefore s texts p).map (parse s texts).resolve := by
  rw [bracketsBefore, brackets_parse, List.filter_map, foundBefore]
  refine congrArg (List.map _) (List.filter_congr fun b _ => ?_)
  simp only [Function.comp_apply, position_resolve]

theorem nodup_found (s : Scheme) (texts : List String) :
    ((found s texts).map Bracket.position).Nodup :=
  List.pairwise_map.2 ((inOrder_found s texts).imp Position.Before.ne)

/-- What is open after some lines are the unclosed openers on them. -/
theorem stack_eq_unclosed (s : Scheme) (texts : List String) :
    (contextFrom {} (scanLines s 0 {} texts)).nest.stack.reverse =
      (unclosed (found s texts)).map Bracket.frame :=
  (nested_found s texts).stack_eq (nodup_found s texts)

/-- A bracket is on the stack after a text if it is unclosed in it. -/
theorem frame_mem_stack_iff (hb : b ∈ found s texts) :
    b.frame ∈ (contextFrom {} (scanLines s 0 {} texts)).nest.stack ↔
      b ∈ unclosed (found s texts) := by
  rw [← List.mem_reverse, stack_eq_unclosed, List.mem_map]
  constructor
  · rintro ⟨o, ho, hframe⟩
    have hposition : o.position = b.position := congrArg Frame.position hframe
    rwa [← List.inj_on_of_nodup_map (nodup_found s texts) (mem_unclosed.1 ho).1 hb hposition]
  · exact fun h => ⟨b, h, rfl⟩

/-- What is open where a bracket is read are the unclosed openers before it. -/
theorem stack_nestBefore (hb : b ∈ found s texts) :
    (nestBefore s texts b.position).stack.reverse =
      (unclosed ((parse s texts).bracketsBefore b.position)).map Bracket.frame := by
  have hnodup : ((foundBefore s texts b.position).map Bracket.position).Nodup :=
    (nodup_found s texts).sublist (List.filter_sublist.map _)
  have hresolve : Bracket.frame ∘ (parse s texts).resolve = Bracket.frame :=
    funext (frame_resolve _)
  rw [(nested_nestBefore hb).1.stack_eq hnodup, bracketsBefore_parse, unclosed_map_resolve,
    List.map_map, hresolve]

/-- The innermost bracket that is open where a bracket is read is the last unclosed one before
it. -/
theorem head?_nestBefore (hb : b ∈ found s texts) :
    (nestBefore s texts b.position).stack.head? =
      (unclosed ((parse s texts).bracketsBefore b.position)).getLast?.map Bracket.frame := by
  rw [← List.getLast?_reverse, stack_nestBefore hb, List.getLast?_map]

/-- **The contexts between lines hold the unclosed openers.** In any text, under any scheme:

* a line ends with a stack of the openers down to it that no closer down to it is matched to,
  outermost last and so in reverse text order, each with its pair, its position and its color;
* the first line starts in the empty context, and each other line as the one above it ends;
* a closer is matched exactly if the last unclosed opener before it belongs to its pair, and then to
  this opener; otherwise it is stray;
* an opener is stray exactly if it is on the stack with which the last line ends. -/
theorem contexts_hold_unclosed (s : Scheme) (texts : List String) :
    (∀ k row, (parse s texts).rows[k]? = some row →
      row.exit.nest.stack.reverse =
        (unclosed ((parse s texts).bracketsThrough k)).map Bracket.frame) ∧
    (∀ row : Row, (parse s texts).rows[0]? = some row → row.entry = {}) ∧
    (∀ k row next, (parse s texts).rows[k]? = some row →
      (parse s texts).rows[k + 1]? = some next → next.entry = row.exit) ∧
    (∀ c ∈ (parse s texts).brackets, c.side = .closer →
      (∀ p, c.link = .matched p ↔
        ∃ o, (unclosed ((parse s texts).bracketsBefore c.position)).getLast? = some o ∧
          o.pair = c.pair ∧ o.position = p) ∧
      (c.link = .stray ↔
        ∀ o, (unclosed ((parse s texts).bracketsBefore c.position)).getLast? = some o →
          o.pair ≠ c.pair)) ∧
    ∀ o ∈ (parse s texts).brackets, o.side = .opener →
      (o.link = .stray ↔
        ∃ row, (parse s texts).rows.getLast? = some row ∧ o.frame ∈ row.exit.nest.stack) := by
  have hentry {k : Nat} {row : Row} (hrow : (scanLines s 0 {} texts)[k]? = some row) :
      row.entry = contextFrom {} (scanLines s 0 {} (texts.take k)) := by
    rw [getElem?_scanLines] at hrow
    obtain ⟨text, -, rfl⟩ := Option.map_eq_some_iff.1 hrow
    rfl
  refine ⟨fun k row hrow => ?_, fun row hrow => hentry hrow, fun k row next hrow hnext => ?_,
    fun c hc hside => ?_, fun o ho hside => ?_⟩
  · have hresolve : Bracket.frame ∘ (parse s texts).resolve = Bracket.frame :=
      funext (frame_resolve _)
    rw [← contextFrom_take_succ hrow, stack_eq_unclosed, bracketsThrough_parse,
      unclosed_map_resolve, List.map_map, hresolve]
  · rw [hentry hnext, contextFrom_take_succ hrow]
  · -- what the closer finds open is what is unclosed before it
    have hfound := (mem_brackets_closer hside).1 hc
    have hlink := (nestBefore s texts c.position).link_leave s c.pair c.position
    rw [leave_nestBefore hfound hside, head?_nestBefore hfound] at hlink
    simpa [Option.map_eq_some_iff, Bracket.frame] using hlink
  · -- the stack at the end holds what is unclosed in the whole text
    obtain ⟨raw, hraw, rfl⟩ := List.mem_map.1 ho
    rw [side_resolve] at hside
    rw [link_resolve_stray_iff hraw hside, frame_resolve, ← frame_mem_stack_iff hraw, contextFrom]
    change _ ↔ ∃ row, (scanLines s 0 {} texts).getLast? = some row ∧ _
    cases (scanLines s 0 {} texts).getLast? <;> simp

/-- Two lines with brackets that cross: the closer `)` is stray, as `[` is open inside `(`, and so
`(` stays open to the end. -/
theorem contexts_hold_unclosed_crossed :
    let s : Scheme :=
      ⟨[⟨'(', ')', ["a"], "c"⟩, ⟨'[', ']', ["b"], "c"⟩], .independent, false, false, 0⟩
    let d := parse s ["( [", ") ] ["]
    let c : Bracket := ⟨1, .closer, ⟨1, 2, 3⟩, 2, 0, .matched ⟨0, 2⟩⟩
    let o : Bracket := ⟨0, .opener, ⟨0, 0, 1⟩, 1, 0, .stray⟩
    (∃ row, d.rows[1]? = some row ∧
      row.exit.nest.stack.reverse = (unclosed (d.bracketsThrough 1)).map Bracket.frame) ∧
    (c ∈ d.brackets ∧ ∃ last, (unclosed (d.bracketsBefore ⟨1, 2⟩)).getLast? = some last ∧
      last.pair = 1 ∧ last.position = ⟨0, 2⟩) ∧
    o ∈ d.brackets ∧ ∃ row, d.rows.getLast? = some row ∧ o.frame ∈ row.exit.nest.stack := by
  intro s d c o
  have hc : c ∈ d.brackets := by decide
  have ho : o ∈ d.brackets := by decide
  obtain ⟨hstack, -, -, hcloser, hopener⟩ := contexts_hold_unclosed s ["( [", ") ] ["]
  exact ⟨⟨_, rfl, hstack 1 _ rfl⟩, ⟨hc, ((hcloser c hc rfl).1 _).1 rfl⟩, ho,
    (hopener o ho rfl).1 rfl⟩

end Document

end BracketTint
