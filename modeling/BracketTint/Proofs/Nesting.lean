import BracketTint.Proofs.Pairing
import BracketTint.Proofs.Scan
import BracketTint.Proofs.Table

/-!
# Pairs and How They Nest

Brackets are matched with the help of a stack, while they are read. What comes out of it can be said
without the stack. A stretch of brackets is `Balanced` if each of its openers is closed within it
and each of its matched closers closes an opener of it; stray closers may stand anywhere. All that
was read up to some point is balanced but for the openers on the stack, and what stands between two
of them is balanced (`Nested`). One bracket keeps this (`Nested.meet`), and so does a whole text
(`Document.nested_found`).

A closer that is matched therefore cuts a text into what stands above the pair, what stands inside,
and what stands below, and the inside is balanced (`PairIn`). With the order of the brackets in the
text this says all about pairs:

* `Document.matching_symmetric` — opener and closer of a pair know of each other, belong to the same
  bracket pair and stand at the same depth, and the partner table has these pairs only;
* `Document.pairs_nest` — what opens inside a pair is closed inside it, and the other way round.
-/

namespace BracketTint

/-! ### One bracket after another -/

/-- **What each bracket keeps, a line keeps.** The motive relates what is open to what was read so
far. -/
theorem Nest.read_keeps {s : Scheme} {motive : Nest → List Bracket → Prop}
    (hmeet : ∀ n bs pair side p, motive n bs →
      motive (n.meet s pair side p).1 (bs ++ [(n.meet s pair side p).2]))
    (line : Nat) {n : Nest} {bs : List Bracket} (h : motive n bs) (glyphs : List Glyph) :
    motive (n.read s line glyphs).1 (bs ++ (n.read s line glyphs).2) := by
  induction glyphs generalizing n bs with
  | nil => simpa [read] using h
  | cons g rest ih =>
      cases hg : s.classify g.char with
      | none =>
          simp only [read, hg]
          exact ih h
      | some found =>
          obtain ⟨pair, side⟩ := found
          have hrest := ih (hmeet n bs pair side ⟨line, g.column⟩ h)
          rw [List.append_assoc, List.singleton_append] at hrest
          simpa only [read, hg] using hrest

/-- **What each bracket keeps, a text keeps.** -/
theorem Document.scanLines_keeps {s : Scheme} {motive : Nest → List Bracket → Prop}
    (hmeet : ∀ n bs pair side p, motive n bs →
      motive (n.meet s pair side p).1 (bs ++ [(n.meet s pair side p).2]))
    (line : Nat) {entry : Context} {bs : List Bracket} (h : motive entry.nest bs)
    (texts : List String) :
    motive (contextFrom entry (scanLines s line entry texts)).nest
      (bs ++ (scanLines s line entry texts).flatMap Row.brackets) := by
  induction texts generalizing line entry bs with
  | nil => simpa [scanLines] using h
  | cons text rest ih =>
      have hrow : motive (Row.scan s line entry text).exit.nest
          (bs ++ (Row.scan s line entry text).brackets) := Nest.read_keeps hmeet line h _
      have hrest := ih (line + 1) hrow
      rw [List.append_assoc] at hrest
      simpa only [scanLines, List.flatMap_cons, contextFrom_cons] using hrest

/-! ### Balanced stretches -/

/-- A closer is linked to an opener, of the same pair, at the same depth and with the same color. -/
structure Bracket.Closes (c o : Bracket) : Prop where
  opener : o.side = .opener
  closer : c.side = .closer
  link : c.link = .matched o.position
  pair : c.pair = o.pair
  depth : c.depth = o.depth
  color : c.color = o.color

/-- A stretch in which each opener is closed and each matched closer has its opener. -/
inductive Balanced : List Bracket → Prop where
  | nil : Balanced []
  | stray {c : Bracket} {rest : List Bracket} (hside : c.side = .closer) (hlink : c.link = .stray)
      (hrest : Balanced rest) : Balanced (c :: rest)
  | pair {o c : Bracket} {inner rest : List Bracket} (hcloses : c.Closes o)
      (hinner : Balanced inner) (hrest : Balanced rest) : Balanced (o :: inner ++ c :: rest)

/-- Two balanced stretches make a balanced stretch. -/
theorem Balanced.append {as bs : List Bracket} (ha : Balanced as) (hb : Balanced bs) :
    Balanced (as ++ bs) := by
  induction ha with
  | nil => exact hb
  | stray hside hlink _ ih => exact .stray hside hlink ih
  | pair hcloses hinner _ _ ih =>
      rw [List.append_assoc, List.cons_append]
      exact .pair hcloses hinner ih

/-- A pair of a stretch, and a balanced stretch between the two brackets. -/
def PairIn (bs : List Bracket) (o c : Bracket) : Prop :=
  c.Closes o ∧ ∃ above inner below, bs = above ++ o :: inner ++ c :: below ∧ Balanced inner

/-- A pair stays a pair when more is read before and after it. -/
theorem PairIn.append {bs : List Bracket} {o c : Bracket} (h : PairIn bs o c)
    (before after : List Bracket) : PairIn (before ++ bs ++ after) o c := by
  obtain ⟨hcloses, above, inner, below, rfl, hinner⟩ := h
  exact ⟨hcloses, before ++ above, inner, below ++ after, by simp, hinner⟩

/-- The opener of a pair is one of the brackets. -/
theorem PairIn.opener_mem {bs : List Bracket} {o c : Bracket} (h : PairIn bs o c) : o ∈ bs := by
  obtain ⟨-, above, inner, below, rfl, -⟩ := h
  simp

/-- The closer of a pair is one of the brackets. -/
theorem PairIn.closer_mem {bs : List Bracket} {o c : Bracket} (h : PairIn bs o c) : c ∈ bs := by
  obtain ⟨-, above, inner, below, rfl, -⟩ := h
  simp

/-- Each opener of a balanced stretch belongs to a pair of it. -/
theorem Balanced.exists_closer {bs : List Bracket} (h : Balanced bs) {o : Bracket} (ho : o ∈ bs)
    (hside : o.side = .opener) : ∃ c, PairIn bs o c := by
  induction h with
  | nil => exact absurd ho List.not_mem_nil
  | @stray c rest hcloser _ _ ih =>
      rcases List.mem_cons.1 ho with rfl | ho
      · exact absurd (hside.symm.trans hcloser) (by decide)
      · obtain ⟨c', hpair⟩ := ih ho
        exact ⟨c', by simpa using hpair.append [c] []⟩
  | @pair first last inner rest hcloses hinner _ ihinner ihrest =>
      rw [List.cons_append, List.mem_cons, List.mem_append, List.mem_cons] at ho
      rcases ho with rfl | ho | rfl | ho
      · exact ⟨last, hcloses, [], inner, rest, rfl, hinner⟩
      · obtain ⟨c', hpair⟩ := ihinner ho
        exact ⟨c', hpair.append [first] (last :: rest)⟩
      · exact absurd (hside.symm.trans hcloses.closer) (by decide)
      · obtain ⟨c', hpair⟩ := ihrest ho
        exact ⟨c', by simpa using hpair.append (first :: inner ++ [last]) []⟩

/-- Each matched closer of a balanced stretch belongs to a pair of it. -/
theorem Balanced.exists_opener {bs : List Bracket} (h : Balanced bs) {c : Bracket} {p : Position}
    (hc : c ∈ bs) (hside : c.side = .closer) (hlink : c.link = .matched p) :
    ∃ o, PairIn bs o c := by
  induction h with
  | nil => exact absurd hc List.not_mem_nil
  | @stray first rest _ hstray _ ih =>
      rcases List.mem_cons.1 hc with rfl | hc
      · exact absurd (hlink.symm.trans hstray) (by simp)
      · obtain ⟨o, hpair⟩ := ih hc
        exact ⟨o, by simpa using hpair.append [first] []⟩
  | @pair first last inner rest hcloses hinner _ ihinner ihrest =>
      rw [List.cons_append, List.mem_cons, List.mem_append, List.mem_cons] at hc
      rcases hc with rfl | hc | rfl | hc
      · exact absurd (hside.symm.trans hcloses.opener) (by decide)
      · obtain ⟨o, hpair⟩ := ihinner hc
        exact ⟨o, hpair.append [first] (last :: rest)⟩
      · exact ⟨first, hcloses, [], inner, rest, rfl, hinner⟩
      · obtain ⟨o, hpair⟩ := ihrest hc
        exact ⟨o, by simpa using hpair.append (first :: inner ++ [last]) []⟩

/-! ### What is open, and what was read -/

/-- An open bracket and the opener that it comes from, when `outer` was open around it. -/
structure Frame.OpenedBy (s : Scheme) (f : Frame) (outer : List Frame) (o : Bracket) : Prop where
  side : o.side = .opener
  pair : o.pair = f.pair
  position : o.position = f.position
  depth : o.depth = outer.length + 1
  /-- Its color is the one that a closer would take. -/
  color : o.color = s.closeIndex f outer
  /-- The same color is kept with it. -/
  pinned : o.color = f.color

/-- What was read, cut at the openers that are open. -/
inductive Nested (s : Scheme) : List Frame → List Bracket → Prop where
  | closed {bs : List Bracket} (hbs : Balanced bs) : Nested s [] bs
  | opened {f : Frame} {outer : List Frame} {above inner : List Bracket} {o : Bracket}
      (habove : Nested s outer above) (ho : f.OpenedBy s outer o) (hinner : Balanced inner) :
      Nested s (f :: outer) (above ++ o :: inner)

/-- A balanced stretch changes nothing about what is open. -/
theorem Nested.append {s : Scheme} {stack : List Frame} {bs more : List Bracket}
    (h : Nested s stack bs) (hmore : Balanced more) : Nested s stack (bs ++ more) := by
  cases h with
  | closed hbs => exact .closed (hbs.append hmore)
  | opened habove ho hinner =>
      rw [List.append_assoc, List.cons_append]
      exact .opened habove ho (hinner.append hmore)

/-- The color that an opener is given is the one that its closer will take. -/
theorem Scheme.openIndex_eq_closeIndex (s : Scheme) (n : Nest) (pair : Nat) (p : Position) :
    s.openIndex n pair = s.closeIndex ⟨pair, p, s.openIndex n pair⟩ n.stack := by
  cases hremembers : s.remembers with
  | true => simp [closeIndex, hremembers]
  | false =>
      obtain ⟨havoid, hrotate⟩ : s.avoidRepeat = false ∧ s.rotate = false := by
        simpa [remembers] using hremembers
      simp [closeIndex, openIndex, plainIndex, hremembers, havoid, hrotate]

/-- **One bracket**: an opener is open from then on, a closer that fits makes a pair, and one that
does not is stray. -/
theorem Nested.meet (s : Scheme) (n : Nest) (bs : List Bracket) (pair : Nat) (side : Side)
    (p : Position) (h : Nested s n.stack bs) :
    Nested s (n.meet s pair side p).1.stack (bs ++ [(n.meet s pair side p).2]) := by
  cases side with
  | opener =>
      exact .opened h ⟨rfl, rfl, rfl, rfl, s.openIndex_eq_closeIndex n pair p, rfl⟩ .nil
  | closer =>
      by_cases hstack : ∀ f ∈ n.stack.head?, f.pair ≠ pair
      · simp only [Nest.meet, Nest.leave_of_ne hstack]
        exact h.append (.stray rfl rfl .nil)
      · obtain ⟨stack, memory⟩ := n
        cases h with
        | closed => exact absurd (by simp) hstack
        | @opened f outer above inner o habove ho hinner =>
            obtain rfl : f.pair = pair := by simpa using hstack
            simp only [Nest.meet, Nest.leave_of_pair]
            rw [List.append_assoc, List.cons_append]
            refine habove.append (.pair ⟨ho.side, rfl, ?_, ho.pair.symm, ho.depth.symm,
              ho.color.symm⟩ hinner .nil)
            rw [ho.position]

/-- Each matched closer among what was read belongs to a pair of it. -/
theorem Nested.exists_opener {s : Scheme} {stack : List Frame} {bs : List Bracket}
    (h : Nested s stack bs) {c : Bracket} {p : Position} (hc : c ∈ bs) (hside : c.side = .closer)
    (hlink : c.link = .matched p) : ∃ o, PairIn bs o c := by
  induction h with
  | closed hbs => exact hbs.exists_opener hc hside hlink
  | @opened f outer above inner first _ hfirst hinner ih =>
      rcases List.mem_append.1 hc with hc | hc
      · obtain ⟨o, hpair⟩ := ih hc
        exact ⟨o, by simpa using hpair.append [] (first :: inner)⟩
      · rcases List.mem_cons.1 hc with rfl | hc
        · exact absurd (hside.symm.trans hfirst.side) (by decide)
        · obtain ⟨o, hpair⟩ := hinner.exists_opener hc hside hlink
          exact ⟨o, by simpa using hpair.append (above ++ [first]) []⟩

/-! ### Pairs in text order -/

theorem Position.Before.trans {a b c : Position} (h : a.Before b) (h' : b.Before c) :
    a.Before c := by
  simp only [Before] at h h' ⊢
  omega

theorem Position.Before.asymm {a b : Position} (h : a.Before b) : ¬ b.Before a :=
  fun h' => (h.trans h').ne rfl

/-- Brackets that stand in text order. -/
def InOrder (bs : List Bracket) : Prop :=
  bs.Pairwise fun a b => a.position.Before b.position

/-- **The inside of a pair.** A pair in text order has its opener before its closer, and the
brackets with a position between the two make a balanced stretch. -/
theorem PairIn.inside {bs : List Bracket} {o c : Bracket} (h : PairIn bs o c) (hbs : InOrder bs) :
    o.position.Before c.position ∧ ∃ inner, Balanced inner ∧
      ∀ b, b ∈ inner ↔ b ∈ bs ∧ o.position.Before b.position ∧ b.position.Before c.position := by
  obtain ⟨-, above, inner, below, rfl, hinner⟩ := h
  obtain ⟨habove, hbelow, hcross⟩ := List.pairwise_append.1 hbs
  obtain ⟨-, hfirst, hupper⟩ := List.pairwise_append.1 habove
  obtain ⟨hopener, -⟩ := List.pairwise_cons.1 hfirst
  obtain ⟨hcloser, -⟩ := List.pairwise_cons.1 hbelow
  refine ⟨hcross o (by simp) c (by simp), inner, hinner, fun b => ⟨fun hb => ?_, ?_⟩⟩
  · exact ⟨by simp [hb], hopener b hb, hcross b (by simp [hb]) c (by simp)⟩
  · rintro ⟨hb, hob, hbc⟩
    rw [List.mem_append, List.mem_append, List.mem_cons, List.mem_cons] at hb
    rcases hb with (hb | rfl | hb) | rfl | hb
    · exact absurd hob (hupper b hb o (by simp)).asymm
    · exact absurd rfl hob.ne
    · exact hb
    · exact absurd rfl hbc.ne
    · exact absurd hbc (hcloser b hb).asymm

namespace Document

/-- The brackets of a text as they are found, when openers still wait. -/
def found (s : Scheme) (texts : List String) : List Bracket :=
  (scanLines s 0 {} texts).flatMap Row.brackets

/-- **A text is nested**: it is balanced but for the openers that are open at its end. -/
theorem nested_found (s : Scheme) (texts : List String) :
    Nested s (contextFrom {} (scanLines s 0 {} texts)).nest.stack (found s texts) := by
  have hstart : Nested s ({} : Context).nest.stack [] := .closed .nil
  exact scanLines_keeps (motive := fun n bs => Nested s n.stack bs) (Nested.meet s) 0 hstart texts

theorem inOrder_found (s : Scheme) (texts : List String) : InOrder (found s texts) :=
  List.pairwise_map.1 (before_scanLines s 0 {} texts)

/-! ### Links after all was read -/

variable {s : Scheme} {texts : List String} {p q : Position} {b : Bracket}

/-- Two positions are linked: the closer at the second is matched to the first. -/
def Linked (d : Document) (p q : Position) : Prop :=
  ∃ c ∈ d.brackets, c.side = .closer ∧ c.position = q ∧ c.link = .matched p

/-- The brackets at a position. -/
def bracketsAt (d : Document) (p : Position) : List Bracket :=
  d.brackets.filter fun b => b.position = p

theorem brackets_parse (s : Scheme) (texts : List String) :
    (parse s texts).brackets = (found s texts).map (parse s texts).resolve := rfl

/-- Resolving changes the link only. -/
theorem resolve_eq (d : Document) (b : Bracket) :
    d.resolve b = { b with link := (d.resolve b).link } := by
  obtain ⟨pair, side, span, depth, color, link⟩ := b
  cases side <;> rfl

theorem side_resolve (d : Document) (b : Bracket) : (d.resolve b).side = b.side := by
  rw [resolve_eq]

theorem position_resolve (d : Document) (b : Bracket) : (d.resolve b).position = b.position := by
  rw [resolve_eq]
  rfl

theorem resolve_closer (d : Document) (h : b.side = .closer) : d.resolve b = b := by
  simp [resolve, h]

/-- The link of an opener is what the partner table has. -/
theorem link_resolve_opener (d : Document) (h : b.side = .opener) :
    (d.resolve b).link = .matched q ↔ d.partner? b.position = some q := by
  simp only [resolve, h]
  cases d.partner? b.position <;> simp

/-- The closers of a text are those that were found. -/
theorem mem_brackets_closer (h : b.side = .closer) :
    b ∈ (parse s texts).brackets ↔ b ∈ found s texts := by
  rw [brackets_parse, List.mem_map]
  constructor
  · rintro ⟨c, hc, rfl⟩
    rw [side_resolve] at h
    rwa [resolve_closer _ h]
  · intro hb
    exact ⟨b, hb, resolve_closer _ h⟩

/-- A matched closer is known by the pair that it closes. -/
theorem closedPair?_eq_some_iff :
    b.closedPair? = some (p, q) ↔ b.side = .closer ∧ b.position = q ∧ b.link = .matched p := by
  obtain ⟨pair, side, span, depth, color, link⟩ := b
  cases side <;> cases link <;> simp [Bracket.closedPair?, Link.partner?, and_comm]

/-- **The partner table has the linked positions**, and no others. -/
theorem partner?_eq_some_iff :
    (parse s texts).partner? p = some q ↔ (parse s texts).Linked p q := by
  have htable : (parse s texts).partner? p = some q ↔
      (p, q) ∈ (scanLines s 0 {} texts).flatMap Row.closedPairs :=
    Table.get?_ofList_eq_some_iff (nodup_closedPairs s texts) p q
  have hmem : (p, q) ∈ (scanLines s 0 {} texts).flatMap Row.closedPairs ↔
      ∃ c ∈ found s texts, c.closedPair? = some (p, q) := by
    simp only [found, Row.closedPairs, List.mem_flatMap, List.mem_filterMap]
    constructor
    · rintro ⟨row, hrow, c, hc, hpair⟩
      exact ⟨c, ⟨row, hrow, hc⟩, hpair⟩
    · rintro ⟨c, ⟨row, hrow, hc⟩, hpair⟩
      exact ⟨row, hrow, c, hc, hpair⟩
  rw [htable, hmem]
  constructor
  · rintro ⟨c, hc, hpair⟩
    obtain ⟨hside, hposition, hlink⟩ := closedPair?_eq_some_iff.1 hpair
    exact ⟨c, (mem_brackets_closer hside).2 hc, hside, hposition, hlink⟩
  · rintro ⟨c, hc, hside, hposition, hlink⟩
    exact ⟨c, (mem_brackets_closer hside).1 hc,
      closedPair?_eq_some_iff.2 ⟨hside, hposition, hlink⟩⟩

/-- Linked positions are those of a pair of the text. -/
theorem Linked.pairIn (h : (parse s texts).Linked p q) :
    ∃ o c, PairIn (found s texts) o c ∧ o.position = p ∧ c.position = q := by
  obtain ⟨c, hc, hside, hposition, hlink⟩ := h
  obtain ⟨o, hpair⟩ :=
    (nested_found s texts).exists_opener ((mem_brackets_closer hside).1 hc) hside hlink
  have hopener : Link.matched o.position = .matched p := hpair.1.link.symm.trans hlink
  exact ⟨o, c, hpair, Link.matched.inj hopener, hposition⟩

/-- A closer and the opener that it closes are linked. -/
theorem linked_of_closes {o c : Bracket} (hc : c ∈ found s texts) (h : c.Closes o) :
    (parse s texts).Linked o.position c.position :=
  ⟨c, (mem_brackets_closer h.closer).2 hc, h.closer, rfl, h.link⟩

/-- The opener that a closer closes is matched once it is resolved. -/
theorem link_resolve_of_closes {o c : Bracket} (hc : c ∈ found s texts) (h : c.Closes o) :
    ((parse s texts).resolve o).link = .matched c.position :=
  (link_resolve_opener _ h.opener).2 (partner?_eq_some_iff.2 (linked_of_closes hc h))

/-- The positions of the brackets of a text are distinct. -/
theorem nodup_positions (s : Scheme) (texts : List String) :
    ((parse s texts).brackets.map Bracket.position).Nodup := by
  have hpositions : (parse s texts).brackets.map Bracket.position =
      (found s texts).map Bracket.position := by
    rw [brackets_parse, List.map_map]
    exact List.map_congr_left fun b _ => position_resolve _ b
  rw [hpositions]
  exact List.pairwise_map.2 ((inOrder_found s texts).imp Position.Before.ne)

/-- Each bracket of a text is the only one at its position. -/
theorem bracketsAt_eq (h : b ∈ (parse s texts).brackets) :
    (parse s texts).bracketsAt b.position = [b] := by
  have hnodup := nodup_positions s texts
  obtain ⟨above, below, heq⟩ := List.append_of_mem h
  rw [heq, List.map_append, List.map_cons, List.nodup_middle, List.nodup_cons,
    List.mem_append, not_or] at hnodup
  obtain ⟨⟨habove, hbelow⟩, -⟩ := hnodup
  have hnone (l : List Bracket) (hl : b.position ∉ l.map Bracket.position) :
      l.filter (fun a => a.position = b.position) = [] := by
    refine List.filter_eq_nil_iff.2 fun a ha hposition => hl ?_
    exact List.mem_map.2 ⟨a, ha, of_decide_eq_true hposition⟩
  rw [bracketsAt, heq, List.filter_append, List.filter_cons, hnone above habove,
    hnone below hbelow]
  simp

/-! ### The two theorems on pairs -/

/-- **Matching is symmetric.** In any text, under any scheme:

* no two brackets share a position;
* a matched closer is linked to the one bracket at a position before it, which is an opener of the
  same pair, at the same depth, and linked back, also in the partner table;
* a matched opener is linked to the one bracket at a position, a closer, which is linked back;
* the partner table has nothing at any other position. -/
theorem matching_symmetric (s : Scheme) (texts : List String) :
    ((parse s texts).brackets.map Bracket.position).Nodup ∧
    (∀ c ∈ (parse s texts).brackets, c.side = .closer → ∀ p, c.link = .matched p →
      ∃ o, (parse s texts).bracketsAt p = [o] ∧ o.side = .opener ∧ o.pair = c.pair ∧
        o.depth = c.depth ∧ o.position.Before c.position ∧ o.link = .matched c.position ∧
        (parse s texts).partner? p = some c.position) ∧
    (∀ o ∈ (parse s texts).brackets, o.side = .opener → ∀ q, o.link = .matched q →
      ∃ c, (parse s texts).bracketsAt q = [c] ∧ c.side = .closer ∧ c.link = .matched o.position) ∧
    ∀ p, (∀ o ∈ (parse s texts).brackets, o.side = .opener → o.position = p →
        ∀ q, o.link ≠ .matched q) → (parse s texts).partner? p = none := by
  -- the opener of a matched closer, resolved
  have hcloser (c : Bracket) (hc : c ∈ (parse s texts).brackets) (hside : c.side = .closer)
      (p : Position) (hlink : c.link = .matched p) :
      ∃ o ∈ (parse s texts).brackets, o.position = p ∧ o.side = .opener ∧ o.pair = c.pair ∧
        o.depth = c.depth ∧ o.position.Before c.position ∧ o.link = .matched c.position ∧
        (parse s texts).partner? p = some c.position := by
    obtain ⟨o, hpair⟩ :=
      (nested_found s texts).exists_opener ((mem_brackets_closer hside).1 hc) hside hlink
    obtain rfl : o.position = p := Link.matched.inj (hpair.1.link.symm.trans hlink)
    refine ⟨(parse s texts).resolve o, List.mem_map_of_mem hpair.opener_mem,
      position_resolve _ o, (side_resolve _ o).trans hpair.1.opener, ?_, ?_, ?_,
      link_resolve_of_closes hpair.closer_mem hpair.1,
      partner?_eq_some_iff.2 (linked_of_closes hpair.closer_mem hpair.1)⟩
    · rw [resolve_eq, hpair.1.pair]
    · rw [resolve_eq, hpair.1.depth]
    · rw [position_resolve]
      exact (hpair.inside (inOrder_found s texts)).1
  refine ⟨nodup_positions s texts, fun c hc hside p hlink => ?_, fun o ho hside q hlink => ?_,
    fun p hnone => ?_⟩
  · obtain ⟨o, ho, rfl, hrest⟩ := hcloser c hc hside p hlink
    exact ⟨o, bracketsAt_eq ho, hrest⟩
  · obtain ⟨b, -, rfl⟩ := List.mem_map.1 ho
    rw [side_resolve] at hside
    obtain ⟨c, hc, hcside, rfl, hclink⟩ :=
      partner?_eq_some_iff.1 ((link_resolve_opener _ hside).1 hlink)
    exact ⟨c, bracketsAt_eq hc, hcside, by rw [hclink, position_resolve]⟩
  · cases hpartner : (parse s texts).partner? p with
    | none => rfl
    | some q =>
        obtain ⟨c, hc, hside, -, hlink⟩ := partner?_eq_some_iff.1 hpartner
        obtain ⟨o, ho, hposition, hopener, -, -, -, hmatched, -⟩ := hcloser c hc hside p hlink
        exact absurd hmatched (hnone o ho hopener hposition _)

/-- A pair over three lines, with a pair and a stray closer inside: its two brackets. -/
theorem matching_symmetric_around :
    let s : Scheme :=
      ⟨[⟨'(', ')', ["a"], "c"⟩, ⟨'[', ']', ["b"], "c"⟩], .independent, true, false, 0⟩
    let d := parse s ["x (", "[ ) ] // (", ")"]
    let c : Bracket := ⟨0, .closer, ⟨2, 0, 1⟩, 1, 0, .matched ⟨0, 2⟩⟩
    c ∈ d.brackets ∧
      ∃ o, d.bracketsAt ⟨0, 2⟩ = [o] ∧ o.side = .opener ∧ o.pair = c.pair ∧ o.depth = c.depth ∧
        o.position.Before c.position ∧ o.link = .matched c.position ∧
        d.partner? ⟨0, 2⟩ = some c.position := by
  intro s d c
  have hc : c ∈ d.brackets := by decide
  exact ⟨hc, (matching_symmetric s _).2.1 c hc rfl _ rfl⟩

/-- **Pairs nest.** Between the two positions of a pair

* each opener is matched to a closer between them;
* each matched closer has its opener between them;

so no other pair has one end inside and the other below, and no stray opener stands inside. -/
theorem pairs_nest (s : Scheme) (texts : List String) {o c : Position}
    (h : (parse s texts).Linked o c) :
    (∀ b ∈ (parse s texts).brackets, b.side = .opener → o.Before b.position →
      b.position.Before c → ∃ q, b.link = .matched q ∧ o.Before q ∧ q.Before c) ∧
    (∀ b ∈ (parse s texts).brackets, b.side = .closer → ∀ p, b.link = .matched p →
      o.Before b.position → b.position.Before c → o.Before p ∧ p.Before c) ∧
    (∀ o' c', (parse s texts).Linked o' c' → ¬ (o.Before o' ∧ o'.Before c ∧ c.Before c')) ∧
    ∀ b ∈ (parse s texts).brackets, b.side = .opener → b.link = .stray →
      ¬ (o.Before b.position ∧ b.position.Before c) := by
  obtain ⟨first, last, hpair, rfl, rfl⟩ := h.pairIn
  obtain ⟨-, inner, hinner, hmem⟩ := hpair.inside (inOrder_found s texts)
  have hopener : ∀ b ∈ (parse s texts).brackets, b.side = .opener →
      first.position.Before b.position → b.position.Before last.position →
      ∃ q, b.link = .matched q ∧ first.position.Before q ∧ q.Before last.position := by
    intro b hb hside hafter hbefore
    obtain ⟨raw, hraw, rfl⟩ := List.mem_map.1 hb
    rw [side_resolve] at hside
    rw [position_resolve] at hafter hbefore
    obtain ⟨c, hinside⟩ := hinner.exists_closer ((hmem raw).2 ⟨hraw, hafter, hbefore⟩) hside
    obtain ⟨hc, hbetween⟩ := (hmem c).1 hinside.closer_mem
    exact ⟨c.position, link_resolve_of_closes hc hinside.1, hbetween⟩
  have hcloser : ∀ b ∈ (parse s texts).brackets, b.side = .closer → ∀ p, b.link = .matched p →
      first.position.Before b.position → b.position.Before last.position →
      first.position.Before p ∧ p.Before last.position := by
    intro b hb hside p hlink hafter hbefore
    have hfound := (mem_brackets_closer hside).1 hb
    obtain ⟨o, hinside⟩ :=
      hinner.exists_opener ((hmem b).2 ⟨hfound, hafter, hbefore⟩) hside hlink
    obtain rfl : o.position = p := Link.matched.inj (hinside.1.link.symm.trans hlink)
    exact ((hmem o).1 hinside.opener_mem).2
  refine ⟨hopener, hcloser, ?_, ?_⟩
  · rintro o' c' hlinked ⟨hafter, hbefore, hbelow⟩
    obtain ⟨o, c, hother, rfl, rfl⟩ := hlinked.pairIn
    have hmatched := link_resolve_of_closes hother.closer_mem hother.1
    obtain ⟨q, hq, -, hq'⟩ := hopener _ (List.mem_map_of_mem hother.opener_mem)
      ((side_resolve _ o).trans hother.1.opener) (by rwa [position_resolve])
      (by rwa [position_resolve])
    obtain rfl : c.position = q := Link.matched.inj (hmatched.symm.trans hq)
    exact hq'.asymm hbelow
  · rintro b hb hside hstray ⟨hafter, hbefore⟩
    obtain ⟨q, hq, -⟩ := hopener b hb hside hafter hbefore
    exact absurd (hstray.symm.trans hq) (by simp)

/-- The same three lines: what stands inside the pair. -/
theorem pairs_nest_around :
    let s : Scheme :=
      ⟨[⟨'(', ')', ["a"], "c"⟩, ⟨'[', ']', ["b"], "c"⟩], .independent, true, false, 0⟩
    let d := parse s ["x (", "[ ) ] // (", ")"]
    let o : Bracket := ⟨1, .opener, ⟨1, 0, 1⟩, 2, 0, .matched ⟨1, 4⟩⟩
    let c : Bracket := ⟨1, .closer, ⟨1, 4, 5⟩, 2, 0, .matched ⟨1, 0⟩⟩
    d.Linked ⟨0, 2⟩ ⟨2, 0⟩ ∧ o ∈ d.brackets ∧ c ∈ d.brackets ∧
      (∃ q, o.link = .matched q ∧ Position.Before ⟨0, 2⟩ q ∧ q.Before ⟨2, 0⟩) ∧
      Position.Before ⟨0, 2⟩ ⟨1, 0⟩ ∧ Position.Before ⟨1, 0⟩ ⟨2, 0⟩ := by
  intro s d o c
  have hlinked : d.Linked ⟨0, 2⟩ ⟨2, 0⟩ :=
    ⟨⟨0, .closer, ⟨2, 0, 1⟩, 1, 0, .matched ⟨0, 2⟩⟩, by decide, rfl, rfl, rfl⟩
  have ho : o ∈ d.brackets := by decide
  have hc : c ∈ d.brackets := by decide
  have hnest := pairs_nest s _ hlinked
  exact ⟨hlinked, ho, hc,
    hnest.1 o ho rfl (.inl (by decide)) (.inl (by decide)),
    hnest.2.1 c hc rfl _ rfl (.inl (by decide)) (.inl (by decide))⟩

end Document

end BracketTint
