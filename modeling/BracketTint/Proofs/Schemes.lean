import BracketTint.Proofs.Ranges
import BracketTint.Proofs.Validation
import Mathlib.Data.List.GetD

/-!
# Validated Schemes Are Well Formed

A scheme can be any list of pairs, and where a character belongs to several of them the first one
counts. Scanning and coloring make no demands, so a color may be blank and a palette empty. This
module is about the schemes that come out of validation, for which none of this happens.

The characters of the pairs are those of acceptable texts, or of the default ones, which are
acceptable, too (`Config.exists_acceptable`). So they are all distinct, and a character stands for
at most one side of one pair (`Scheme.WellFormed.classify_eq_some_iff`): that the first one counts
no longer matters. The colors were read in one of three ways, each of which leaves a palette without
blank colors and with at least one (`Config.colors_usable`).

* `Config.validate_wellFormed` — validated schemes are well formed, and so is what they lead to:
  which characters are brackets, and the colors that are reported for any text.
-/

namespace BracketTint

/-- A scheme without ambiguous characters and without blank colors. -/
structure Scheme.WellFormed (s : Scheme) : Prop where
  ne_nil : s.pairs ≠ []
  /-- The opening and closing characters of all pairs are distinct. -/
  nodup : (s.pairs.flatMap BracketPair.characters).Nodup
  noQuote : ∀ p ∈ s.pairs, ∀ c ∈ p.characters, c ∉ ['"', '\'', '\x60']
  palette_ne_nil : ∀ p ∈ s.pairs, p.palette ≠ []
  palette : ∀ p ∈ s.pairs, ∀ color ∈ p.palette, Text.trim color ≠ ""
  strayColor : ∀ p ∈ s.pairs, Text.trim p.strayColor ≠ ""

/-! ### What characters stand for -/

namespace BracketPair

variable {p : BracketPair} {c : Char}

/-- A character is read as an opener exactly if it is the opener, whatever the closer is. -/
theorem side?_eq_opener_iff : p.side? c = some .opener ↔ c = p.opener := by
  rw [side?]
  split
  next h => simp [h]
  next h => split <;> simp [h]

/-- A character is read as a closer exactly if it is the closer, where the opener is another one. -/
theorem side?_eq_closer_iff (hdiffer : p.characters.Nodup) :
    p.side? c = some .closer ↔ c = p.closer := by
  have hne : p.opener ≠ p.closer := by simpa [characters] using hdiffer
  rw [side?]
  split
  next h => simp [h, hne]
  next h => split <;> simp [*]

/-- A character is no side of a pair exactly if it is none of its two characters. -/
theorem side?_eq_none_iff : p.side? c = none ↔ c ∉ p.characters := by
  rw [side?, characters]
  split
  next h => simp [h]
  next h => split <;> simp [*]

theorem mem_characters_of_side? {side : Side} (h : p.side? c = some side) : c ∈ p.characters := by
  by_contra hnot
  rw [side?_eq_none_iff.2 hnot] at h
  cases h

/-- A color of a pair is one of its palette, if there are any. -/
theorem color_mem (h : p.palette ≠ []) (index : Nat) : p.color index ∈ p.palette := by
  have hlength : p.cycleLength = p.palette.length := by
    have hpos := List.length_pos_of_ne_nil h
    rw [cycleLength]
    omega
  have hlt : index % p.cycleLength < p.palette.length := by
    rw [hlength]
    exact Nat.mod_lt _ (List.length_pos_of_ne_nil h)
  rw [color, List.getD_eq_getElem p.palette p.strayColor hlt]
  exact List.getElem_mem hlt

end BracketPair

/-- A character that is in no pair is no bracket. -/
theorem Scheme.classify_eq_none_iff {s : Scheme} {c : Char} :
    s.classify c = none ↔ ∀ p ∈ s.pairs, c ∉ p.characters := by
  simp only [Scheme.classify, List.findSome?_eq_none_iff, Option.map_eq_none_iff,
    BracketPair.side?_eq_none_iff, Prod.forall, List.mem_zipIdx_iff_getElem?]
  constructor
  · intro hnone p hp
    obtain ⟨i, hi⟩ := List.mem_iff_getElem?.1 hp
    exact hnone p i hi
  · intro hnone p i hi
    exact hnone p (List.mem_of_getElem? hi)

namespace Scheme.WellFormed

variable {s : Scheme} {c : Char} {i : Nat} {side : Side}

/-- The two characters of a pair differ. -/
theorem differ (h : s.WellFormed) {p : BracketPair} (hp : p ∈ s.pairs) : p.characters.Nodup :=
  (List.nodup_flatMap.1 h.nodup).1 p hp

/-- Two pairs with a character in common are one and the same. -/
theorem eq_of_mem (h : s.WellFormed) {j : Nat} {p q : BracketPair} (hp : s.pairs[i]? = some p)
    (hq : s.pairs[j]? = some q) (hcp : c ∈ p.characters) (hcq : c ∈ q.characters) : i = j := by
  have hdisjoint := (List.nodup_flatMap.1 h.nodup).2
  obtain ⟨hi, rfl⟩ := List.getElem?_eq_some_iff.1 hp
  obtain ⟨hj, rfl⟩ := List.getElem?_eq_some_iff.1 hq
  rcases Nat.lt_trichotomy i j with hlt | heq | hgt
  · exact absurd hcq (List.pairwise_iff_getElem.1 hdisjoint i j hi hj hlt hcp)
  · exact heq
  · exact absurd hcp (List.pairwise_iff_getElem.1 hdisjoint j i hj hi hgt hcq)

/-- **A character stands for the one pair that it is a side of.** -/
theorem classify_eq_some_iff (h : s.WellFormed) :
    s.classify c = some (i, side) ↔ ∃ p, s.pairs[i]? = some p ∧ p.side? c = some side := by
  refine ⟨getElem?_of_classify, ?_⟩
  rintro ⟨p, hp, hside⟩
  have hmem := BracketPair.mem_characters_of_side? hside
  -- some pair is found, and it can only be this one
  cases hclass : s.classify c with
  | none => exact absurd hmem (classify_eq_none_iff.1 hclass p (List.mem_of_getElem? hp))
  | some found =>
      obtain ⟨j, side'⟩ := found
      obtain ⟨q, hq, hside'⟩ := getElem?_of_classify hclass
      obtain rfl := h.eq_of_mem hq hp (BracketPair.mem_characters_of_side? hside') hmem
      obtain rfl : q = p := Option.some.inj (hq.symm.trans hp)
      rw [Option.some.inj (hside'.symm.trans hside)]

end Scheme.WellFormed

/-! ### Colors of a text -/

/-- A closer is matched or stray as soon as it is read. -/
theorem Nest.link_leave_cases (s : Scheme) (n : Nest) (pair : Nat) (p : Position) :
    (∃ q, (n.leave s pair p).2.link = .matched q) ∨ (n.leave s pair p).2.link = .stray := by
  by_cases h : ∃ q, (n.leave s pair p).2.link = .matched q
  · exact .inl h
  · refine .inr ((n.link_leave s pair p).2.2 fun f hf hpair => h ⟨f.position, ?_⟩)
    exact ((n.link_leave s pair p).1 _).2 ⟨f, hf, hpair, rfl⟩

namespace Document

variable {s : Scheme} {texts : List String} {b : Bracket}

/-- All brackets of a scanned text are matched or stray. -/
theorem link_cases (hb : b ∈ (parse s texts).brackets) :
    (∃ q, b.link = .matched q) ∨ b.link = .stray := by
  obtain ⟨raw, hraw, rfl⟩ := List.mem_map.1 hb
  cases hside : raw.side with
  | opener =>
      rw [link_resolve_stray _ hside]
      cases hpartner : (parse s texts).partner? raw.position with
      | none => exact .inr rfl
      | some q => exact .inl ⟨q, (link_resolve_opener _ hside).2 hpartner⟩
  | closer =>
      rw [resolve_closer _ hside, ← leave_nestBefore hraw hside]
      exact Nest.link_leave_cases _ _ _ _

/-- **Colors come from the pair of a bracket**: that of a matched bracket from the palette, and that
of a stray one is the stray color. -/
theorem colorOf_cases (h : s.WellFormed) (hb : b ∈ (parse s texts).brackets) :
    ∃ p, s.pairs[b.pair]? = some p ∧
      ((∃ q, b.link = .matched q) ∧ s.colorOf b ∈ p.palette ∨
        b.link = .stray ∧ s.colorOf b = p.strayColor) := by
  obtain ⟨c, hclass⟩ := exists_classify_of_mem hb
  obtain ⟨p, hp, -⟩ := Scheme.getElem?_of_classify hclass
  refine ⟨p, hp, ?_⟩
  rcases link_cases hb with ⟨q, hlink⟩ | hlink
  · have hcolor := p.color_mem (h.palette_ne_nil p (List.mem_of_getElem? hp)) b.color
    refine .inl ⟨⟨q, hlink⟩, ?_⟩
    simpa [Scheme.colorOf, hp, Bracket.isStray, hlink] using hcolor
  · refine .inr ⟨hlink, ?_⟩
    simp [Scheme.colorOf, hp, Bracket.isStray, hlink]

/-- The colors that are reported are those of the brackets. -/
theorem exists_colorOf_of_mem_keys {color : String} (h : color ∈ (parse s texts).colorMap.keys) :
    ∃ b ∈ (parse s texts).brackets, s.colorOf b = color := by
  obtain ⟨spans, hspans⟩ := (Table.mem_keys_iff _ _).1 h
  have hlisted : (parse s texts).colorMap.spansOf color = spans := by
    rw [ColorMap.spansOf, hspans, Option.getD_some]
  have hne : (parse s texts).colorMap.spansOf color ≠ [] := by
    rw [hlisted]
    rintro rfl
    exact ColorMap.get?_ofBrackets_ne_nil _ _ color hspans
  rw [colorMap, scheme_parse, ColorMap.spansOf_ofBrackets] at hne
  obtain ⟨b, hb⟩ := List.exists_mem_of_ne_nil _ fun hnil => hne (List.map_eq_nil_iff.2 hnil)
  obtain ⟨hb, hcolor⟩ := List.mem_filter.1 hb
  exact ⟨b, hb, of_decide_eq_true hcolor⟩

end Document

/-! ### What comes out of validation -/

namespace Config

variable {c : Config}

/-- The characters of the pairs are those of acceptable texts. -/
theorem exists_acceptable (c : Config) : ∃ texts, Acceptable texts ∧
    c.validate.1.pairs.map BracketPair.characters = texts.map String.toList := by
  rcases c.validate_pairs_spec with ⟨haccept, hcharacters, -⟩ | ⟨w, -, hcharacters, -⟩
  · exact ⟨_, haccept, hcharacters⟩
  · exact ⟨_, acceptable_defaultPairs, hcharacters⟩

/-- A palette that was read has at least one color, and none that is blank. -/
theorem PaletteRead.usable {owner : String} {given palette words : List String}
    {warnings : List Warning} (h : PaletteRead owner given palette warnings words) :
    palette ≠ [] ∧ ∀ color ∈ palette, Text.trim color ≠ "" := by
  cases h with
  | kept hcolor husable =>
      constructor
      · exact List.ne_nil_of_mem (List.mem_filter.2 ⟨hcolor, decide_eq_true husable⟩)
      · intro color hmem
        exact of_decide_eq_true (List.mem_filter.1 hmem).2
  | replaced => exact ⟨by decide, by decide⟩

/-- A stray color that was read is not blank. -/
theorem StrayColorRead.usable {given color : String} {warnings : List Warning}
    {words : List String} (h : StrayColorRead given color warnings words) :
    Text.trim color ≠ "" := by
  cases h with
  | kept husable => exact husable
  | replaced => decide

/-- The colors of a shared cycle can be used, and are those of all pairs. -/
theorem exists_shared_colors (h : c.scope = .consecutive) : ∃ palette strayColor,
    (palette ≠ [] ∧ ∀ color ∈ palette, Text.trim color ≠ "") ∧ Text.trim strayColor ≠ "" ∧
      ∀ p ∈ c.validate.1.pairs, p.palette = palette ∧ p.strayColor = strayColor := by
  obtain ⟨-, hpairs, -⟩ := validate_of_consecutive h
  obtain ⟨palette, strayColor, _, _, hpalette, hstray, hall, -⟩ := c.shared.read_spec
  exact ⟨palette, strayColor, hpalette.usable, hstray.usable, hpairs ▸ hall⟩

/-- **The colors of each pair can be used**, in whichever way they were read. -/
theorem colors_usable {p : BracketPair} (hp : p ∈ c.validate.1.pairs) :
    p.palette ≠ [] ∧ (∀ color ∈ p.palette, Text.trim color ≠ "") ∧ Text.trim p.strayColor ≠ "" := by
  cases hscope : c.scope with
  | consecutive =>
      obtain ⟨_, _, hpalette, hstray, hall⟩ := exists_shared_colors hscope
      obtain ⟨rfl, rfl⟩ := hall p hp
      exact ⟨hpalette.1, hpalette.2, hstray⟩
  | independent =>
      obtain ⟨-, hpairs, -⟩ := validate_of_independent hscope
      rw [hpairs] at hp
      rcases readOwn_spec c.own with ⟨-, read, hread, -, hcolors⟩ | ⟨w, -, -, -, hdefault⟩
      · rw [hread] at hp
        obtain ⟨r, hr, rfl⟩ := List.mem_map.1 hp
        obtain ⟨i, hi, rfl⟩ := List.getElem_of_mem hr
        obtain ⟨_, _, hpalette, hstray, -⟩ := hcolors.get (hcolors.length_eq ▸ hi) hi
        exact ⟨hpalette.usable.1, hpalette.usable.2, hstray.usable⟩
      · obtain ⟨hpalette, hstray⟩ := hdefault p hp
        rw [hpalette, hstray]
        exact ⟨by decide, by decide, by decide⟩

/-- The scheme is well formed, since its characters are those of acceptable texts and its colors can
be used. -/
theorem wellFormed_validate (c : Config) : c.validate.1.WellFormed := by
  obtain ⟨texts, haccept, hcharacters⟩ := c.exists_acceptable
  refine ⟨?_, ?_, ?_, fun p hp => (colors_usable hp).1, fun p hp => (colors_usable hp).2.1,
    fun p hp => (colors_usable hp).2.2⟩
  · intro hnil
    rw [hnil, List.map_nil, eq_comm, List.map_eq_nil_iff] at hcharacters
    exact haccept.ne_nil hcharacters
  · rw [List.flatMap_def, hcharacters, ← List.flatMap_def]
    exact List.nodup_flatMap.2 ⟨haccept.differ, haccept.disjoint⟩
  · intro p hp
    have hmem := List.mem_map_of_mem (f := BracketPair.characters) hp
    rw [hcharacters] at hmem
    obtain ⟨t, ht, heq⟩ := List.mem_map.1 hmem
    rw [← heq]
    exact haccept.noQuote t ht

/-- **Validated schemes are well formed**, whatever the configuration:

* there is a pair, the characters of all pairs are distinct and none is a quote, each palette has a
  color, and no color is blank;
* a character stands for an opener or a closer exactly if it is the one of that pair, and all other
  characters stand for nothing;
* pairs that share a cycle have the same colors;
* all colors that are reported for a text are not blank: those of matched brackets are in the
  palettes of their pairs, and those of stray ones are the stray colors. -/
theorem validate_wellFormed (c : Config) :
    c.validate.1.WellFormed ∧
    (∀ i x, (c.validate.1.classify x = some (i, .opener) ↔
        ∃ p, c.validate.1.pairs[i]? = some p ∧ x = p.opener) ∧
      (c.validate.1.classify x = some (i, .closer) ↔
        ∃ p, c.validate.1.pairs[i]? = some p ∧ x = p.closer)) ∧
    (∀ x, c.validate.1.classify x = none ↔
      ∀ p ∈ c.validate.1.pairs, x ≠ p.opener ∧ x ≠ p.closer) ∧
    (c.scope = .consecutive → ∀ p ∈ c.validate.1.pairs, ∀ q ∈ c.validate.1.pairs,
      p.palette = q.palette ∧ p.strayColor = q.strayColor) ∧
    ∀ texts, (∀ color ∈ (Document.parse c.validate.1 texts).colorMap.keys, Text.trim color ≠ "") ∧
      ∀ b ∈ (Document.parse c.validate.1 texts).brackets,
        ∃ p, c.validate.1.pairs[b.pair]? = some p ∧
          ((∃ q, b.link = .matched q) ∧ c.validate.1.colorOf b ∈ p.palette ∨
            b.link = .stray ∧ c.validate.1.colorOf b = p.strayColor) := by
  have hwell := c.wellFormed_validate
  refine ⟨hwell, fun i x => ⟨?_, ?_⟩, fun x => ?_, fun hscope p hp q hq => ?_,
    fun texts => ⟨?_, ?_⟩⟩
  · simp only [hwell.classify_eq_some_iff, BracketPair.side?_eq_opener_iff]
  · rw [hwell.classify_eq_some_iff]
    refine exists_congr fun p => and_congr_right fun hp => ?_
    exact BracketPair.side?_eq_closer_iff (hwell.differ (List.mem_of_getElem? hp))
  · simp [Scheme.classify_eq_none_iff, BracketPair.characters]
  · obtain ⟨_, _, -, -, hall⟩ := exists_shared_colors hscope
    obtain ⟨hpalette, hstray⟩ := hall p hp
    obtain ⟨hpalette', hstray'⟩ := hall q hq
    exact ⟨hpalette.trans hpalette'.symm, hstray.trans hstray'.symm⟩
  · intro color hcolor
    obtain ⟨b, hb, rfl⟩ := Document.exists_colorOf_of_mem_keys hcolor
    obtain ⟨p, hp, ⟨-, hmem⟩ | ⟨-, heq⟩⟩ := Document.colorOf_cases hwell hb
    · exact hwell.palette p (List.mem_of_getElem? hp) _ hmem
    · rw [heq]
      exact hwell.strayColor p (List.mem_of_getElem? hp)
  · intro b hb
    exact Document.colorOf_cases hwell hb

/-- Two pairs that are kept, with a blank color among theirs and a blank stray color, on a text with
a closer of each pair of which one is stray. -/
theorem validate_wellFormed_shared :
    let c : Config := { shared := ⟨["<>", "()"], [" ", "Blue"], ""⟩ }
    let d := Document.parse c.validate.1 ["(>)"]
    (c.scope = .consecutive ∧ ∀ p ∈ c.validate.1.pairs, ∀ q ∈ c.validate.1.pairs,
      p.palette = q.palette ∧ p.strayColor = q.strayColor) ∧
    d.colorMap.keys = ["Blue", "Red"] ∧ (∀ color ∈ d.colorMap.keys, Text.trim color ≠ "") ∧
    d.brackets.map (·.pair) = [1, 0, 1] ∧ ∀ b ∈ d.brackets,
      ∃ p, c.validate.1.pairs[b.pair]? = some p ∧
        ((∃ q, b.link = .matched q) ∧ c.validate.1.colorOf b ∈ p.palette ∨
          b.link = .stray ∧ c.validate.1.colorOf b = p.strayColor) := by
  intro c d
  have h := validate_wellFormed c
  have hcolors := h.2.2.2.2 ["(>)"]
  exact ⟨⟨rfl, h.2.2.2.1 rfl⟩, by decide, hcolors.1, by decide, hcolors.2⟩

end Config

end BracketTint
