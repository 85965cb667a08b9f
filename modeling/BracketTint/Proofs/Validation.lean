import BracketTint.Config.Validate
import BracketTint.Proofs.Quoting
import Mathlib.Data.List.DropRight
import Mathlib.Data.List.Forall2
import Mathlib.Data.List.Nodup

/-!
# What Validation Accepts

A configuration is checked step by step. The texts of the pairs are gone through with a list of the
pairs that were read so far, and the first text that fails one of four checks ends it. Colors are
checked apart from the pairs, in one of two orders, and what is given up if the pairs are rejected
depends on the scope.

This module says what is accepted without any of these steps. Texts are `Usable` as pairs if each
has two characters that differ and are no quotes, and no two have a character in common. A warning
blames the right text (`Blames`) if those before it are usable and cannot be used together with it.
Colors are read as they should be if the blank ones are left out, or the default ones take their
place with a warning (`ColorsRead`). What a warning says is part of this, word by word.

* `Config.readPairs_spec` — reading succeeds exactly on usable texts, and else blames the first that
  is at fault;
* `Config.validate_accepts_iff` — validation as a whole: which pairs it accepts, what takes the
  place of those that it rejects, what becomes of the colors, and which warnings there are.
-/

namespace BracketTint

/-! ### Blank texts -/

namespace Text

/-- A text without the white space at its two ends. -/
def trim (s : String) : String :=
  String.ofList ((s.toList.dropWhile isWhiteSpace).rdropWhile isWhiteSpace)

/-- A text is blank if nothing is left of it without the white space at its ends. -/
theorem isBlank_iff {s : String} : isBlank s = true ↔ trim s = "" := by
  rw [isBlank, List.all_eq_true, trim, String.ofList_eq_empty_iff, List.rdropWhile_eq_nil_iff]
  constructor
  · intro hall
    rw [List.dropWhile_eq_nil_iff.2 hall]
    exact fun _ => nofun
  · intro hrest
    -- what is left at the front would start with something else than white space
    refine List.dropWhile_eq_nil_iff.1 ?_
    by_contra hne
    have hhead := List.head_dropWhile_not isWhiteSpace hne
    rw [hrest _ (List.head_mem hne)] at hhead
    exact absurd hhead (by decide)

end Text

/-- The two characters of a pair. -/
def BracketPair.characters (p : BracketPair) : List Char := [p.opener, p.closer]

/-! ### Texts of pairs -/

/-- Texts that can be used as pairs together. -/
structure Usable (texts : List String) : Prop where
  length_eq : ∀ t ∈ texts, t.length = 2
  differ : ∀ t ∈ texts, t.toList.Nodup
  noQuote : ∀ t ∈ texts, ∀ c ∈ t.toList, c ∉ ['"', '\'', '\x60']
  disjoint : texts.Pairwise fun t u => t.toList.Disjoint u.toList

/-- Usable texts of which there is at least one. -/
structure Acceptable (texts : List String) : Prop extends Usable texts where
  ne_nil : texts ≠ []

theorem Usable.nil : Usable [] := ⟨nofun, nofun, nofun, .nil⟩

/-- The first of some usable texts are usable. -/
theorem Usable.of_append {before after : List String} (h : Usable (before ++ after)) :
    Usable before where
  length_eq t ht := h.length_eq t (List.mem_append_left _ ht)
  differ t ht := h.differ t (List.mem_append_left _ ht)
  noQuote t ht := h.noQuote t (List.mem_append_left _ ht)
  disjoint := (List.pairwise_append.1 h.disjoint).1

/-- What one more text needs to be usable together with others. -/
structure Joins (before : List String) (t : String) : Prop where
  length_eq : t.length = 2
  differ : t.toList.Nodup
  noQuote : ∀ c ∈ t.toList, c ∉ ['"', '\'', '\x60']
  disjoint : ∀ u ∈ before, u.toList.Disjoint t.toList

theorem usable_concat {before : List String} {t : String} :
    Usable (before ++ [t]) ↔ Usable before ∧ Joins before t := by
  constructor
  · intro h
    have ht : t ∈ before ++ [t] := List.mem_append_right _ List.mem_cons_self
    exact ⟨h.of_append, h.length_eq t ht, h.differ t ht, h.noQuote t ht, fun u hu =>
      (List.pairwise_append.1 h.disjoint).2.2 u hu t List.mem_cons_self⟩
  · rintro ⟨h, ht⟩
    refine ⟨?_, ?_, ?_, List.pairwise_append.2 ⟨h.disjoint, List.pairwise_singleton _ _, ?_⟩⟩
    · simpa [or_imp, forall_and] using ⟨h.length_eq, ht.length_eq⟩
    · simpa [or_imp, forall_and] using ⟨h.differ, ht.differ⟩
    · simpa only [List.forall_mem_append, List.forall_mem_singleton] using ⟨h.noQuote, ht.noQuote⟩
    · simpa using ht.disjoint

/-- What is wrong with a text that comes after others, and the words for it: the first of four
checks that it fails. -/
inductive PairProblem.Of (before : List String) (t : String) : PairProblem → String → Prop where
  | notTwo (hlength : t.length ≠ 2) : Of before t .notTwo "must be exactly two characters"
  | equal {c : Char} (ht : t.toList = [c, c]) : Of before t .equal "opener and closer must differ"
  | quote {o c q : Char} (ht : t.toList = [o, c]) (hne : o ≠ c) (hq : q ∈ t.toList)
      (hquote : q ∈ ['"', '\'', '\x60']) : Of before t .quote "quote characters cannot be brackets"
  | overlap {o c both : Char} {u : String} (ht : t.toList = [o, c]) (hne : o ≠ c)
      (hquote : ∀ q ∈ t.toList, q ∉ ['"', '\'', '\x60']) (hu : u ∈ before)
      (hboth : both ∈ u.toList) (hboth' : both ∈ t.toList) :
      Of before t .overlap "characters overlap another pair"

/-- Each problem is a reason why a text cannot join the others. -/
theorem PairProblem.Of.not_joins {before : List String} {t words : String} {problem : PairProblem}
    (h : problem.Of before t words) : ¬Joins before t := by
  intro hjoins
  cases h with
  | notTwo hlength => exact hlength hjoins.length_eq
  | equal ht => simpa [ht] using hjoins.differ
  | quote ht hne hq hquote => exact hjoins.noQuote _ hq hquote
  | overlap ht hne hquote hu hboth hboth' => exact hjoins.disjoint _ hu hboth hboth'

namespace Config

/-- Pairs of characters are spelled by texts. -/
def Spells (pairs : List (Char × Char)) (texts : List String) : Prop :=
  pairs.map (fun p => [p.1, p.2]) = texts.map String.toList

/-- A warning says in these words that there are no texts, or what is wrong with the first text that
cannot be used together with those before it. -/
inductive Blames : List String → Warning → String → Prop where
  | noPairs : Blames [] .noPairs "No bracket pairs configured, using default pairs"
  | badPair {before after : List String} {t words : String} {problem : PairProblem}
      (hbefore : Usable before) (hbad : ¬Usable (before ++ [t]))
      (hproblem : problem.Of before t words) :
      Blames (before ++ t :: after) (.badPair t problem)
        ("Invalid bracket pair " ++ Text.quoted t ++ " (" ++ words ++ "), using default pairs")

/-- Where somebody is to blame, the texts are not acceptable. -/
theorem Blames.not_acceptable {texts : List String} {w : Warning} {words : String}
    (h : Blames texts w words) : ¬Acceptable texts := by
  intro haccept
  cases h with
  | noPairs => exact haccept.ne_nil rfl
  | badPair hbefore hbad hproblem =>
      have husable := haccept.toUsable
      rw [← List.singleton_append, ← List.append_assoc] at husable
      exact hbad husable.of_append

/-- One pair has a character of a text exactly if one of the texts has. -/
theorem Spells.any_iff {pairs : List (Char × Char)} {texts : List String} (h : Spells pairs texts)
    (o c : Char) :
    (pairs.any fun p => p.1 == o || p.1 == c || p.2 == o || p.2 == c) = true ↔
      ∃ u ∈ texts, ∃ both ∈ u.toList, both ∈ [o, c] := by
  have hmem : (∃ u ∈ texts, ∃ both ∈ u.toList, both ∈ [o, c]) ↔
      ∃ l ∈ texts.map String.toList, ∃ both ∈ l, both ∈ [o, c] := by simp
  rw [hmem, ← h, List.any_eq_true]
  simp only [List.mem_map, exists_exists_and_eq_and, List.mem_cons, List.not_mem_nil, or_false,
    exists_eq_or_imp, exists_eq_left, Bool.or_eq_true, beq_iff_eq, or_assoc]

/-- **One text is read** if it can join the texts before, and otherwise its problem is told. -/
theorem readPair_spec {pairs : List (Char × Char)} {before : List String}
    (hspells : Spells pairs before) (t : String) :
    (∃ p, readPair pairs t = .ok p ∧ t.toList = [p.1, p.2] ∧ Joins before t) ∨
      ∃ problem, readPair pairs t = .error problem ∧ problem.Of before t problem.message := by
  by_cases hlength : t.length = 2
  · obtain ⟨o, c, ht⟩ : ∃ o c, t.toList = [o, c] :=
      List.length_eq_two.1 (String.length_toList.trans hlength)
    have hany := hspells.any_iff o c
    simp only [readPair, ht]
    by_cases hne : o = c
    · rw [if_pos hne]
      subst hne
      exact .inr ⟨_, rfl, .equal ht⟩
    · rw [if_neg hne]
      by_cases hquote : (Region.isQuote o || Region.isQuote c) = true
      · rw [if_pos hquote]
        rcases Bool.or_eq_true_iff.1 hquote with hq | hq
        · exact .inr ⟨_, rfl, .quote ht hne (by simp [ht]) (Region.isQuote_iff.1 hq)⟩
        · exact .inr ⟨_, rfl, .quote ht hne (by simp [ht]) (Region.isQuote_iff.1 hq)⟩
      · have hplain : ∀ q ∈ t.toList, q ∉ ['"', '\'', '\x60'] := by
          rw [ht, List.forall_mem_cons, List.forall_mem_singleton, ← Region.isQuote_iff,
            ← Region.isQuote_iff, ← not_or, ← Bool.or_eq_true]
          exact hquote
        rw [if_neg hquote]
        split
        next hoverlap =>
          obtain ⟨u, hu, both, hboth, hboth'⟩ := hany.1 hoverlap
          exact .inr ⟨_, rfl, .overlap ht hne hplain hu hboth (ht ▸ hboth')⟩
        next hapart =>
          refine .inl ⟨(o, c), rfl, rfl, hlength, by simp [ht, hne], hplain, ?_⟩
          intro u hu both hboth hboth'
          exact hapart (hany.2 ⟨u, hu, both, hboth, ht ▸ hboth'⟩)
  · have hread : readPair pairs t = .error .notTwo := by
      unfold readPair
      split
      next ht => exact absurd (by rw [← String.length_toList, ht]; rfl) hlength
      next => rfl
    exact .inr ⟨_, hread, .notTwo hlength⟩

/-- Reading goes on behind usable texts. The list of those before is the invariant: it is usable,
and the pairs read so far are spelled by it. -/
theorem readMorePairs_spec {pairs : List (Char × Char)} {before : List String}
    (hspells : Spells pairs before) (husable : Usable before) (rest : List String) :
    (∃ all, readMorePairs pairs rest = .ok all ∧ Spells all (before ++ rest) ∧
        Acceptable (before ++ rest)) ∨
      ∃ w, readMorePairs pairs rest = .error w ∧ Blames (before ++ rest) w w.message := by
  induction rest generalizing pairs before with
  | nil =>
      rw [List.append_nil]
      cases pairs with
      | nil =>
          obtain rfl : before = [] := by simpa [Spells] using hspells
          exact .inr ⟨_, rfl, .noPairs⟩
      | cons p pairs =>
          refine .inl ⟨_, rfl, hspells, husable, ?_⟩
          rintro rfl
          exact absurd hspells (by simp [Spells])
  | cons t rest ih =>
      rcases readPair_spec hspells t with ⟨p, hread, ht, hjoins⟩ | ⟨problem, hread, hproblem⟩
      · have hmore : Spells (pairs ++ [p]) (before ++ [t]) := by
          rw [Spells, List.map_append, List.map_append, hspells, List.map_singleton,
            List.map_singleton, ht]
        have hstep := ih hmore (usable_concat.2 ⟨husable, hjoins⟩)
        rw [List.append_assoc, List.singleton_append] at hstep
        simpa only [readMorePairs, hread] using hstep
      · refine .inr ⟨.badPair t problem, by simp only [readMorePairs, hread], ?_⟩
        refine .badPair husable (fun h => ?_) hproblem
        exact hproblem.not_joins (usable_concat.1 h).2

/-- **Pairs are read exactly if their texts are acceptable**, and otherwise the first text that is
at fault is blamed. -/
theorem readPairs_spec (texts : List String) :
    (∃ pairs, readPairs texts = .ok pairs ∧ Spells pairs texts ∧ Acceptable texts) ∨
      ∃ w, readPairs texts = .error w ∧ Blames texts w w.message := by
  have hstart : Spells [] [] := rfl
  exact readMorePairs_spec hstart .nil texts

/-! ### Colors -/

/-- What becomes of a palette, with warnings and their words: the colors that are not blank, or the
default ones. -/
inductive PaletteRead (owner : String) (given : List String) :
    List String → List Warning → List String → Prop where
  | kept {color : String} (hcolor : color ∈ given) (husable : Text.trim color ≠ "") :
      PaletteRead owner given (given.filter fun color => Text.trim color ≠ "") [] []
  | replaced (hblank : ∀ color ∈ given, Text.trim color = "") :
      PaletteRead owner given ["Gold", "Orchid", "LightSkyBlue"] [.noColors owner]
        ["Empty color list for " ++ owner ++ ", using default colors"]

/-- What becomes of a stray color, with warnings and their words: it stays, or is replaced by the
default one. -/
inductive StrayColorRead (given : String) : String → List Warning → List String → Prop where
  | kept (husable : Text.trim given ≠ "") : StrayColorRead given given [] []
  | replaced (hblank : Text.trim given = "") :
      StrayColorRead given "Red" [.noStrayColor] ["Empty orphan color, using default"]

/-- The colors of a pair are what becomes of those that its entry gives, with these warnings. -/
def Own.ColorsRead (entry : Own) (r : BracketPair × List Warning) : Prop :=
  ∃ first second,
    PaletteRead entry.pair entry.palette r.1.palette first (first.map Warning.message) ∧
    StrayColorRead entry.strayColor r.1.strayColor second (second.map Warning.message) ∧
    r.2 = first ++ second

theorem paletteRead_readPalette (owner : String) (given : List String) :
    PaletteRead owner given (readPalette owner given).1 (readPalette owner given).2
      ((readPalette owner given).2.map Warning.message) := by
  have hblank (color : String) : (!Text.isBlank color) = decide (Text.trim color ≠ "") := by
    simp [← Text.isBlank_iff]
  simp only [readPalette, hblank, List.isEmpty_iff]
  split
  next hnone =>
    refine .replaced fun color hcolor => ?_
    simpa using List.filter_eq_nil_iff.1 hnone color hcolor
  next hsome =>
    obtain ⟨color, hcolor⟩ := List.exists_mem_of_ne_nil _ hsome
    obtain ⟨hcolor, husable⟩ := List.mem_filter.1 hcolor
    exact .kept hcolor (of_decide_eq_true husable)

theorem strayColorRead_readStrayColor (given : String) :
    StrayColorRead given (readStrayColor given).1 (readStrayColor given).2
      ((readStrayColor given).2.map Warning.message) := by
  rw [readStrayColor]
  split
  next hblank => exact .replaced (Text.isBlank_iff.1 hblank)
  next husable => exact .kept (mt Text.isBlank_iff.2 husable)

theorem Own.colorsRead_read (p : Char × Char) (entry : Own) : entry.ColorsRead (entry.read p) :=
  ⟨_, _, paletteRead_readPalette entry.pair entry.palette,
    strayColorRead_readStrayColor entry.strayColor, rfl⟩

/-- Whether a warning is about the pairs, and not about their colors. -/
def Warning.aboutPairs : Warning → Bool
  | badPair _ _ | noPairs => true
  | noColors _ | noStrayColor => false

theorem Blames.aboutPairs {texts : List String} {w : Warning} {words : String}
    (h : Blames texts w words) : w.aboutPairs = true := by
  cases h <;> rfl

theorem PaletteRead.aboutPairs {owner : String} {given palette words : List String}
    {warnings : List Warning} (h : PaletteRead owner given palette warnings words) :
    ∀ w ∈ warnings, w.aboutPairs = false := by
  cases h <;> simp [Warning.aboutPairs]

theorem StrayColorRead.aboutPairs {given color : String} {warnings : List Warning}
    {words : List String} (h : StrayColorRead given color warnings words) :
    ∀ w ∈ warnings, w.aboutPairs = false := by
  cases h <;> simp [Warning.aboutPairs]

/-- The warnings about the colors of entries are not about pairs. -/
theorem Own.aboutPairs_of_forall₂ {entries : List Own} {read : List (BracketPair × List Warning)}
    (h : List.Forall₂ ColorsRead entries read) :
    ∀ w ∈ read.flatMap (·.2), w.aboutPairs = false := by
  induction h with
  | nil => exact fun _ => nofun
  | cons hfirst _ ih =>
      obtain ⟨first, second, hpalette, hstray, heq⟩ := hfirst
      rw [List.flatMap_cons, heq]
      exact List.forall_mem_append.2
        ⟨List.forall_mem_append.2 ⟨hpalette.aboutPairs, hstray.aboutPairs⟩, ih⟩

/-! ### The two sections -/

/-- The texts of the pairs that a configuration asks for. -/
def pairTexts (c : Config) : List String :=
  match c.scope with
  | .consecutive => c.shared.pairs
  | .independent => c.own.map Own.pair

/-- The default pairs as texts. -/
theorem spells_standardPairs : Spells standardPairs defaultPairs := by
  rw [Spells]
  decide

theorem acceptable_defaultPairs : Acceptable defaultPairs where
  length_eq := by decide
  differ := by decide
  noQuote := by simp [defaultPairs]
  disjoint := by simp [defaultPairs, List.disjoint_left]
  ne_nil := by decide

/-- Pairs of characters and entries that go with them are read one by one. -/
theorem forall₂_read {pairs : List (Char × Char)} {entries : List Own}
    (h : Spells pairs (entries.map Own.pair)) :
    List.Forall₂ Own.ColorsRead entries (List.zipWith Own.read pairs entries) ∧
      (List.zipWith Own.read pairs entries).map (fun r => r.1.characters) =
        (entries.map Own.pair).map String.toList := by
  induction entries generalizing pairs with
  | nil => simp
  | cons entry entries ih =>
      cases pairs with
      | nil => exact absurd h (by simp [Spells])
      | cons p pairs =>
          simp only [Spells, List.map_cons, List.cons.injEq] at h
          obtain ⟨hread, hcharacters⟩ := ih h.2
          refine ⟨.cons (Own.colorsRead_read p entry) hread, ?_⟩
          simp only [List.zipWith_cons_cons, List.map_cons, hcharacters, ← h.1]
          rfl

/-- **The section for a shared cycle**: the pairs are accepted or replaced, and the colors are read
once for all of them, in either case. -/
theorem Shared.read_spec (s : Shared) :
    ∃ palette strayColor first second,
      PaletteRead CycleScope.consecutive.name s.palette palette first
        (first.map Warning.message) ∧
      StrayColorRead s.strayColor strayColor second (second.map Warning.message) ∧
      (∀ p ∈ s.read.1, p.palette = palette ∧ p.strayColor = strayColor) ∧
      ((Acceptable s.pairs ∧ s.read.1.map BracketPair.characters = s.pairs.map String.toList ∧
          s.read.2 = first ++ second) ∨
        ∃ w, Blames s.pairs w w.message ∧
          s.read.1.map BracketPair.characters = defaultPairs.map String.toList ∧
          s.read.2 = first ++ second ++ [w]) := by
  refine ⟨_, _, _, _, paletteRead_readPalette _ s.palette,
    strayColorRead_readStrayColor s.strayColor, fun p hp => ?_, ?_⟩
  · rw [read] at hp
    split at hp
    all_goals
      obtain ⟨q, -, rfl⟩ := List.mem_map.1 hp
      exact ⟨rfl, rfl⟩
  · rcases readPairs_spec s.pairs with ⟨pairs, hread, hspells, haccept⟩ | ⟨w, hread, hblames⟩
    · refine .inl ⟨haccept, ?_, by simp only [read, hread]⟩
      rw [← hspells]
      simp only [read, hread, List.map_map]
      rfl
    · refine .inr ⟨w, hblames, ?_, by simp only [read, hread]⟩
      rw [← spells_standardPairs]
      simp only [read, hread, List.map_map]
      rfl

/-- **The section for cycles of their own**: the pairs are accepted and the colors of each are read,
or both are replaced. -/
theorem readOwn_spec (entries : List Own) :
    (Acceptable (entries.map Own.pair) ∧ ∃ read : List (BracketPair × List Warning),
        readOwn entries = (read.map (·.1), read.flatMap (·.2)) ∧
        read.map (fun r => r.1.characters) = (entries.map Own.pair).map String.toList ∧
        List.Forall₂ Own.ColorsRead entries read) ∨
      ∃ w, Blames (entries.map Own.pair) w w.message ∧ (readOwn entries).2 = [w] ∧
        (readOwn entries).1.map BracketPair.characters = defaultPairs.map String.toList ∧
        ∀ p ∈ (readOwn entries).1,
          p.palette = ["Gold", "Orchid", "LightSkyBlue"] ∧ p.strayColor = "Red" := by
  rcases readPairs_spec (entries.map Own.pair) with
    ⟨pairs, hread, hspells, haccept⟩ | ⟨w, hread, hblames⟩
  · obtain ⟨hcolors, hcharacters⟩ := forall₂_read hspells
    refine .inl ⟨haccept, _, ?_, hcharacters, hcolors⟩
    simp only [readOwn, hread]
  · refine .inr ⟨w, hblames, by simp only [readOwn, hread], ?_, fun p hp => ?_⟩
    · rw [← spells_standardPairs]
      simp only [readOwn, hread, List.map_map]
      rfl
    · simp only [readOwn, hread] at hp
      obtain ⟨q, -, rfl⟩ := List.mem_map.1 hp
      exact ⟨rfl, rfl⟩

/-! ### Validation as a whole -/

variable {c : Config}

theorem validate_of_consecutive (h : c.scope = .consecutive) :
    c.pairTexts = c.shared.pairs ∧ c.validate.1.pairs = c.shared.read.1 ∧
      c.validate.2 = c.shared.read.2 := by
  simp only [pairTexts, validate, h, and_self]

theorem validate_of_independent (h : c.scope = .independent) :
    c.pairTexts = c.own.map Own.pair ∧ c.validate.1.pairs = (readOwn c.own).1 ∧
      c.validate.2 = (readOwn c.own).2 := by
  simp only [pairTexts, validate, h, and_self]

/-- Where all warnings are about colors, none is about pairs. -/
theorem filter_aboutPairs {warnings : List Warning} (h : ∀ w ∈ warnings, w.aboutPairs = false) :
    warnings.filter Warning.aboutPairs = [] ∧
      warnings.filter (fun w => !w.aboutPairs) = warnings :=
  ⟨List.filter_eq_nil_iff.2 fun w hw => by simp [h w hw],
    List.filter_eq_self.2 fun w hw => by simp [h w hw]⟩

/-- **Pairs in either scope**: they are those of the texts, without a warning, or the default ones,
with one warning that blames the first text at fault. -/
theorem validate_pairs_spec (c : Config) :
    (Acceptable c.pairTexts ∧
        c.validate.1.pairs.map BracketPair.characters = c.pairTexts.map String.toList ∧
        c.validate.2.filter Warning.aboutPairs = []) ∨
      ∃ w, Blames c.pairTexts w w.message ∧
        c.validate.1.pairs.map BracketPair.characters = defaultPairs.map String.toList ∧
        c.validate.2.filter Warning.aboutPairs = [w] := by
  cases hscope : c.scope with
  | consecutive =>
      obtain ⟨htexts, hpairs, hwarnings⟩ := validate_of_consecutive hscope
      obtain ⟨palette, strayColor, first, second, hfirst, hsecond, -, hcase⟩ := c.shared.read_spec
      have hcolors := List.forall_mem_append.2 ⟨hfirst.aboutPairs, hsecond.aboutPairs⟩
      rw [htexts, hpairs, hwarnings]
      refine hcase.imp (fun ⟨haccept, hcharacters, hread⟩ => ⟨haccept, hcharacters, ?_⟩)
        fun ⟨w, hblames, hcharacters, hread⟩ => ⟨w, hblames, hcharacters, ?_⟩
      · rw [hread, (filter_aboutPairs hcolors).1]
      · rw [hread, List.filter_append, (filter_aboutPairs hcolors).1, List.filter_singleton,
          hblames.aboutPairs]
        rfl
  | independent =>
      obtain ⟨htexts, hpairs, hwarnings⟩ := validate_of_independent hscope
      rw [htexts, hpairs, hwarnings]
      rcases readOwn_spec c.own with ⟨haccept, read, hread, hcharacters, hcolors⟩ |
        ⟨w, hblames, hread, hcharacters, -⟩
      · refine .inl ⟨haccept, by rw [hread, ← hcharacters, List.map_map]; rfl, ?_⟩
        rw [hread, (filter_aboutPairs (Own.aboutPairs_of_forall₂ hcolors)).1]
      · refine .inr ⟨w, hblames, hcharacters, ?_⟩
        rw [hread, List.filter_singleton, hblames.aboutPairs]
        rfl

/-- **Validation accepts exactly the well-formed configurations.** For any configuration:

* the pairs are those that its texts spell, one for each text and in their order, if and only if
  there is a text, each text has two characters that differ and are no quotes, and no two texts have
  a character in common; then there is no warning about pairs;
* otherwise they are the default pairs, and there is one warning about pairs, whose words blame the
  first text at fault or say that there is none; a text at fault is quoted, and no two texts are
  quoted alike;
* the colors of a shared cycle are read once for all pairs, whether these were accepted or not, and
  the other warnings come from that;
* colors of cycles of their own are read for each pair, with the warnings of one entry after
  another, if the pairs were accepted; if not, all colors are the default ones, and the warning
  about pairs is the only one. -/
theorem validate_accepts_iff (c : Config) :
    (c.validate.1.pairs.map BracketPair.characters = c.pairTexts.map String.toList ↔
      Acceptable c.pairTexts) ∧
    (Acceptable c.pairTexts → c.validate.2.filter Warning.aboutPairs = []) ∧
    (¬Acceptable c.pairTexts →
      c.validate.1.pairs.map BracketPair.characters = [['(', ')'], ['[', ']'], ['\x7b', '\x7d']] ∧
      (∃ w, c.validate.2.filter Warning.aboutPairs = [w] ∧ Blames c.pairTexts w w.message) ∧
      Function.Injective Text.quoted) ∧
    (c.scope = .consecutive → ∃ palette strayColor first second,
      PaletteRead "consecutive" c.shared.palette palette first (first.map Warning.message) ∧
      StrayColorRead c.shared.strayColor strayColor second (second.map Warning.message) ∧
      (∀ p ∈ c.validate.1.pairs, p.palette = palette ∧ p.strayColor = strayColor) ∧
      c.validate.2.filter (fun w => !w.aboutPairs) = first ++ second) ∧
    (c.scope = .independent → Acceptable c.pairTexts →
      ∃ read : List (BracketPair × List Warning), List.Forall₂ Own.ColorsRead c.own read ∧
        c.validate.1.pairs = read.map (·.1) ∧ c.validate.2 = read.flatMap (·.2)) ∧
    (c.scope = .independent → ¬Acceptable c.pairTexts →
      (∀ p ∈ c.validate.1.pairs,
        p.palette = ["Gold", "Orchid", "LightSkyBlue"] ∧ p.strayColor = "Red") ∧
      ∃ w, c.validate.2 = [w] ∧ Blames c.pairTexts w w.message) := by
  have hpairs := c.validate_pairs_spec
  refine ⟨⟨fun heq => ?_, fun haccept => ?_⟩, fun haccept => ?_, fun hreject => ?_,
    fun hscope => ?_, fun hscope haccept => ?_, fun hscope hreject => ?_⟩
  · -- the default pairs are acceptable, too
    rcases hpairs with ⟨haccept, -⟩ | ⟨w, hblames, hcharacters, -⟩
    · exact haccept
    · have htexts : c.pairTexts = defaultPairs :=
        List.map_injective_iff.2 (fun _ _ => String.toList_injective) (heq.symm.trans hcharacters)
      rw [htexts]
      exact acceptable_defaultPairs
  · rcases hpairs with ⟨-, hcharacters, -⟩ | ⟨w, hblames, -⟩
    · exact hcharacters
    · exact absurd haccept hblames.not_acceptable
  · rcases hpairs with ⟨-, -, hnone⟩ | ⟨w, hblames, -⟩
    · exact hnone
    · exact absurd haccept hblames.not_acceptable
  · rcases hpairs with ⟨haccept, -⟩ | ⟨w, hblames, hcharacters, hone⟩
    · exact absurd haccept hreject
    · exact ⟨hcharacters, ⟨w, hone, hblames⟩, Text.quoted_injective⟩
  · obtain ⟨-, hpairs, hwarnings⟩ := validate_of_consecutive hscope
    obtain ⟨palette, strayColor, first, second, hfirst, hsecond, hall, hcase⟩ := c.shared.read_spec
    have hcolors := List.forall_mem_append.2 ⟨hfirst.aboutPairs, hsecond.aboutPairs⟩
    refine ⟨palette, strayColor, first, second, hfirst, hsecond, hpairs ▸ hall, ?_⟩
    rw [hwarnings]
    rcases hcase with ⟨-, -, hread⟩ | ⟨w, hblames, -, hread⟩
    · rw [hread, (filter_aboutPairs hcolors).2]
    · rw [hread, List.filter_append, (filter_aboutPairs hcolors).2, List.filter_singleton,
        hblames.aboutPairs]
      simp
  · obtain ⟨htexts, hpairs, hwarnings⟩ := validate_of_independent hscope
    rw [htexts] at haccept
    rcases readOwn_spec c.own with ⟨-, read, hread, -, hcolors⟩ | ⟨w, hblames, -⟩
    · exact ⟨read, hcolors, by rw [hpairs, hread], by rw [hwarnings, hread]⟩
    · exact absurd haccept hblames.not_acceptable
  · obtain ⟨htexts, hpairs, hwarnings⟩ := validate_of_independent hscope
    rw [htexts] at hreject ⊢
    rcases readOwn_spec c.own with ⟨haccept, -⟩ | ⟨w, hblames, hread, -, hdefault⟩
    · exact absurd haccept hreject
    · exact ⟨hpairs ▸ hdefault, w, hwarnings.trans hread, hblames⟩

/-- A second pair that has a character of the first, before one that is at fault itself, with colors
that are blank in part; and two pairs beyond ASCII with cycles of their own, each of which lacks one
kind of color. -/
theorem validate_accepts_iff_overlapping :
    let c : Config := { shared := ⟨["()", "<(", "[["], [" ", "Blue"], "\u3000"⟩ }
    let c' : Config := {
      scope := .independent, own := [⟨"«»", ["", "\t"], "Red"⟩, ⟨"“”", ["Blue"], ""⟩] }
    (¬Acceptable c.pairTexts ∧
      c.validate.1.pairs.map BracketPair.characters = [['(', ')'], ['[', ']'], ['\x7b', '\x7d']] ∧
      (∃ w, c.validate.2.filter Warning.aboutPairs = [w] ∧ Blames c.pairTexts w w.message) ∧
      Function.Injective Text.quoted) ∧
    (Acceptable c'.pairTexts ∧
      c'.validate.1.pairs.map BracketPair.characters = c'.pairTexts.map String.toList ∧
      ∃ read : List (BracketPair × List Warning), List.Forall₂ Own.ColorsRead c'.own read ∧
        c'.validate.1.pairs = read.map (·.1) ∧ c'.validate.2 = read.flatMap (·.2)) := by
  intro c c'
  have hreject : ¬Acceptable c.pairTexts := fun h =>
    (List.pairwise_cons.1 h.disjoint).1 "<(" (by simp)
      (show '(' ∈ "()".toList by decide) (by decide)
  have haccept : Acceptable c'.pairTexts :=
    ⟨⟨by decide, by decide, by simp [c', pairTexts],
      by simp [c', pairTexts, List.disjoint_left]⟩, by decide⟩
  have hc := validate_accepts_iff c
  have hc' := validate_accepts_iff c'
  exact ⟨⟨hreject, hc.2.2.1 hreject⟩, haccept, hc'.1.2 haccept, hc'.2.2.2.2.1 rfl haccept⟩

/-- The words of the warnings about the first of these. -/
example : (validate { shared := ⟨["()", "<(", "[["], [" ", "Blue"], "\u3000"⟩ }).2.map
      Warning.message =
    ["Empty orphan color, using default",
      "Invalid bracket pair \"<(\" (characters overlap another pair), using default pairs"] := by
  decide +kernel

end Config

end BracketTint
