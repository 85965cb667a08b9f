import BracketTint.Text.Quoted
import Mathlib.Data.List.TakeWhile

/-!
# Quoted Text Names Its Text

A message names a text by quoting it. Most characters stand for themselves between the quotes, six
have a short form of a backslash and a mark, and hidden ones are given by their code point. No two
texts look the same that way: the quoted form of a character says where it ends, so what stands
between the quotes is read back one character after another.

## Main results

* `Text.quoteChar_append_inj` — **the step.** The quoted form of a character in front of anything
  determines the character and what comes behind it;
* `Text.quoted_injective` — a quoted text determines the text.
-/

namespace BracketTint.Text

/-! ### Code points in hexadecimal -/

/-- What holds of the sixteen digits holds of each digit of a number. -/
theorem forall_mem_toDigits {p : Char → Prop} (hdigit : ∀ d < 16, p d.digitChar) (n : Nat) :
    ∀ c ∈ Nat.toDigits 16 n, p c := by
  induction n using Nat.strong_induction_on with
  | _ n ih =>
      rcases Nat.lt_or_ge n 16 with hlt | hge
      · rw [Nat.toDigits_of_lt_base hlt]
        exact List.forall_mem_singleton.2 (hdigit n hlt)
      · rw [Nat.toDigits_of_base_le (by decide) hge]
        exact List.forall_mem_append.2 ⟨ih _ (by omega),
          List.forall_mem_singleton.2 (hdigit _ (Nat.mod_lt _ (by decide)))⟩

theorem digitChar_inj {d d' : Nat} (hd : d < 16) (hd' : d' < 16)
    (h : d.digitChar = d'.digitChar) : d = d' := by
  have hall : ∀ d < 16, ∀ d' < 16, d.digitChar = d'.digitChar → d = d' := by decide
  exact hall d hd d' hd' h

/-- The last digit and the others determine a number. -/
theorem toDigits_injective : Function.Injective (Nat.toDigits 16) := by
  intro n
  induction n using Nat.strong_induction_on with
  | _ n ih =>
      intro m h
      have hlast {k : Nat} (hk : 16 ≤ k) :
          Nat.toDigits 16 k = Nat.toDigits 16 (k / 16) ++ [(k % 16).digitChar] :=
        Nat.toDigits_of_base_le (by decide) hk
      -- a number of one digit has no others
      have hone {d k : Nat} (hd : d < 16) (hk : 16 ≤ k) :
          Nat.toDigits 16 d ≠ Nat.toDigits 16 k := by
        rw [Nat.toDigits_of_lt_base hd, hlast hk, ← List.nil_append [d.digitChar]]
        intro heq
        exact Nat.toDigits_ne_nil (List.append_singleton_inj.1 heq).1.symm
      rcases Nat.lt_or_ge n 16 with hn | hn <;> rcases Nat.lt_or_ge m 16 with hm | hm
      · rw [Nat.toDigits_of_lt_base hn, Nat.toDigits_of_lt_base hm] at h
        exact digitChar_inj hn hm (List.singleton_inj.1 h)
      · exact absurd h (hone hn hm)
      · exact absurd h.symm (hone hm hn)
      · rw [hlast hn, hlast hm] at h
        obtain ⟨hrest, hdigit⟩ := List.append_singleton_inj.1 h
        have hquotient := ih (n / 16) (by omega) hrest
        have hremainder :=
          digitChar_inj (Nat.mod_lt n (by decide)) (Nat.mod_lt m (by decide)) hdigit
        omega

/-- The braces around a code point say where it ends. -/
theorem codePoint_append_inj {c d : Char} {rest rest' : List Char}
    (h : codePoint c ++ rest = codePoint d ++ rest') : c = d ∧ rest = rest' := by
  have hdigits (c : Char) : ∀ x ∈ Nat.toDigits 16 c.toNat, decide (x ≠ '\x7d') = true :=
    forall_mem_toDigits (by decide) c.toNat
  simp only [codePoint, List.append_assoc, List.append_cancel_left_eq] at h
  have hcode := congrArg (List.takeWhile fun x => decide (x ≠ '\x7d')) h
  rw [List.takeWhile_append_of_pos (hdigits c), List.takeWhile_append_of_pos (hdigits d)] at hcode
  obtain rfl : c = d := by
    refine Char.toNat_inj.1 (toDigits_injective ?_)
    simpa using hcode
  exact ⟨rfl, by simpa using h⟩

/-! ### Characters and texts -/

/-- The characters with a short form, and the marks for them. -/
def shortForms : List (Char × Char) :=
  [('\x00', '0'), ('\t', 't'), ('\r', 'r'), ('\n', 'n'), ('\\', '\\'), ('"', '"')]

/-- How a character looks inside quotes. -/
theorem quoteChar_cases (c : Char) :
    (∃ mark, (c, mark) ∈ shortForms ∧ quoteChar c = ['\\', mark]) ∨
      quoteChar c = codePoint c ∨ quoteChar c = [c] ∧ c ≠ '\\' := by
  unfold quoteChar
  split
  · exact .inl ⟨'0', by decide, rfl⟩
  · exact .inl ⟨'t', by decide, rfl⟩
  · exact .inl ⟨'r', by decide, rfl⟩
  · exact .inl ⟨'n', by decide, rfl⟩
  · exact .inl ⟨'\\', by decide, rfl⟩
  · exact .inl ⟨'"', by decide, rfl⟩
  next hne _ =>
    split
    · exact .inr (.inl rfl)
    · exact .inr (.inr ⟨rfl, hne⟩)

/-- **The step.** The quoted form of a character in front of anything determines the character and
what comes behind it. -/
theorem quoteChar_append_inj {c d : Char} {rest rest' : List Char}
    (h : quoteChar c ++ rest = quoteChar d ++ rest') : c = d ∧ rest = rest' := by
  have hmarks : ∀ p ∈ shortForms, p.2 ≠ 'u' ∧ ∀ q ∈ shortForms, p.2 = q.2 → p.1 = q.1 := by decide
  have hcode (c : Char) (rest : List Char) : ∃ more, codePoint c ++ rest = '\\' :: 'u' :: more :=
    ⟨_, rfl⟩
  rcases quoteChar_cases c with ⟨mark, hmark, hc⟩ | hc | ⟨hc, hplain⟩ <;>
    rcases quoteChar_cases d with ⟨mark', hmark', hd⟩ | hd | ⟨hd, hplain'⟩ <;>
    rw [hc, hd] at h
  case inl.inl =>
    obtain ⟨-, hrest⟩ := List.cons.inj h
    obtain ⟨hsame, hrest⟩ := List.cons.inj hrest
    exact ⟨(hmarks _ hmark).2 _ hmark' hsame, hrest⟩
  case inl.inr.inl =>
    obtain ⟨more, hmore⟩ := hcode d rest'
    rw [hmore] at h
    exact absurd (List.cons.inj (List.cons.inj h).2).1 (hmarks _ hmark).1
  case inl.inr.inr => exact absurd (List.cons.inj h).1.symm hplain'
  case inr.inl.inl =>
    obtain ⟨more, hmore⟩ := hcode c rest
    rw [hmore] at h
    exact absurd (List.cons.inj (List.cons.inj h).2).1.symm (hmarks _ hmark').1
  case inr.inl.inr.inl => exact codePoint_append_inj h
  case inr.inl.inr.inr => exact absurd (List.cons.inj h).1.symm hplain'
  case inr.inr.inl => exact absurd (List.cons.inj h).1 hplain
  case inr.inr.inr.inl => exact absurd (List.cons.inj h).1 hplain
  case inr.inr.inr.inr => exact List.cons.inj h

/-- **The run.** What stands between the quotes determines the text. -/
theorem flatMap_quoteChar_injective :
    Function.Injective fun text : List Char => text.flatMap quoteChar := by
  have hne (c : Char) (rest : List Char) : quoteChar c ++ rest ≠ [] := by
    rcases quoteChar_cases c with ⟨mark, -, hc⟩ | hc | ⟨hc, -⟩ <;> rw [hc] <;>
      exact List.cons_ne_nil _ _
  intro text
  induction text with
  | nil =>
      intro other h
      cases other with
      | nil => rfl
      | cons d rest' => exact absurd h.symm (hne d _)
  | cons c rest ih =>
      intro other h
      cases other with
      | nil => exact absurd h (hne c _)
      | cons d rest' =>
          obtain ⟨rfl, hrest⟩ := quoteChar_append_inj h
          rw [ih hrest]

/-- **A quoted text determines the text.** -/
theorem quoted_injective : Function.Injective quoted := by
  intro s t h
  have hlists := congrArg String.toList h
  simp only [quoted, String.toList_append, String.toList_ofList, List.append_cancel_right_eq,
    List.append_cancel_left_eq] at hlists
  exact String.toList_injective (flatMap_quoteChar_injective hlists)

end BracketTint.Text
