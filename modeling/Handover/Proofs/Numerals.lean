import Handover.Text.Numeral
import Mathlib.Data.List.Induction

/-!
# Numerals of a number

A number is written in one way and read from many: zeros may stand in front of its digits, and a
plus sign in front of these. Nothing else is read as the number (`Text.readUnsigned_eq_some_iff`).
-/

namespace Handover.Text

/-- A numeral for a number: its digits, with zeros in front of them and perhaps a plus sign in
front of these. -/
def Denotes (s : String) (n : Nat) : Prop :=
  ∃ sign ∈ ["", "+"], ∃ zeros : Nat,
    s.toList = sign.toList ++ (List.replicate zeros '0' ++ Nat.toDigits 10 n)

/-! ## Digits -/

theorem isDigit_iff {c : Char} : isDigit c = true ↔ ∃ d < 10, c = d.digitChar := by
  have hrange : isDigit c = true ↔ 48 ≤ c.toNat ∧ c.toNat ≤ 57 := by
    simp [isDigit, Char.le_def, UInt32.le_iff_toNat_le]
  rw [hrange]
  constructor
  · rintro ⟨hlow, hhigh⟩
    refine ⟨c.toNat - 48, by omega, Char.toNat_inj.mp ?_⟩
    rw [Nat.toNat_digitChar_of_lt_ten (by omega)]
    omega
  · rintro ⟨d, hd, rfl⟩
    rw [Nat.toNat_digitChar_of_lt_ten hd]
    omega

theorem isDigit_of_mem_numeral {zeros n : Nat} {c : Char}
    (hc : c ∈ List.replicate zeros '0' ++ Nat.toDigits 10 n) : isDigit c = true := by
  rcases List.mem_append.mp hc with hc | hc
  · exact isDigit_iff.mpr ⟨0, by omega, List.eq_of_mem_replicate hc⟩
  · have hdigit := Nat.isDigit_of_mem_toDigits (by omega) (by omega) hc
    simpa [isDigit, Char.isDigit, Char.le_def] using hdigit

theorem isDigit_of_mem_toString {n : Nat} {c : Char} (h : c ∈ (toString n).toList) :
    isDigit c = true := by
  have hdigit : c ∈ List.replicate 0 '0' ++ Nat.toDigits 10 n := by simpa using h
  exact isDigit_of_mem_numeral hdigit

theorem digitsValue_eq (cs : List Char) : digitsValue cs = Nat.ofDigitChars 10 cs 0 :=
  Nat.ofDigitChars_eq_foldl.symm

/-- Digits are those of the number that they denote, behind zeros. -/
theorem exists_zeros_of_digits {cs : List Char} (hcs : cs ≠ [])
    (hdigits : ∀ c ∈ cs, isDigit c = true) :
    ∃ zeros, cs = List.replicate zeros '0' ++ Nat.toDigits 10 (digitsValue cs) := by
  -- from the end, since the number grows by a digit at its end
  induction cs using List.reverseRecOn with
  | nil => exact absurd rfl hcs
  | append_singleton cs c ih =>
    obtain ⟨d, hd, rfl⟩ := isDigit_iff.mp (hdigits c (by simp))
    have hvalue : digitsValue (cs ++ [d.digitChar]) = 10 * digitsValue cs + d := by
      rw [digitsValue_eq, Nat.ofDigitChars_append, ← digitsValue_eq,
        Nat.ofDigitChars_cons_digitChar_of_lt_ten hd, Nat.ofDigitChars_nil]
    have hlast : Nat.toDigits 10 d = [d.digitChar] := Nat.toDigits_of_lt_base hd
    rw [hvalue]
    rcases eq_or_ne cs [] with rfl | hne
    · exact ⟨0, by simp [digitsValue, hlast]⟩
    obtain ⟨zeros, hzeros⟩ := ih hne fun c hc => hdigits c (List.mem_append_left _ hc)
    rcases Nat.eq_zero_or_pos (digitsValue cs) with hzero | hpos
    · -- nothing but zeros so far, and the last of them was the numeral
      refine ⟨zeros + 1, ?_⟩
      rw [hzero, Nat.toDigits_zero] at hzeros
      rw [hzero, Nat.mul_zero, Nat.zero_add, hlast, hzeros, List.replicate_succ']
    · refine ⟨zeros, ?_⟩
      rw [← Nat.toDigits_append_toDigits (by omega) hpos hd, hlast, ← List.append_assoc, ← hzeros]

/-! ## Reading -/

theorem readDigits_eq_some_iff {cs : List Char} {n : Nat} :
    readDigits cs = some n ↔ ∃ zeros, cs = List.replicate zeros '0' ++ Nat.toDigits 10 n := by
  have hread : readDigits cs = some n ↔
      (cs ≠ [] ∧ ∀ c ∈ cs, isDigit c = true) ∧ digitsValue cs = n := by
    simp [readDigits]
  rw [hread]
  constructor
  · rintro ⟨⟨hne, hdigits⟩, rfl⟩
    exact exists_zeros_of_digits hne hdigits
  · rintro ⟨zeros, rfl⟩
    refine ⟨⟨by simp, fun c hc => isDigit_of_mem_numeral hc⟩, ?_⟩
    rw [digitsValue_eq, Nat.ofDigitChars_append, Nat.ofDigitChars_replicate_zero, Nat.mul_zero,
      Nat.ofDigitChars_ten_toDigits]

/-- What is read as a number is a numeral for it. -/
theorem readUnsigned_eq_some_iff {limit n : Nat} {s : String} :
    readUnsigned limit s = some n ↔ Denotes s n ∧ n ≤ limit := by
  have hsigned : Denotes s n ↔ readDigits s.toList = some n
      ∨ ∃ cs, s.toList = '+' :: cs ∧ readDigits cs = some n := by
    simp only [Denotes, readDigits_eq_some_iff]
    constructor
    · rintro ⟨sign, hsign, zeros, hs⟩
      rcases List.mem_cons.mp hsign with rfl | hsign
      · exact .inl ⟨zeros, hs⟩
      · obtain rfl := List.mem_singleton.mp hsign
        exact .inr ⟨_, hs, zeros, rfl⟩
    · rintro (⟨zeros, hs⟩ | ⟨cs, hs, zeros, rfl⟩)
      · exact ⟨"", by simp, zeros, hs⟩
      · exact ⟨"+", by simp, zeros, hs⟩
  rw [readUnsigned, Option.filter_eq_some_iff, decide_eq_true_eq, hsigned]
  refine and_congr_left fun _ => ?_
  split
  · rename_i cs hs
    -- a plus sign is no digit
    have hno : readDigits ('+' :: cs) ≠ some n := fun h => by
      obtain ⟨zeros, hzeros⟩ := readDigits_eq_some_iff.mp h
      cases isDigit_of_mem_numeral (hzeros ▸ List.mem_cons_self : '+' ∈ _)
    simp [hs, hno]
  · rename_i hs
    refine ⟨.inl, fun h => h.resolve_right ?_⟩
    rintro ⟨cs, hplus, -⟩
    exact hs cs hplus

/-- A numeral is one for one number only. -/
theorem Denotes.unique {s : String} {m n : Nat} (hm : Denotes s m) (hn : Denotes s n) : m = n := by
  have hread := readUnsigned_eq_some_iff.mpr ⟨hm, Nat.le_max_left m n⟩
  have hread' := readUnsigned_eq_some_iff.mpr ⟨hn, Nat.le_max_right m n⟩
  exact Option.some.inj (hread.symm.trans hread')

theorem denotes_toString (n : Nat) : Denotes (toString n) n :=
  ⟨"", by simp, 0, by simp⟩

end Handover.Text
