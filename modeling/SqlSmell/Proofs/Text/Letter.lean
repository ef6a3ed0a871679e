import Mathlib.Data.List.Forall2
import SqlSmell.Statement

/- ASCII letters. Two characters with one small form are equal, or both are letters
   (`isAlpha_of_toLower_eq`), and a letter is one byte long, neither blank nor a quotation mark nor part of
   a comment's mark (`plain_of_isAlpha`). Titles are compared character by character, where an ASCII capital
   stands for its letter (`sameTitle_iff`); that is to compare their forms in small letters
   (`eqUpToCase_iff`), whatever other letters they hold. -/
namespace SqlSmell.Text

section
variable {c d : Char}

theorem toNat_lt_of_isAlpha (h : c.isAlpha = true) : c.toNat < 128 := by
  have hranges : (decide ('A'.val ≤ c.val ∧ c.val ≤ 'Z'.val) ||
      (decide ('a'.val ≤ c.val) && decide (c.val ≤ 'z'.val))) = true := h
  simp only [Bool.or_eq_true, Bool.and_eq_true, decide_eq_true_eq, UInt32.le_iff_toNat_le] at hranges
  have hz : 'z'.val.toNat = 122 := rfl
  have hZ : 'Z'.val.toNat = 90 := rfl
  have hc : c.toNat = c.val.toNat := rfl
  omega

theorem toLower_of_not_isAlpha (h : c.isAlpha = false) : c.toLower = c := by
  have hupper : decide ('A'.val ≤ c.val ∧ c.val ≤ 'Z'.val) = false := (Bool.or_eq_false_iff.mp h).1
  exact dif_neg (of_decide_eq_false hupper)

theorem letters_small : ∀ n < 128, (Char.ofNat n).isAlpha = true →
    (Char.ofNat n).toLower.isAlpha = true := by
  decide

theorem isAlpha_toLower (h : c.isAlpha = true) : c.toLower.isAlpha = true := by
  have hletter := letters_small c.toNat (toNat_lt_of_isAlpha h)
  rw [Char.ofNat_toNat] at hletter
  exact hletter h

/-- Only letters share a small form. -/
theorem isAlpha_of_toLower_eq (h : c.toLower = d.toLower) (hne : c ≠ d) : c.isAlpha = true := by
  cases hc : c.isAlpha with
  | true => rfl
  | false =>
    have hsmall := toLower_of_not_isAlpha hc
    cases hd : d.isAlpha with
    | true =>
      have hletter := isAlpha_toLower hd
      rw [← h, hsmall, hc] at hletter
      exact hletter
    | false =>
      rw [hsmall, toLower_of_not_isAlpha hd] at h
      exact absurd h hne

theorem letters_plain : ∀ n < 128, (Char.ofNat n).isAlpha = true →
    isBlank (Char.ofNat n) = false ∧ isQuote (Char.ofNat n) = false ∧ (Char.ofNat n).utf8Size = 1 ∧
      "-/*\n".toList.contains (Char.ofNat n) = false := by
  decide

/-- What a letter is not. -/
theorem plain_of_isAlpha (h : c.isAlpha = true) :
    isBlank c = false ∧ isQuote c = false ∧ c.utf8Size = 1 ∧ "-/*\n".toList.contains c = false := by
  have hletter := letters_plain c.toNat (toNat_lt_of_isAlpha h)
  rw [Char.ofNat_toNat] at hletter
  exact hletter h

theorem isBlank_toLower (c : Char) : isBlank c.toLower = isBlank c := by
  cases hc : c.isAlpha with
  | false => rw [toLower_of_not_isAlpha hc]
  | true => rw [(plain_of_isAlpha hc).1, (plain_of_isAlpha (isAlpha_toLower hc)).1]

theorem lowerChar_of_isAlpha (h : c.isAlpha = true) : lowerChar c = [c.toLower] :=
  if_pos (toNat_lt_of_isAlpha h)

end

/-! ## Titles -/

/-- The first character is an ASCII capital and the second its small letter. -/
def IsCapitalOf (c d : Char) : Prop := 65 ≤ c.toNat ∧ c.toNat ≤ 90 ∧ d.toNat = c.toNat + 32

/-- The texts are equal up to the case of ASCII letters. -/
def EqUpToCase (s t : String) : Prop :=
  List.Forall₂ (fun c d => c = d ∨ IsCapitalOf c d ∨ IsCapitalOf d c) s.toList t.toList

section
variable {c d : Char}

theorem capitals_toLower : ∀ n < 91, 65 ≤ n → (Char.ofNat n).toLower.toNat = n + 32 := by
  decide

theorem toLower_of_capital (h : 65 ≤ c.toNat) (h' : c.toNat ≤ 90) : c.toLower.toNat = c.toNat + 32 := by
  have hsmall := capitals_toLower c.toNat (by omega) h
  rwa [Char.ofNat_toNat] at hsmall

theorem toLower_of_not_capital (h : ¬ (65 ≤ c.toNat ∧ c.toNat ≤ 90)) : c.toLower = c := by
  have hrange : ¬ ('A'.val ≤ c.val ∧ c.val ≤ 'Z'.val) := by
    rw [UInt32.le_iff_toNat_le, UInt32.le_iff_toNat_le]
    exact h
  exact dif_neg hrange

theorem toLower_eq_toLower_iff :
    c.toLower = d.toLower ↔ c = d ∨ IsCapitalOf c d ∨ IsCapitalOf d c := by
  unfold IsCapitalOf
  rw [← Char.toNat_inj, ← Char.toNat_inj (c := c)]
  by_cases hc : 65 ≤ c.toNat ∧ c.toNat ≤ 90
  · rw [toLower_of_capital hc.1 hc.2]
    by_cases hd : 65 ≤ d.toNat ∧ d.toNat ≤ 90
    · rw [toLower_of_capital hd.1 hd.2]
      omega
    · rw [toLower_of_not_capital hd]
      omega
  · rw [toLower_of_not_capital hc]
    by_cases hd : 65 ≤ d.toNat ∧ d.toNat ≤ 90
    · rw [toLower_of_capital hd.1 hd.2]
      omega
    · rw [toLower_of_not_capital hd]
      omega

theorem toLower_toLower (c : Char) : c.toLower.toLower = c.toLower := by
  by_cases hc : 65 ≤ c.toNat ∧ c.toNat ≤ 90
  · apply toLower_of_not_capital
    rw [toLower_of_capital hc.1 hc.2]
    omega
  · rw [toLower_of_not_capital hc]
    exact toLower_of_not_capital hc

end

section
variable {s t : String}

theorem sameTitle_iff : sameTitle s t = true ↔ EqUpToCase s t := by
  unfold sameTitle EqUpToCase
  generalize s.toList = cs
  generalize t.toList = ds
  induction cs generalizing ds with
  | nil => cases ds <;> simp [List.isEqv]
  | cons c cs ih =>
    cases ds with
    | nil => simp [List.isEqv]
    | cons d ds => simp [List.isEqv, ih, toLower_eq_toLower_iff]

theorem eqUpToCase_iff : EqUpToCase s t ↔ asciiLower s = asciiLower t := by
  unfold asciiLower EqUpToCase
  rw [String.ofList_inj, ← List.forall₂_eq_eq_eq, List.forall₂_map_left_iff,
    List.forall₂_map_right_iff]
  simp only [toLower_eq_toLower_iff]

/-- Titles are the same if their forms in small letters are. -/
theorem sameTitle_eq_true_iff : sameTitle s t = true ↔ asciiLower s = asciiLower t :=
  sameTitle_iff.trans eqUpToCase_iff

theorem EqUpToCase.refl (s : String) : EqUpToCase s s := eqUpToCase_iff.mpr rfl

theorem asciiLower_asciiLower (t : String) : asciiLower (asciiLower t) = asciiLower t := by
  unfold asciiLower
  rw [String.toList_ofList, List.map_map]
  congr 2
  exact funext toLower_toLower

end

end SqlSmell.Text
