import Mathlib.Data.List.Lex
import Mathlib.Data.String.Basic

/- The order of texts and of their bytes. Texts are compared character by character, their UTF-8 forms byte by
   byte, and it is the same order (`utf8_le_iff`): of two characters the lesser one has the lesser bytes, in
   a way that nothing behind them can change (`before_codeBytes`), since the first byte tells how many there
   are and grows with their number. -/
namespace SqlSmell.Text

/-- The bytes of a text. -/
def utf8 (s : String) : List Nat := s.toUTF8.data.toList.map UInt8.toNat

/-- The bytes of the character with the given code point. -/
def codeBytes (n : Nat) : List Nat :=
  if n ≤ 127 then [n]
  else if n ≤ 2047 then [n / 64 % 32 + 192, n % 64 + 128]
  else if n ≤ 65535 then [n / 4096 % 16 + 224, n / 64 % 64 + 128, n % 64 + 128]
  else [n / 262144 % 8 + 240, n / 4096 % 64 + 128, n / 64 % 64 + 128, n % 64 + 128]

theorem utf8EncodeChar_toNat (c : Char) :
    (String.utf8EncodeChar c).map UInt8.toNat = codeBytes c.toNat := by
  have hbyte : ∀ n < 256, (UInt8.ofNat n).toNat = n := fun n hn => UInt8.toNat_ofNat_of_lt' hn
  show (if c.toNat ≤ 127 then [UInt8.ofNat c.toNat]
    else if c.toNat ≤ 2047 then [UInt8.ofNat (c.toNat / 64 % 32 + 192), UInt8.ofNat (c.toNat % 64 + 128)]
    else if c.toNat ≤ 65535 then
      [UInt8.ofNat (c.toNat / 4096 % 16 + 224), UInt8.ofNat (c.toNat / 64 % 64 + 128),
        UInt8.ofNat (c.toNat % 64 + 128)]
    else
      [UInt8.ofNat (c.toNat / 262144 % 8 + 240), UInt8.ofNat (c.toNat / 4096 % 64 + 128),
        UInt8.ofNat (c.toNat / 64 % 64 + 128), UInt8.ofNat (c.toNat % 64 + 128)]).map UInt8.toNat = _
  unfold codeBytes
  split
  · simp only [List.map_cons, List.map_nil]
    rw [hbyte _ (by omega)]
  · split
    · simp only [List.map_cons, List.map_nil]
      rw [hbyte _ (by omega), hbyte _ (by omega)]
    · split
      · simp only [List.map_cons, List.map_nil]
        rw [hbyte _ (by omega), hbyte _ (by omega), hbyte _ (by omega)]
      · simp only [List.map_cons, List.map_nil]
        rw [hbyte _ (by omega), hbyte _ (by omega), hbyte _ (by omega), hbyte _ (by omega)]

theorem utf8_eq (s : String) : utf8 s = s.toList.flatMap fun c => codeBytes c.toNat := by
  have hbytes : s.toUTF8.data.toList = s.toList.flatMap String.utf8EncodeChar := by
    have hencode : s.toByteArray = s.toList.utf8Encode := by
      rw [← String.toByteArray_ofList, String.ofList_toList]
    rw [String.toUTF8_eq_toByteArray, hencode]
    exact congrArg Array.toList List.data_toByteArray
  rw [utf8, hbytes, List.map_flatMap]
  exact List.flatMap_congr fun c _ => utf8EncodeChar_toNat c

/-! ## Bytes of one character -/

/-- The bytes come first in the order, whatever stands behind them. -/
def Before (u v : List Nat) : Prop := ∀ a b : List Nat, u ++ a < v ++ b

theorem before_of_lt {x y : Nat} (h : x < y) (u v : List Nat) : Before (x :: u) (y :: v) :=
  fun _ _ => List.cons_lt_cons_iff.mpr (.inl h)

theorem Before.cons {u v : List Nat} (h : Before u v) {x y : Nat} (hxy : x = y) :
    Before (x :: u) (y :: v) :=
  fun a b => List.cons_lt_cons_iff.mpr (.inr ⟨hxy, h a b⟩)

/-- Of two characters, the lesser one has the lesser bytes. Characters of different length differ in the first
    byte; those of one length are compared digit by digit. -/
theorem before_codeBytes {n m : Nat} (h : n < m) (hm : m < 0x110000) :
    Before (codeBytes n) (codeBytes m) := by
  unfold codeBytes
  by_cases h₁ : m ≤ 127
  · rw [if_pos (by omega), if_pos h₁]
    exact before_of_lt h _ _
  · rw [if_neg h₁]
    by_cases h₂ : m ≤ 2047
    · rw [if_pos h₂]
      split
      · exact before_of_lt (by omega) _ _
      · rw [if_pos (by omega)]
        by_cases hfirst : n / 64 < m / 64
        · exact before_of_lt (by omega) _ _
        · exact (before_of_lt (by omega) _ _).cons (by omega)
    · rw [if_neg h₂]
      by_cases h₃ : m ≤ 65535
      · rw [if_pos h₃]
        split
        · exact before_of_lt (by omega) _ _
        · split
          · exact before_of_lt (by omega) _ _
          · rw [if_pos (by omega)]
            by_cases hfirst : n / 4096 < m / 4096
            · exact before_of_lt (by omega) _ _
            · apply Before.cons _ (by omega)
              by_cases hsecond : n / 64 < m / 64
              · exact before_of_lt (by omega) _ _
              · exact (before_of_lt (by omega) _ _).cons (by omega)
      · rw [if_neg h₃]
        split
        · exact before_of_lt (by omega) _ _
        · split
          · exact before_of_lt (by omega) _ _
          · split
            · exact before_of_lt (by omega) _ _
            · by_cases hfirst : n / 262144 < m / 262144
              · exact before_of_lt (by omega) _ _
              · apply Before.cons _ (by omega)
                by_cases hsecond : n / 4096 < m / 4096
                · exact before_of_lt (by omega) _ _
                · apply Before.cons _ (by omega)
                  by_cases hthird : n / 64 < m / 64
                  · exact before_of_lt (by omega) _ _
                  · exact (before_of_lt (by omega) _ _).cons (by omega)

theorem codeBytes_ne_nil (n : Nat) : codeBytes n ≠ [] := by
  unfold codeBytes
  split
  · simp
  · split
    · simp
    · split <;> simp

/-! ## Texts -/

theorem flatMap_codeBytes_lt {s t : List Char} (h : s < t) :
    (s.flatMap fun c => codeBytes c.toNat) < t.flatMap fun c => codeBytes c.toNat := by
  induction s generalizing t with
  | nil =>
    cases t with
    | nil => exact absurd h (lt_irrefl [])
    | cons d t =>
      obtain ⟨x, xs, hbytes⟩ := List.exists_cons_of_ne_nil (codeBytes_ne_nil d.toNat)
      rw [List.flatMap_cons, hbytes]
      exact List.nil_lt_cons x _
  | cons c s ih =>
    cases t with
    | nil => exact absurd h (List.not_lt_nil _)
    | cons d t =>
      rw [List.flatMap_cons, List.flatMap_cons]
      rcases List.cons_lt_cons_iff.mp h with hcd | ⟨rfl, hst⟩
      · have hvalid : d.toNat < 0xd800 ∨ 0xdfff < d.toNat ∧ d.toNat < 0x110000 := d.valid
        have hcode : c.toNat < d.toNat := hcd
        exact before_codeBytes hcode (by omega) _ _
      · exact List.append_left_lt (ih hst)

theorem utf8_strictMono : StrictMono utf8 := by
  intro s t h
  rw [utf8_eq, utf8_eq]
  exact flatMap_codeBytes_lt (String.lt_iff_toList_lt.mp h)

/-- The order of texts is that of their bytes. -/
theorem utf8_le_iff {s t : String} : utf8 s ≤ utf8 t ↔ s ≤ t := utf8_strictMono.le_iff_le

end SqlSmell.Text
