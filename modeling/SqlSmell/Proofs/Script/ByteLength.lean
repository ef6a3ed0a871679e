import SqlSmell.Proofs.Outcome
import SqlSmell.Proofs.Script.LetterCase
import SqlSmell.Proofs.Script.Segments
import SqlSmell.Proofs.Text.Case
import SqlSmell.Script.Statements

/- Lengths in bytes. The limit on statements is checked before they are normalised, and a normal form can
   be longer: blanks and quoted text never take more room than before, but the small forms of three
   characters do (`swells_iff`), one byte each. The normal form is thus longer than the text
   by their number at most (`bytes_normalChars_le`), and a loaded text keeps the limit unless one of
   them stands outside quotes (`load_byteLength`); then it may exceed the limit by half
   (`load_exceeds_limit`). -/
namespace SqlSmell

namespace Text

/-- The length of a text in bytes. -/
def bytes : List Char → Nat
  | [] => 0
  | c :: s => c.utf8Size + bytes s

/-- The characters whose small form is longer than they are: I with a dot above, and A and T with a
    stroke. -/
def swelling : List Char := [Char.ofNat 0x130, Char.ofNat 0x23A, Char.ofNat 0x23E]

theorem bytes_cons (c : Char) (s : List Char) : bytes (c :: s) = c.utf8Size + bytes s := rfl

theorem bytes_append (s t : List Char) : bytes (s ++ t) = bytes s + bytes t := by
  induction s with
  | nil => rw [List.nil_append, bytes, Nat.zero_add]
  | cons c s ih => rw [List.cons_append, bytes_cons, bytes_cons, ih, Nat.add_assoc]

theorem bytes_reverse (s : List Char) : bytes s.reverse = bytes s := by
  induction s with
  | nil => rfl
  | cons c s ih =>
    rw [List.reverse_cons, bytes_append, ih, bytes_cons, bytes_cons, bytes]
    omega

theorem utf8ByteSize_ofList (s : List Char) : (String.ofList s).utf8ByteSize = bytes s := by
  induction s with
  | nil => rfl
  | cons c s ih =>
    rw [String.ofList_cons, String.utf8ByteSize_append, String.utf8ByteSize_singleton, ih, bytes_cons]

/-! ## Small forms -/

/-- Does the small form of no capital of the run take more bytes, the characters that swell apart? -/
def CaseRun.fits (run : CaseRun) : Bool :=
  ((List.range (run.last - run.first + 1)).filter (· % run.step == 0)).all fun k =>
    swelling.contains (Char.ofNat (run.first + k)) ||
      decide ((Char.ofNat (run.image + k)).utf8Size ≤ (Char.ofNat (run.first + k)).utf8Size)

theorem caseRuns_fit : caseRuns.toList.all CaseRun.fits = true := by
  decide +kernel

theorem ascii_fits : ∀ n < 128, (Char.ofNat n).toLower.utf8Size ≤ (Char.ofNat n).utf8Size := by
  decide

theorem swelling_grow : swelling.all (fun c => c.utf8Size == 2 && bytes (lowerChar c) == 3) = true := by
  decide +kernel

theorem lowerByTable_fits {c : Char} (h : c ∉ swelling) : (lowerByTable c).utf8Size ≤ c.utf8Size := by
  rcases lowerByTable_run c with hkept | ⟨run, hrun, k, hk, hstep, hc, himage⟩
  · rw [hkept]
  · have hfits := List.all_eq_true.mp caseRuns_fit run hrun
    have hentry := List.all_eq_true.mp hfits k (by simp [hk, hstep])
    rw [← hc, Char.ofNat_toNat, ← himage] at hentry
    simpa [h] using hentry

theorem bytes_lowerChar_le {c : Char} (h : c ∉ swelling) : bytes (lowerChar c) ≤ c.utf8Size := by
  unfold lowerChar
  split
  · next hascii =>
    have hfits := ascii_fits c.toNat hascii
    rw [Char.ofNat_toNat] at hfits
    simpa [bytes] using hfits
  · split
    · next hdotted =>
      rw [eq_of_beq hdotted] at h
      exact absurd List.mem_cons_self h
    · simpa [bytes] using lowerByTable_fits h

theorem bytes_of_swelling {c : Char} (h : c ∈ swelling) : c.utf8Size = 2 ∧ bytes (lowerChar c) = 3 := by
  simpa using List.all_eq_true.mp swelling_grow c h

/-- Three characters have a small form that takes more bytes. -/
theorem swells_iff (c : Char) : c.utf8Size < bytes (lowerChar c) ↔ c ∈ swelling := by
  constructor
  · intro hlt
    by_contra hnot
    have hle := bytes_lowerChar_le hnot
    omega
  · intro h
    obtain ⟨hsize, hbytes⟩ := bytes_of_swelling h
    omega

/-- The number of characters that swell. -/
def swell (s : List Char) : Nat := s.countP swelling.contains

theorem bytes_lowerChar (c : Char) : bytes (lowerChar c) ≤ c.utf8Size + swell [c] := by
  by_cases h : c ∈ swelling
  · obtain ⟨hsize, hbytes⟩ := bytes_of_swelling h
    simp [swell, h]
    omega
  · have hle := bytes_lowerChar_le h
    omega

theorem swell_cons (c : Char) (s : List Char) : swell (c :: s) = swell [c] + swell s := by
  unfold swell
  rw [List.countP_cons, List.countP_cons, List.countP_nil]
  omega

/-- A character that swells takes two bytes. -/
theorem two_mul_swell_le (s : List Char) : 2 * swell s ≤ bytes s := by
  induction s with
  | nil => exact Nat.le_refl 0
  | cons c s ih =>
    rw [swell_cons, bytes_cons]
    by_cases h : c ∈ swelling
    · have hsize := (bytes_of_swelling h).1
      have hone : swell [c] = 1 := by simp [swell, h]
      omega
    · have hnone : swell [c] = 0 := by simp [swell, h]
      omega

end Text

namespace Script

open SqlSmell.Normal (Pass)
open Text (Span bytes bytes_cons bytes_append swell swell_cons swelling)

/-! ## The normalising pass -/

/-- The characters outside quoted segments. -/
def outside (s : List Char) : List Char :=
  (parts s).filterMap fun
    | .plain c => some c
    | _ => none

theorem outside_plain {c : Char} (h : isQuote c = false) (s : List Char) :
    outside (c :: s) = c :: outside s := by
  rw [outside, parts_plain h]
  rfl

theorem outside_quoted {c : Char} (h : isQuote c = true) (s : List Char) :
    outside (c :: s) = outside (Span.upTo [c] s).rest := by
  rw [outside, parts, if_pos h]
  rfl

/-- The text behind the segment that the pass is in. -/
def behindQuote : Option Char → List Char → List Char
  | none, s => s
  | some mark, s => (Span.upTo [mark] s).rest

/-- A character adds its own bytes and what it swells by. The space that is due was paid for by a
    blank. -/
theorem bytes_read_le (p : Pass) (c : Char) :
    bytes (spaced (p.read c)) ≤
      bytes (spaced p) + c.utf8Size + (if p.quote = none then swell [c] else 0) := by
  obtain ⟨quote, gap, out⟩ := p
  cases quote with
  | some mark => cases gap <;> simp [Pass.read, spaced, bytes_cons] <;> omega
  | none =>
    have hsize := c.utf8Size_pos
    by_cases hblank : Text.isBlank c = true
    · have hspace : bytes [' '] = 1 := rfl
      have hread : bytes (spaced (Pass.read ⟨none, gap, out⟩ c)) ≤ bytes [' '] + bytes out := by
        simp only [Pass.read, hblank, if_true, spaced]
        split
        · exact Nat.le_refl _
        · omega
      have hout : bytes out ≤ bytes (spaced ⟨none, gap, out⟩) := by
        cases gap <;> simp [spaced, bytes_cons]
      omega
    · cases hquote : isQuote c with
      | true =>
        rw [read_mark rfl hquote]
        simp [spaced, bytes_cons]
        omega
      | false =>
        have hread : spaced (Pass.read ⟨none, gap, out⟩ c) =
            (Text.lowerChar c).reverse ++ spaced ⟨none, gap, out⟩ := by
          simp [Pass.read, hblank, hquote, spaced]
        have hlower := Text.bytes_lowerChar c
        rw [hread, bytes_append, Text.bytes_reverse]
        simp
        omega

theorem behindQuote_cons (quote : Option Char) (c : Char) (s : List Char) :
    (if quote = none then swell [c] else 0) + swell (outside (behindQuote (markAfter quote c) s)) =
      swell (outside (behindQuote quote (c :: s))) := by
  cases quote with
  | none =>
    cases hc : isQuote c with
    | true =>
      have hnone : swell [c] = 0 := by
        simp only [isQuote, Bool.or_eq_true, beq_iff_eq] at hc
        rcases hc with (rfl | rfl) | rfl <;> decide
      simp [markAfter, hc, behindQuote, outside_quoted hc, hnone]
    | false =>
      simp [markAfter, hc, behindQuote, outside_plain hc, ← swell_cons]
  | some mark =>
    by_cases hc : c = mark
    · subst hc
      simp [markAfter, behindQuote, Span.upTo_mark]
    · simp [markAfter, hc, behindQuote, Span.upTo_of_ne_mark hc]

theorem bytes_foldl_read_le (s : List Char) (p : Pass) :
    bytes (spaced (s.foldl Pass.read p)) ≤
      bytes (spaced p) + bytes s + swell (outside (behindQuote p.quote s)) := by
  induction s generalizing p with
  | nil =>
    rw [List.foldl_nil]
    omega
  | cons c s ih =>
    have hread := bytes_read_le p c
    have hrest := ih (p.read c)
    have hcount := behindQuote_cons p.quote c s
    rw [pass_read_quote] at hrest
    rw [List.foldl_cons, bytes_cons]
    omega

theorem bytes_normalChars_le (s : List Char) :
    bytes (normalChars s) ≤ bytes s + swell (outside s) := by
  have hpass : bytes (spaced (s.foldl Pass.read .start)) ≤ 0 + bytes s + swell (outside s) :=
    bytes_foldl_read_le s .start
  have hout : ∀ p : Pass, bytes p.out ≤ bytes (spaced p) := by
    intro p
    unfold spaced
    split
    · rw [bytes_cons]
      omega
    · exact Nat.le_refl _
  have hwritten := hout (s.foldl Pass.read .start)
  rw [normalChars, Text.bytes_reverse]
  omega

theorem outside_sublist (s : List Char) : (outside s).Sublist s := by
  fun_induction parts s with
  | case1 => rw [outside, parts]; exact .slnil
  | case2 c s hc ih =>
    have hrest : (Span.upTo [c] s).rest <:+ s := ⟨_, Span.upTo_text [c] s⟩
    rw [outside_quoted hc]
    exact (ih.trans hrest.sublist).cons c
  | case3 c s hc ih =>
    rw [outside_plain (by simpa using hc)]
    exact ih.cons_cons c

theorem two_mul_swell_outside_le (s : List Char) : 2 * swell (outside s) ≤ bytes s := by
  have hcount : swell (outside s) ≤ swell s := (outside_sublist s).countP_le
  have hbytes := Text.two_mul_swell_le s
  omega

/-! ## Loading -/

theorem loadOne_byteLength {limit : Nat} {s t : Statement} (h : loadOne limit s = .ok t) :
    t.text = normalize s.text ∧ s.byteLength ≤ limit ∧
      t.byteLength ≤ s.byteLength + swell (outside s.text.toList) := by
  unfold loadOne at h
  split at h
  · contradiction
  · next hlimit =>
    obtain rfl := Except.ok.inj h
    refine ⟨rfl, Nat.le_of_not_lt hlimit, ?_⟩
    have hle := bytes_normalChars_le s.text.toList
    rwa [← Text.utf8ByteSize_ofList, ← Text.utf8ByteSize_ofList, String.ofList_toList] at hle

theorem byteLength_half_more {limit : Nat} {s t : Statement} (h : loadOne limit s = .ok t) :
    2 * t.byteLength ≤ 3 * limit := by
  obtain ⟨-, hlimit, hlength⟩ := loadOne_byteLength h
  have hswell : 2 * swell (outside s.text.toList) ≤ s.byteLength := by
    have hle := two_mul_swell_outside_le s.text.toList
    rwa [← Text.utf8ByteSize_ofList, String.ofList_toList] at hle
  omega

/-- **The limit and the loaded text.** If a script can be loaded, each statement keeps the limit as it
    stands in the script, and its normal form is longer by at most one byte for each character outside
    quotes whose small form takes more bytes; there are three such characters. So a loaded text is at most
    half as long again as the limit, and keeps the limit if none of the three stands outside quotes. -/
theorem load_byteLength {source script : String} {delimiter : Char} {limit : Nat}
    {loaded : List Statement} (h : load source delimiter limit script = .ok loaded) :
    List.Forall₂ (fun s t => t.text = normalize s.text ∧ s.byteLength ≤ limit ∧
        t.byteLength ≤ s.byteLength + (outside s.text.toList).countP swelling.contains ∧
        ((∀ c ∈ outside s.text.toList, c ∉ swelling) → t.byteLength ≤ limit))
      (statements source delimiter script) loaded ∧
    (∀ t ∈ loaded, 2 * t.byteLength ≤ 3 * limit) ∧
    ∀ c : Char, c.utf8Size < (String.ofList (Text.lowerChar c)).utf8ByteSize ↔ c ∈ swelling := by
  have hpairs := forall₂_of_mapM_ok h
  refine ⟨hpairs.imp ?_, ?_, ?_⟩
  · intro s t hst
    obtain ⟨htext, hlimit, hlength⟩ := loadOne_byteLength hst
    refine ⟨htext, hlimit, hlength, ?_⟩
    intro hnone
    have hzero : swell (outside s.text.toList) = 0 := by
      rw [Text.swell, List.countP_eq_zero]
      intro c hc
      simpa using hnone c hc
    omega
  · intro t ht
    obtain ⟨s, -, hst⟩ := exists_source_of_mapM_ok h ht
    exact byteLength_half_more hst
  · intro c
    rw [Text.utf8ByteSize_ofList]
    exact Text.swells_iff c

/-- Quoted text does not swell, and what blanks save can make up for what does. -/
theorem load_byteLength_quoted :
    load "a.sql" ';' 16 "\u023A  \x27\u0130\u0130\x27\n, T2" =
      .ok [⟨"a.sql", 1, "\u2C65 \x27\u0130\u0130\x27 , t2"⟩] ∧
    2 * (⟨"a.sql", 1, "\u2C65 \x27\u0130\u0130\x27 , t2"⟩ : Statement).byteLength ≤ 3 * 16 := by
  have hload : load "a.sql" ';' 16 "\u023A  \x27\u0130\u0130\x27\n, T2" =
      .ok [⟨"a.sql", 1, "\u2C65 \x27\u0130\u0130\x27 , t2"⟩] := by
    decide +kernel
  exact ⟨hload, (load_byteLength hload).2.1 _ (List.mem_singleton_self _)⟩

/-- A statement that keeps the limit is loaded as a text that does not. -/
theorem load_exceeds_limit :
    ∃ loaded, load "t.sql" ';' 2 "\u0130" = .ok loaded ∧ ∃ t ∈ loaded, 2 < t.byteLength := by
  refine ⟨[⟨"t.sql", 1, "i\u0307"⟩], by decide +kernel, _, List.mem_singleton_self _, by decide⟩

end Script

end SqlSmell
