import SqlSmell.Proofs.Text.Letter
import SqlSmell.Statement

/- Small forms. What the small form of a character consists of is small itself, and holds a quotation
   mark only if the character was one, and a blank only if the character was one. Few small forms of characters
   beyond ASCII are ASCII characters: `i` and `k` are the only ones (`toNat_lt_of_mem_lowerChar`). All of
   these are properties of the table of capitals, checked run by run (`caseRuns_small`,
   `caseRuns_solid`); the binary search adds that it finds the run of a character or none. The small form of a
   text is put together from those of its characters, which depend on what stands around a capital sigma
   and can be longer than one character (`lower_eq`). Of a character beyond ASCII it always holds a trace, so that
   an ASCII text without a `k` is the small form of ASCII texts only (`lower_eq_iff`). -/
namespace SqlSmell.Text

/-- The character is its own small form. -/
def IsSmall (c : Char) : Prop := lowerChar c = [c]

instance (c : Char) : Decidable (IsSmall c) := inferInstanceAs (Decidable (lowerChar c = [c]))

/-- The small forms of a run, in the order of their capitals. -/
def CaseRun.images (run : CaseRun) : List Char :=
  ((List.range (run.last - run.first + 1)).filter (· % run.step == 0)).map fun k =>
    Char.ofNat (run.image + k)

/-- Is the character its own small form, and no quotation mark? -/
def isSmallUnquoted (c : Char) : Bool := lowerChar c == [c] && !isQuote c

theorem isSmallUnquoted_iff {c : Char} : isSmallUnquoted c = true ↔ IsSmall c ∧ isQuote c = false := by
  simp [isSmallUnquoted, IsSmall]

theorem caseRuns_small : caseRuns.toList.all (·.images.all isSmallUnquoted) = true := by
  decide +kernel

theorem findCaseRun_eq_some {runs : Array CaseRun} {n fuel lo hi : Nat} {run : CaseRun}
    (h : findCaseRun runs n fuel lo hi = some run) :
    run ∈ runs.toList ∧ run.first ≤ n ∧ n ≤ run.last := by
  fun_induction findCaseRun runs n fuel lo hi with
  | case1 => contradiction
  | case2 => contradiction
  | case3 _ _ _ _ _ _ _ _ ih => exact ih h
  | case4 _ _ _ _ _ _ _ _ _ ih => exact ih h
  | case5 fuel lo hi hlt mid found hfound hfirst hlast =>
    obtain rfl := Option.some.inj h
    exact ⟨Array.mem_toList_iff.mpr (Array.mem_of_getElem? hfound), by omega, by omega⟩
  | case6 => contradiction

/-- A character beyond ASCII is kept, or is a capital of some run and replaced by its small form. -/
theorem lowerByTable_run (c : Char) :
    lowerByTable c = c ∨ ∃ run ∈ caseRuns.toList, ∃ k < run.last - run.first + 1,
      k % run.step = 0 ∧ c.toNat = run.first + k ∧ lowerByTable c = Char.ofNat (run.image + k) := by
  unfold lowerByTable
  cases hfound : findCaseRun caseRuns c.toNat caseRuns.size 0 caseRuns.size with
  | none => exact .inl rfl
  | some run =>
    obtain ⟨hrun, hfirst, hlast⟩ := findCaseRun_eq_some hfound
    by_cases hstep : (c.toNat - run.first) % run.step = 0
    · refine .inr ⟨run, hrun, c.toNat - run.first, by omega, hstep, by omega, ?_⟩
      simp [hstep]
    · simp [hstep]

theorem lowerByTable_cases (c : Char) :
    lowerByTable c = c ∨ ∃ run ∈ caseRuns.toList, lowerByTable c ∈ run.images := by
  rcases lowerByTable_run c with hkept | ⟨run, hrun, k, hk, hstep, -, himage⟩
  · exact .inl hkept
  · refine .inr ⟨run, hrun, ?_⟩
    rw [himage, CaseRun.images, List.mem_map]
    exact ⟨k, by simp [hk, hstep], rfl⟩

theorem isSmall_toLower : ∀ n < 128, IsSmall (Char.ofNat n).toLower ∧
    (isQuote (Char.ofNat n).toLower = true → isQuote (Char.ofNat n) = true) := by
  decide

/-- The small form of a character is small, and no quotation mark unless the character is one. -/
theorem isSmall_of_mem_lowerChar {c x : Char} (h : x ∈ lowerChar c) :
    IsSmall x ∧ (isQuote x = true → isQuote c = true) := by
  unfold lowerChar at h
  split at h
  · next hascii =>
    have hsmall := isSmall_toLower c.toNat hascii
    rw [Char.ofNat_toNat] at hsmall
    rwa [List.mem_singleton.mp h]
  · next hascii =>
    split at h
    · have hall : ['i', Char.ofNat 0x307].all isSmallUnquoted = true := by decide +kernel
      obtain ⟨hsmall, hquote⟩ := isSmallUnquoted_iff.mp (List.all_eq_true.mp hall x h)
      exact ⟨hsmall, by simp [hquote]⟩
    · next hdotted =>
      rw [List.mem_singleton.mp h]
      -- a character that the table keeps is small, and so are the images in it
      rcases lowerByTable_cases c with hkept | ⟨run, hrun, himage⟩
      · rw [hkept]
        refine ⟨?_, id⟩
        rw [IsSmall, lowerChar, if_neg hascii, if_neg hdotted, hkept]
      · have himages := List.all_eq_true.mp caseRuns_small run hrun
        obtain ⟨hsmall, hquote⟩ := isSmallUnquoted_iff.mp (List.all_eq_true.mp himages _ himage)
        exact ⟨hsmall, by simp [hquote]⟩

/-! ## Blanks and ASCII characters -/

/-- Is the character not blank, and beyond ASCII unless it is a `k`? -/
def isSolidBeyond (c : Char) : Bool := !isBlank c && (decide (128 ≤ c.toNat) || c == 'k')

theorem caseRuns_solid : caseRuns.toList.all (·.images.all isSolidBeyond) = true := by
  decide +kernel

/-- The small form of a character beyond ASCII: the character itself, or from the dotted I or the table of
    capitals. -/
theorem mem_lowerChar_beyond {c x : Char} (hc : 128 ≤ c.toNat) (h : x ∈ lowerChar c) :
    x = c ∨ x = 'i' ∨ isSolidBeyond x = true := by
  rw [lowerChar, if_neg (by omega)] at h
  split at h
  · rcases List.mem_cons.mp h with rfl | h
    · exact .inr (.inl rfl)
    · rw [List.mem_singleton.mp h]
      exact .inr (.inr (by decide))
  · rw [List.mem_singleton.mp h]
    rcases lowerByTable_cases c with hkept | ⟨run, hrun, himage⟩
    · exact .inl hkept
    · have himages := List.all_eq_true.mp caseRuns_solid run hrun
      exact .inr (.inr (List.all_eq_true.mp himages _ himage))

theorem lowerChar_ne_nil (c : Char) : lowerChar c ≠ [] := by
  unfold lowerChar
  split
  · simp
  · split <;> simp

/-- The small form of a character that is not blank holds no blank. -/
theorem isBlank_of_mem_lowerChar {c x : Char} (hc : isBlank c = false) (h : x ∈ lowerChar c) :
    isBlank x = false := by
  by_cases hascii : c.toNat < 128
  · rw [lowerChar, if_pos hascii] at h
    rw [List.mem_singleton.mp h, isBlank_toLower, hc]
  · rcases mem_lowerChar_beyond (by omega) h with rfl | rfl | hsolid
    · exact hc
    · decide
    · simp only [isSolidBeyond, Bool.and_eq_true, Bool.not_eq_true'] at hsolid
      exact hsolid.1

/-- Only `i` and `k` are also small forms of characters beyond ASCII. -/
theorem toNat_lt_of_mem_lowerChar {c x : Char} (h : x ∈ lowerChar c) (hx : x.toNat < 128) (hi : x ≠ 'i')
    (hk : x ≠ 'k') : c.toNat < 128 := by
  rcases Nat.lt_or_ge c.toNat 128 with hascii | hbeyond
  · exact hascii
  · rcases mem_lowerChar_beyond hbeyond h with rfl | rfl | hsolid
    · exact hx
    · exact absurd rfl hi
    · simp only [isSolidBeyond, Bool.and_eq_true, Bool.or_eq_true, decide_eq_true_eq, beq_iff_eq] at hsolid
      rcases hsolid.2 with hge | heq
      · omega
      · exact absurd heq hk

/-! ## Texts -/

/-- The small form of a character between two texts, the one in front of it in reverse. -/
def smallBetween (before : List Char) (c : Char) (rest : List Char) : List Char :=
  if c == capitalSigma && meetsCased before && !meetsCased rest then [finalSigma] else lowerChar c

/-- The small forms of the characters of a text, in order; `before` is the text in front of it in reverse. -/
def smallBehind (before : List Char) : List Char → List Char
  | [] => []
  | c :: rest => smallBetween before c rest ++ smallBehind (c :: before) rest

theorem lowerAfter_eq (before out rest : List Char) :
    lowerAfter before out rest = (smallBehind before rest).reverse ++ out := by
  induction rest generalizing before out with
  | nil => rfl
  | cons c rest ih =>
    show lowerAfter (c :: before) ((smallBetween before c rest).reverse ++ out) rest = _
    rw [ih, smallBehind, List.reverse_append, List.append_assoc]

theorem lower_eq (s : List Char) : lower s = smallBehind [] s := by
  rw [lower, lowerAfter_eq, List.append_nil, List.reverse_reverse]

/-- Beyond ASCII, or a `k`. -/
def isTrace (c : Char) : Bool := decide (128 ≤ c.toNat) || c == 'k'

section
variable {c : Char}

theorem isTrace_of_beyond (h : 128 ≤ c.toNat) : isTrace c = true := by
  simp [isTrace, h]

/-- The small form of a character beyond ASCII is not made up of ASCII characters, the Kelvin sign apart. -/
theorem exists_trace_lowerChar (h : 128 ≤ c.toNat) : ∃ x ∈ lowerChar c, isTrace x = true := by
  rw [lowerChar, if_neg (by omega)]
  split
  · -- the dotted I keeps its dot
    exact ⟨Char.ofNat 0x307, by simp, by decide⟩
  · refine ⟨lowerByTable c, List.mem_singleton_self _, ?_⟩
    rcases lowerByTable_cases c with hkept | ⟨run, hrun, himage⟩
    · rw [hkept]
      exact isTrace_of_beyond h
    · have himages := List.all_eq_true.mp caseRuns_solid run hrun
      exact (Bool.and_eq_true_iff.mp (List.all_eq_true.mp himages _ himage)).2

/-- The final form of a sigma leaves a trace too. -/
theorem exists_trace_smallBetween (h : 128 ≤ c.toNat) (before rest : List Char) :
    ∃ x ∈ smallBetween before c rest, isTrace x = true := by
  unfold smallBetween
  split
  · exact ⟨finalSigma, List.mem_singleton_self _, by decide⟩
  · exact exists_trace_lowerChar h

theorem smallBetween_of_ascii (h : c.toNat < 128) (before rest : List Char) :
    smallBetween before c rest = [c.toLower] := by
  have hsigma : (c == capitalSigma) = false := by
    rw [beq_eq_false_iff_ne]
    intro heq
    rw [heq] at h
    exact absurd h (by decide)
  rw [smallBetween, hsigma, lowerChar, if_pos h]
  rfl

end

section
variable {s : List Char}

theorem smallBehind_of_ascii (h : ∀ c ∈ s, c.toNat < 128) (before : List Char) :
    smallBehind before s = s.map Char.toLower := by
  induction s generalizing before with
  | nil => rfl
  | cons c s ih =>
    obtain ⟨hc, hs⟩ := List.forall_mem_cons.mp h
    rw [smallBehind, smallBetween_of_ascii hc, ih hs, List.map_cons, List.singleton_append]

theorem exists_trace_smallBehind (h : ∃ c ∈ s, 128 ≤ c.toNat) (before : List Char) :
    ∃ x ∈ smallBehind before s, isTrace x = true := by
  induction s generalizing before with
  | nil =>
    obtain ⟨c, hc, -⟩ := h
    cases hc
  | cons c s ih =>
    simp only [smallBehind, List.mem_append]
    obtain ⟨d, hd, hlarge⟩ := h
    rcases List.mem_cons.mp hd with rfl | hd
    · obtain ⟨x, hx, htrace⟩ := exists_trace_smallBetween hlarge before s
      exact ⟨x, .inl hx, htrace⟩
    · obtain ⟨x, hx, htrace⟩ := ih ⟨d, hd, hlarge⟩ (c :: before)
      exact ⟨x, .inr hx, htrace⟩

variable {t : List Char} (ht : ∀ x ∈ t, isTrace x = false)
include ht

theorem ascii_of_lower (h : lower s = t) : ∀ c ∈ s, c.toNat < 128 := by
  intro c hc
  rcases Nat.lt_or_ge c.toNat 128 with hascii | hbeyond
  · exact hascii
  · obtain ⟨x, hx, htrace⟩ := exists_trace_smallBehind ⟨c, hc, hbeyond⟩ []
    rw [← lower_eq, h] at hx
    rw [ht x hx] at htrace
    contradiction

theorem ascii_of_map_toLower (h : s.map Char.toLower = t) : ∀ c ∈ s, c.toNat < 128 := by
  intro c hc
  rcases Nat.lt_or_ge c.toNat 128 with hascii | hbeyond
  · exact hascii
  · have hletter : c.isAlpha = false := by
      cases halpha : c.isAlpha with
      | false => rfl
      | true =>
        have hsmall := toNat_lt_of_isAlpha halpha
        omega
    have hmem : c ∈ t := by
      rw [← h, ← toLower_of_not_isAlpha hletter]
      exact List.mem_map_of_mem hc
    have htrace := isTrace_of_beyond hbeyond
    rw [ht c hmem] at htrace
    contradiction

/-- For a text of ASCII characters without `k`, to be the small form is to be the ASCII small form. -/
theorem lower_eq_iff : lower s = t ↔ s.map Char.toLower = t := by
  refine ⟨?_, ?_⟩
  · intro h
    rw [← smallBehind_of_ascii (ascii_of_lower ht h) [], ← lower_eq, h]
  · intro h
    rw [lower_eq, smallBehind_of_ascii (ascii_of_map_toLower ht h), h]

end

end SqlSmell.Text
