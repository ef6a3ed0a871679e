import SqlSmell.Proofs.Pattern.Search

/- What the patterns of rules look for, said about the text alone: a word, two words with blanks between
   them, a word that stands by itself. Each is found exactly if the text can be written with it
   somewhere in between. -/
namespace SqlSmell.Pattern

/-- One blank or more, as many as there are. -/
def blankRun : Regex := .plus (.set .blank) true

/-- The text holds the one word, then blanks, then the other word. -/
def Apart (first second s : List Char) : Prop :=
  ∃ u w v, s = u ++ first ++ w ++ second ++ v ∧ w ≠ [] ∧ ∀ c ∈ w, Text.isBlank c = true

/-- The text holds the word, and the characters next to it, where there are any, are no word
    characters. -/
def StandsAlone (w s : List Char) : Prop :=
  ∃ u v, s = u ++ w ++ v ∧ (∀ c, u.getLast? = some c → Text.isWord c = false) ∧
    ∀ c, v.head? = some c → Text.isWord c = false

theorem isFound_ofItems_iff (items : List Regex) (s : List Char) :
    (Regex.ofItems items).program.isFound s = true ↔
      ∃ u t y, s = u ++ t ∧ MatchesAll items ⟨u.getLast?, t⟩ y := by
  simp only [isFound_program_iff, matches_ofItems_iff]

theorem isFound_alt_iff (r r' : Regex) (s : List Char) :
    (Regex.alt r r').program.isFound s = true ↔
      r.program.isFound s = true ∨ r'.program.isFound s = true := by
  simp only [isFound_program_iff, matches_alt_iff, and_or_left, exists_or]

/-- An alternation between two items is the alternation of the whole. -/
theorem isFound_alt_between_iff (before r r' behind : Regex) (s : List Char) :
    (Regex.ofItems [before, .alt r r', behind]).program.isFound s = true ↔
      (Regex.ofItems [before, r, behind]).program.isFound s = true ∨
        (Regex.ofItems [before, r', behind]).program.isFound s = true := by
  simp only [isFound_ofItems_iff, MatchesAll, matches_alt_iff, or_and_right, and_or_left, exists_or]

theorem isFound_word_iff (w s : List Char) :
    (Regex.ofItems (word w)).program.isFound s = true ↔ w <:+: s := by
  rw [isFound_ofItems_iff, ← List.append_nil (word w)]
  simp only [matchesAll_word]
  constructor
  · rintro ⟨u, _, y, rfl, t, rfl, -⟩
    exact ⟨u, t, by simp⟩
  · rintro ⟨u, t, rfl⟩
    exact ⟨u, w ++ t, _, by simp, t, rfl, rfl⟩

theorem isFound_apart_iff (first second s : List Char) :
    (Regex.ofItems (word first ++ blankRun :: word second)).program.isFound s = true ↔
      Apart first second s := by
  rw [isFound_ofItems_iff, ← List.append_nil (word second)]
  simp only [matchesAll_word, MatchesAll, blankRun, matches_plus_set_iff]
  constructor
  · rintro ⟨u, _, y, rfl, _, rfl, _, ⟨w, _, hw, hne, hblank, rfl⟩, v, hv, -⟩
    exact ⟨u, w, v, by simp_all, hne, hblank⟩
  · rintro ⟨u, w, v, rfl, hne, hblank⟩
    exact ⟨u, first ++ (w ++ (second ++ v)), _, by simp, w ++ (second ++ v), rfl, _,
      ⟨w, second ++ v, rfl, hne, hblank, rfl⟩, v, rfl, rfl⟩

/-- Is there a word character? -/
def isWordAt (c? : Option Char) : Bool := c?.any Text.isWord

theorem isWordAt_eq_false_iff (c? : Option Char) :
    isWordAt c? = false ↔ ∀ c, c? = some c → Text.isWord c = false := by
  cases c? with
  | none => simp [isWordAt]
  | some c => simp [isWordAt]

theorem holds_wordBoundary (p : Around) :
    Anchor.wordBoundary.holds p = (isWordAt p.before != isWordAt p.behind) := by
  have hbefore : (Anchor.before .word).holds p = isWordAt p.before := rfl
  have hbehind : (Anchor.behind .word).holds p = isWordAt p.behind := rfl
  simp only [Anchor.wordBoundary, Anchor.insideOrOutsideWord, Anchor.wordStart, Anchor.wordEnd, Anchor.holds]
  rw [← Anchor.holds, ← Anchor.holds, hbefore, hbehind]
  cases isWordAt p.before <;> cases isWordAt p.behind <;> rfl

/-- Before a word there is a boundary where no word character comes first. -/
theorem holds_wordBoundary_before {w : List Char} (h : isWordAt w.head? = true) (u v : List Char) :
    Anchor.wordBoundary.holds (Place.around ⟨u.getLast?, w ++ v⟩) = true ↔
      ∀ c, u.getLast? = some c → Text.isWord c = false := by
  have hne : w ≠ [] := by rintro rfl; simp [isWordAt] at h
  have hhead : (w ++ v).head? = w.head? := by simp [List.head?_append_of_ne_nil w hne]
  rw [← isWordAt_eq_false_iff, holds_wordBoundary]
  simp [Place.around, hhead, h]

/-- Behind a word there is a boundary where no word character follows. -/
theorem holds_wordBoundary_behind {w : List Char} (h : isWordAt w.getLast? = true) (x : Place)
    (v : List Char) : Anchor.wordBoundary.holds (x.behind w v).around = true ↔
      ∀ c, v.head? = some c → Text.isWord c = false := by
  have hlast : w.getLast?.or x.before = w.getLast? := by
    cases hw : w.getLast? with
    | none => simp [hw, isWordAt] at h
    | some c => rfl
  rw [← isWordAt_eq_false_iff, holds_wordBoundary]
  simp [Place.around, Place.behind, hlast, h]

theorem isFound_alone_iff {w : List Char} (hfirst : isWordAt w.head? = true)
    (hlast : isWordAt w.getLast? = true) (s : List Char) :
    (Regex.ofItems [.anchor .wordBoundary, Regex.ofItems (word w),
      .anchor .wordBoundary]).program.isFound s = true ↔ StandsAlone w s := by
  rw [isFound_ofItems_iff]
  simp only [MatchesAll, matches_anchor_iff, matches_ofItems_iff]
  constructor
  · rintro ⟨u, t, _, rfl, _, ⟨hbefore, rfl⟩, _, hword, _, ⟨hbehind, rfl⟩, rfl⟩
    rw [← List.append_nil (word w), matchesAll_word] at hword
    obtain ⟨v, hv, hz⟩ := hword
    have hv : t = w ++ v := hv
    subst hv hz
    exact ⟨u, v, by simp, (holds_wordBoundary_before hfirst u v).mp hbefore,
      (holds_wordBoundary_behind hlast _ v).mp hbehind⟩
  · rintro ⟨u, v, rfl, hbefore, hbehind⟩
    refine ⟨u, w ++ v, _, by simp, _, ⟨(holds_wordBoundary_before hfirst u v).mpr hbefore, rfl⟩,
      Place.behind ⟨u.getLast?, w ++ v⟩ w v, ?_, _,
      ⟨(holds_wordBoundary_behind hlast _ v).mpr hbehind, rfl⟩, rfl⟩
    rw [← List.append_nil (word w), matchesAll_word]
    exact ⟨v, rfl, rfl⟩

end SqlSmell.Pattern
