import Mathlib.Data.List.Nodup
import Mathlib.Data.String.Basic
import SqlSmell.Rule.Validation

/- When a choice of rules is accepted: all its titles name rules, no two severities are for one title, and
   every severity is one (`validate_ok_iff`). Titles that occur twice are searched for in sorted order, where
   copies are neighbours. The first two neighbours that are equal are then the least text that occurs more
   than once (`firstTwin?_sound`), and there are none only if no text does (`firstTwin?_eq_none_iff`); sorting
   changes neither the texts nor their numbers, so this holds of the texts in any order
   (`leastRepeated?_eq_some_iff`, `leastRepeated?_eq_none_iff`). -/
namespace SqlSmell.Selection

/-- The titles with a severity, in small letters. -/
def overrideKeys (s : Selection) : List String := s.severity.map fun entry => Text.asciiLower entry.1

/-! ## Neighbours in sorted order -/

section
variable {texts : List String} {t : String}

theorem firstTwin?_cons_cons (s t : String) (more : List String) :
    firstTwin? (s :: t :: more) = if s == t then some s else firstTwin? (t :: more) := rfl

/-- In sorted order, a text that is not its neighbour is less than all that follow. -/
theorem lt_of_sorted {s : String} (h : (s :: t :: texts).Pairwise (· ≤ ·)) (hne : s ≠ t) :
    ∀ u ∈ t :: texts, s < u := by
  obtain ⟨hs, ht⟩ := List.pairwise_cons.mp h
  have hst : s < t := lt_of_le_of_ne (hs t List.mem_cons_self) hne
  intro u hu
  rcases List.mem_cons.mp hu with rfl | hu
  · exact hst
  · exact hst.trans_le ((List.pairwise_cons.mp ht).1 u hu)

theorem not_mem_of_sorted {s : String} (h : (s :: t :: texts).Pairwise (· ≤ ·)) (hne : s ≠ t) :
    s ∉ t :: texts := fun hmem => lt_irrefl s (lt_of_sorted h hne s hmem)

theorem firstTwin?_eq_none_iff (h : texts.Pairwise (· ≤ ·)) : firstTwin? texts = none ↔ texts.Nodup := by
  induction texts with
  | nil => simp [firstTwin?]
  | cons s texts ih =>
    cases texts with
    | nil => simp [firstTwin?]
    | cons t texts =>
      rw [firstTwin?_cons_cons]
      by_cases hst : s = t
      · simp [hst]
      · rw [if_neg (by simpa using hst), ih (List.pairwise_cons.mp h).2]
        exact ⟨fun hnodup => List.nodup_cons.mpr ⟨not_mem_of_sorted h hst, hnodup⟩,
          fun hnodup => (List.nodup_cons.mp hnodup).2⟩

theorem firstTwin?_sound (h : texts.Pairwise (· ≤ ·)) (hfound : firstTwin? texts = some t) :
    1 < texts.count t ∧ ∀ u, 1 < texts.count u → t ≤ u := by
  induction texts with
  | nil => contradiction
  | cons s texts ih =>
    cases texts with
    | nil => contradiction
    | cons s' texts =>
      rw [firstTwin?_cons_cons] at hfound
      by_cases hs : s = s'
      · -- the first text of all is repeated, and no text is less
        subst hs
        rw [if_pos (beq_self_eq_true s)] at hfound
        obtain rfl := Option.some.inj hfound
        refine ⟨by simp, fun u hu => ?_⟩
        rcases List.mem_cons.mp (List.count_pos_iff.mp (Nat.zero_lt_of_lt hu)) with rfl | hmem
        · exact le_refl u
        · exact (List.pairwise_cons.mp h).1 u hmem
      · -- the first text of all is not repeated
        rw [if_neg (by simpa using hs)] at hfound
        have honce := List.count_eq_zero_of_not_mem (not_mem_of_sorted h hs)
        have hcount : ∀ u, 1 < (s :: s' :: texts).count u ↔ 1 < (s' :: texts).count u := by
          intro u
          by_cases hu : u = s
          · rw [hu, List.count_cons_self, honce]
            omega
          · rw [List.count_cons_of_ne (Ne.symm hu)]
        simp only [hcount]
        exact ih (List.pairwise_cons.mp h).2 hfound

/-! ## Any order -/

theorem sorted_mergeSort (texts : List String) : (texts.mergeSort (· ≤ ·)).Pairwise (· ≤ ·) := by
  have hsorted : (texts.mergeSort (· ≤ ·)).Pairwise fun s t => decide (s ≤ t) = true := by
    apply List.pairwise_mergeSort
    · intro s t u hst htu
      exact decide_eq_true ((of_decide_eq_true hst).trans (of_decide_eq_true htu))
    · intro s t
      simpa using le_total s t
  simpa only [decide_eq_true_eq] using hsorted

theorem leastRepeated?_eq_none_iff : leastRepeated? texts = none ↔ texts.Nodup := by
  rw [leastRepeated?, firstTwin?_eq_none_iff (sorted_mergeSort texts),
    (List.mergeSort_perm texts _).nodup_iff]

theorem leastRepeated?_sound (h : leastRepeated? texts = some t) :
    1 < texts.count t ∧ ∀ u, 1 < texts.count u → t ≤ u := by
  have hsound := firstTwin?_sound (sorted_mergeSort texts) h
  simpa only [(List.mergeSort_perm texts _).count_eq] using hsound

/-- The least text that is repeated. -/
theorem leastRepeated?_eq_some_iff :
    leastRepeated? texts = some t ↔ 1 < texts.count t ∧ ∀ u, 1 < texts.count u → t ≤ u := by
  refine ⟨leastRepeated?_sound, ?_⟩
  intro ht
  obtain ⟨hcount, hleast⟩ := ht
  cases hfound : leastRepeated? texts with
  | none =>
    have hle := List.nodup_iff_count_le_one.mp (leastRepeated?_eq_none_iff.mp hfound) t
    omega
  | some u =>
    obtain ⟨hcount', hleast'⟩ := leastRepeated?_sound hfound
    rw [le_antisymm (hleast' t hcount) (hleast u hcount')]

end

/-! ## Accepted choices -/

theorem badOverride?_eq_none_iff {entries : List (String × String)} :
    badOverride? entries = none ↔ ∀ entry ∈ entries, ∃ v, Severity.ofText entry.2 = .ok v := by
  induction entries with
  | nil => simp [badOverride?]
  | cons entry entries ih =>
    rw [List.forall_mem_cons, ← ih, badOverride?]
    cases hv : Severity.ofText entry.2 with
    | ok v => simp
    | error shown => simp

/-- A choice is accepted exactly if its titles are known, no title has two severities, and each severity
    can be read. -/
theorem validate_ok_iff {s : Selection} {g : Registry} :
    s.validate g = .ok () ↔ (∀ title ∈ s.titles, g.contains title = true) ∧ s.overrideKeys.Nodup ∧
      ∀ entry ∈ s.severity, ∃ v, Severity.ofText entry.2 = .ok v := by
  have hknown : s.titles.find? (fun t => !g.contains t) = none ↔
      ∀ title ∈ s.titles, g.contains title = true := by
    simp
  have hkeys : s.repeatedOverride? = none ↔ s.overrideKeys.Nodup := leastRepeated?_eq_none_iff
  rw [← hknown, ← hkeys, ← badOverride?_eq_none_iff, validate]
  -- one check after the other, as the choice is validated
  cases s.titles.find? (fun t => !g.contains t) with
  | some title => simp
  | none =>
    cases s.repeatedOverride? with
    | some title => simp
    | none =>
      cases badOverride? s.severity with
      | some bad => simp
      | none => simp

end SqlSmell.Selection
