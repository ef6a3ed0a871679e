import Mathlib.Data.List.DropRight
import Mathlib.Data.List.TakeWhile
import SqlSmell.Text.Basic

/- Trimming. Blanks at an end of a text go, and nothing behind a character that is not blank does. What goes is
   blanks only (`eq_blanks_trim_blanks`), and none go exactly if none stand at the ends (`trim_eq_self_iff`). -/
namespace SqlSmell.Text

variable {s t : List Char} {c : Char}

theorem trimStart_blanks_append (h : ∀ c ∈ s, isBlank c = true) :
    trimStart (s ++ t) = trimStart t :=
  List.dropWhile_append_of_pos h

theorem trimStart_cons (h : isBlank c = false) : trimStart (c :: s) = c :: s :=
  List.dropWhile_cons_of_neg (by simp [h])

theorem trimEnd_append_blanks (h : ∀ c ∈ t, isBlank c = true) : trimEnd (s ++ t) = trimEnd s := by
  rw [trimEnd, List.reverse_append, List.dropWhile_append_of_pos (by simpa using h)]
  rfl

theorem trimEnd_append_cons (h : isBlank c = false) :
    trimEnd (s ++ c :: t) = s ++ c :: trimEnd t := by
  have hdrop : (t.reverse ++ c :: s.reverse).dropWhile isBlank =
      t.reverse.dropWhile isBlank ++ c :: s.reverse := by
    rw [List.dropWhile_append]
    split
    · next hempty => rw [List.isEmpty_iff.mp hempty, List.dropWhile_cons_of_neg (by simp [h])]; rfl
    · rfl
  simp [trimEnd, hdrop]

theorem trimEnd_cons (c : Char) (s : List Char) :
    trimEnd (c :: s) = if trimEnd s = [] ∧ isBlank c = true then [] else c :: trimEnd s := by
  have hempty : (s.reverse.dropWhile isBlank).isEmpty = true ↔ trimEnd s = [] := by
    rw [trimEnd, List.reverse_eq_nil_iff, List.isEmpty_iff]
  rw [trimEnd, List.reverse_cons, List.dropWhile_append]
  by_cases hs : trimEnd s = []
  · rw [if_pos (hempty.mpr hs), hs]
    cases hc : isBlank c <;> simp [hc]
  · rw [if_neg (mt hempty.mp hs), if_neg fun h => hs h.1, List.reverse_append]
    rfl

theorem mem_of_mem_trimEnd (h : c ∈ trimEnd s) : c ∈ s := by
  rw [trimEnd, List.mem_reverse] at h
  exact List.mem_reverse.mp ((List.dropWhile_suffix isBlank).subset h)

theorem trimStart_eq_nil_iff : trimStart s = [] ↔ ∀ c ∈ s, isBlank c = true :=
  List.dropWhile_eq_nil_iff

theorem trim_eq_nil_iff : trim s = [] ↔ ∀ c ∈ s, isBlank c = true := by
  constructor
  · intro h
    have hblank : ∀ c ∈ trimStart s, isBlank c = true := by
      rw [trim, trimEnd, List.reverse_eq_nil_iff, List.dropWhile_eq_nil_iff] at h
      simpa using h
    -- what is left at the start would be blank, although no blank is left there
    apply trimStart_eq_nil_iff.mp
    by_contra hne
    have hhead : isBlank ((trimStart s).head hne) = false := List.head_dropWhile_not isBlank hne
    rw [hblank _ (List.head_mem hne)] at hhead
    contradiction
  · intro h
    rw [trim, trimStart_eq_nil_iff.mpr h]
    rfl

theorem trim_blanks_append (h : ∀ c ∈ s, isBlank c = true) : trim (s ++ t) = trim t := by
  rw [trim, trimStart_blanks_append h, trim]

theorem trim_append_blanks (h : ∀ c ∈ t, isBlank c = true) : trim (s ++ t) = trim s := by
  by_cases hs : trimStart s = []
  · have hblank := trimStart_eq_nil_iff.mp hs
    rw [trim_blanks_append hblank, trim_eq_nil_iff.mpr h, trim_eq_nil_iff.mpr hblank]
  · have hstart : trimStart (s ++ t) = trimStart s ++ t := by
      rw [trimStart, List.dropWhile_append, if_neg (by simpa [trimStart] using hs)]
      rfl
    rw [trim, hstart, trimEnd_append_blanks h, trim]

/-- A text is its leading blanks and what is left without them. -/
theorem eq_blanks_append_trimStart (s : List Char) :
    ∃ w, s = w ++ trimStart s ∧ ∀ c ∈ w, isBlank c = true :=
  ⟨s.takeWhile isBlank, List.takeWhile_append_dropWhile.symm, fun _ hc => List.mem_takeWhile_imp hc⟩

theorem eq_trimEnd_append_blanks (s : List Char) :
    ∃ w, s = trimEnd s ++ w ∧ ∀ c ∈ w, isBlank c = true := by
  obtain ⟨w, hs, hw⟩ := eq_blanks_append_trimStart s.reverse
  refine ⟨w.reverse, ?_, by simpa using hw⟩
  have hflip := congrArg List.reverse hs
  rw [List.reverse_reverse, List.reverse_append] at hflip
  exact hflip

/-- A text is what is left when it is trimmed, with blanks in front and behind. -/
theorem eq_blanks_trim_blanks (s : List Char) :
    ∃ w w', s = w ++ trim s ++ w' ∧ (∀ c ∈ w, isBlank c = true) ∧ ∀ c ∈ w', isBlank c = true := by
  obtain ⟨w, hstart, hw⟩ := eq_blanks_append_trimStart s
  obtain ⟨w', hend, hw'⟩ := eq_trimEnd_append_blanks (trimStart s)
  refine ⟨w, w', ?_, hw, hw'⟩
  rw [trim, List.append_assoc, ← hend, ← hstart]

theorem trim_sublist (s : List Char) : (trim s).Sublist s := by
  obtain ⟨w, w', hs, -, -⟩ := eq_blanks_trim_blanks s
  have hsub : (trim s).Sublist (w ++ trim s ++ w') :=
    (List.sublist_append_right w (trim s)).trans (List.sublist_append_left (w ++ trim s) w')
  rwa [← hs] at hsub

/-- A text is trimmed already exactly if no blank comes first and none comes last. -/
theorem trim_eq_self_iff :
    trim s = s ↔ (∀ c, s.head? = some c → isBlank c = false) ∧
      ∀ c, s.getLast? = some c → isBlank c = false := by
  refine ⟨?_, ?_⟩
  · intro h
    -- a blank at an end would go, and leave a shorter text
    refine ⟨?_, ?_⟩
    · intro c hc
      obtain ⟨t, rfl⟩ := List.head?_eq_some_iff.mp hc
      by_contra hblank
      have hcut : trim (c :: t) = trim t := trim_blanks_append (s := [c]) (by simpa using hblank)
      have hle := (trim_sublist t).length_le
      rw [← hcut, h, List.length_cons] at hle
      omega
    · intro c hc
      obtain ⟨t, rfl⟩ := List.getLast?_eq_some_iff.mp hc
      by_contra hblank
      have hcut : trim (t ++ [c]) = trim t := trim_append_blanks (by simpa using hblank)
      have hle := (trim_sublist t).length_le
      rw [← hcut, h, List.length_append, List.length_singleton] at hle
      omega
  · intro h
    obtain ⟨hstart, hend⟩ := h
    have hkept : trimStart s = s := by
      cases s with
      | nil => rfl
      | cons c t => exact trimStart_cons (hstart c rfl)
    rw [trim, hkept]
    cases hlast : s.getLast? with
    | none => rw [List.getLast?_eq_none_iff.mp hlast]; rfl
    | some c =>
      obtain ⟨t, rfl⟩ := List.getLast?_eq_some_iff.mp hlast
      exact trimEnd_append_cons (hend c hlast)

theorem trim_trim (s : List Char) : trim (trim s) = trim s := by
  have hend : ∀ t, trimEnd (trimEnd t) = trimEnd t := List.rdropWhile_idempotent isBlank
  cases hs : trimStart s with
  | nil =>
    rw [trim, trim, hs]
    rfl
  | cons c t =>
    have hc : isBlank c = false := by
      have hhead := List.head?_dropWhile_not isBlank s
      rw [show s.dropWhile isBlank = c :: t from hs] at hhead
      simpa using hhead
    have hcons : trimEnd (c :: t) = c :: trimEnd t := trimEnd_append_cons (s := []) hc
    rw [trim, trim, hs, hcons, trimStart_cons hc, ← hcons, hend]

end SqlSmell.Text
