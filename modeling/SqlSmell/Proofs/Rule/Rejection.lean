import SqlSmell.Proofs.Rule.Independence
import SqlSmell.Proofs.Text.ByteOrder

/- Why a choice of rules is refused. The checks come in a fixed order: titles that are listed, titles with a
   severity, titles with more than one, and the severities themselves; the first that fails gives the
   error (`validate_outcome`). The search among the titles with more than one severity finds the least of
   them in the order of bytes (`leastRepeated?_eq_some_iff`, `utf8_le_iff`), so that the error does not hang
   on the order of the overrides, and names the title as the rule has it. -/
namespace SqlSmell.Selection

open Text (EqUpToCase eqUpToCase_iff sameTitle sameTitle_iff asciiLower asciiLower_asciiLower utf8
  utf8_le_iff)

/-- Two overrides are for the title, in some case. -/
def Contested (s : Selection) (title : String) : Prop :=
  ∃ entry entry', [entry, entry'].Sublist s.severity ∧ EqUpToCase entry.1 title ∧
    EqUpToCase entry'.1 title

/-! ## Overrides of one title -/

section
variable {s : Selection}

theorem contested_iff {title : String} :
    s.Contested title ↔ 1 < s.overrideKeys.count (asciiLower title) := by
  have hcount : s.overrideKeys.count (asciiLower title) = (s.overridesOf title).length := by
    have hsame : ((fun key => key == asciiLower title) ∘ fun entry : String × String => asciiLower entry.1) =
        fun entry => sameTitle entry.1 title := by
      funext entry
      rw [Bool.eq_iff_iff, Text.sameTitle_eq_true_iff]
      exact beq_iff_eq
    rw [overrideKeys, List.count_eq_countP, List.countP_map, List.countP_eq_length_filter, hsame]
    rfl
  rw [hcount]
  refine ⟨?_, ?_⟩
  · intro h
    obtain ⟨entry, entry', hsub, hentry, hentry'⟩ := h
    have hpair : [entry, entry'].filter (fun entry => sameTitle entry.1 title) = [entry, entry'] := by
      simp [sameTitle_iff.mpr hentry, sameTitle_iff.mpr hentry']
    have hlength := (hsub.filter fun entry => sameTitle entry.1 title).length_le
    rw [hpair] at hlength
    exact hlength
  · intro h
    obtain ⟨entry, rest, hentries⟩ := List.exists_cons_of_length_pos (Nat.zero_lt_of_lt h)
    rw [hentries, List.length_cons] at h
    obtain ⟨entry', more, rfl⟩ := List.exists_cons_of_length_pos (Nat.lt_of_succ_lt_succ h)
    have hsub : [entry, entry'].Sublist (s.overridesOf title) := by
      rw [hentries]
      exact ((List.nil_sublist more).cons_cons entry').cons_cons entry
    have hsame : ∀ x ∈ [entry, entry'], EqUpToCase x.1 title := fun x hx =>
      sameTitle_iff.mp (List.mem_filter.mp (hsub.subset hx)).2
    exact ⟨entry, entry', hsub.trans List.filter_sublist, hsame entry (by simp), hsame entry' (by simp)⟩

theorem overrideKeys_nodup_iff :
    s.overrideKeys.Nodup ↔ s.severity.Pairwise fun entry entry' => ¬ EqUpToCase entry.1 entry'.1 := by
  rw [overrideKeys, List.Nodup, List.pairwise_map]
  simp only [eqUpToCase_iff, ne_eq]

/-! ## One check after the other -/

variable {g : Registry}

/-- A title that names no rule is reported, the first one in the order of the lists. -/
theorem validate_unknown (earlier later : List String) {title : String}
    (htitles : s.titles = earlier ++ title :: later) (hearlier : ∀ t ∈ earlier, Names g.titles t)
    (htitle : ¬ Names g.titles title) : s.validate g = .error (.unknownRule title g.titles) := by
  have hfound : s.titles.find? (fun t => !g.contains t) = some title := by
    rw [List.find?_eq_some_iff_append]
    refine ⟨by simpa [← Registry.contains_iff] using htitle, earlier, later, htitles, fun t ht => ?_⟩
    rw [Registry.contains_iff.mpr (hearlier t ht)]
    rfl
  rw [validate, hfound]

theorem exists_first_unknown {titles : List String} (h : ∃ t ∈ titles, ¬ Names g.titles t) :
    ∃ earlier title later, titles = earlier ++ title :: later ∧ (∀ t ∈ earlier, Names g.titles t) ∧
      ¬ Names g.titles title := by
  obtain ⟨t, ht, hunknown⟩ := h
  have hsome : (titles.find? fun t => decide (¬ Names g.titles t)).isSome = true := by
    rw [List.find?_isSome]
    exact ⟨t, ht, decide_eq_true hunknown⟩
  obtain ⟨title, hfound⟩ := Option.isSome_iff_exists.mp hsome
  obtain ⟨htitle, earlier, later, rfl, hearlier⟩ := List.find?_eq_some_iff_append.mp hfound
  exact ⟨earlier, title, later, rfl, by simpa using hearlier, of_decide_eq_true htitle⟩

theorem find?_unknown_eq_none (hknown : ∀ t ∈ s.titles, Names g.titles t) :
    s.titles.find? (fun t => !g.contains t) = none := by
  rw [List.find?_eq_none]
  intro t ht
  rw [Registry.contains_iff.mpr (hknown t ht)]
  exact Bool.false_ne_true

theorem badOverride?_some {entries : List (String × String)} {title shown : String}
    (h : badOverride? entries = some (title, shown)) :
    ∃ text, (title, text) ∈ entries ∧ Severity.ofText text = .error shown := by
  induction entries with
  | nil => cases h
  | cons entry entries ih =>
    obtain ⟨key, text⟩ := entry
    rw [badOverride?] at h
    split at h
    · obtain ⟨bad, hmem, hbad⟩ := ih h
      exact ⟨bad, List.mem_cons_of_mem _ hmem, hbad⟩
    · next reason hreason =>
      obtain ⟨rfl, rfl⟩ := Prod.mk.inj (Option.some.inj h)
      exact ⟨text, List.mem_cons_self, hreason⟩

/-- With titles that are all known, a severity that is none is reported once no title has two. -/
theorem validate_bad (hknown : ∀ t ∈ s.titles, Names g.titles t) (hkeys : s.overrideKeys.Nodup)
    (hbad : ∃ entry ∈ s.severity, ∀ v, Severity.ofText entry.2 ≠ .ok v) :
    ∃ entry ∈ s.severity, ∃ shown, Severity.ofText entry.2 = .error shown ∧
      s.validate g = .error (.badOverride entry.1 shown) := by
  cases hfound : badOverride? s.severity with
  | none =>
    obtain ⟨entry, hentry, hnone⟩ := hbad
    obtain ⟨v, hv⟩ := badOverride?_eq_none_iff.mp hfound entry hentry
    exact absurd hv (hnone v)
  | some bad =>
    obtain ⟨title, shown⟩ := bad
    obtain ⟨text, hmem, htext⟩ := badOverride?_some hfound
    have hnone : s.repeatedOverride? = none := leastRepeated?_eq_none_iff.mpr hkeys
    refine ⟨(title, text), hmem, shown, htext, ?_⟩
    simp only [validate, find?_unknown_eq_none hknown, hnone, hfound]

/-- A rule that two overrides are for, and none before it in the order of bytes. -/
def IsLeastContested (s : Selection) (g : Registry) (r : Rule) : Prop :=
  r ∈ g.rules ∧ s.Contested r.title ∧
    ∀ r' ∈ g.rules, s.Contested r'.title → utf8 (asciiLower r.title) ≤ utf8 (asciiLower r'.title)

/-- With titles that are all known, the keys of overrides are small forms of titles of rules. -/
theorem exists_rule_of_key (hknown : ∀ t ∈ s.titles, Names g.titles t) {key : String}
    (hkey : key ∈ s.overrideKeys) : ∃ r ∈ g.rules, asciiLower r.title = key := by
  obtain ⟨entry, hentry, rfl⟩ := List.mem_map.mp hkey
  obtain ⟨t, ht, hsame⟩ := hknown entry.1 (List.mem_append_right _ (List.mem_map_of_mem hentry))
  obtain ⟨r, hr, rfl⟩ := List.mem_map.mp ht
  exact ⟨r, hr, eqUpToCase_iff.mp hsame⟩

/-- With titles that are all known, the least of those with two severities is reported, as its rule has it. -/
theorem validate_leastContested (hknown : ∀ t ∈ s.titles, Names g.titles t) {r : Rule}
    (h : s.IsLeastContested g r) : s.validate g = .error (.repeatedOverride r.title) := by
  obtain ⟨hr, hcontested, hleast⟩ := h
  have hfound : s.repeatedOverride? = some (asciiLower r.title) := by
    apply leastRepeated?_eq_some_iff.mpr
    refine ⟨contested_iff.mp hcontested, fun key hkey => ?_⟩
    obtain ⟨r', hr', rfl⟩ := exists_rule_of_key hknown (List.count_pos_iff.mp (Nat.zero_lt_of_lt hkey))
    exact utf8_le_iff.mp (hleast r' hr' (contested_iff.mpr hkey))
  have hrule : g.get? (asciiLower r.title) = some r := by
    apply (Registry.get?_eq_some_iff g _ r).mpr
    exact ⟨hr, eqUpToCase_iff.mpr (asciiLower_asciiLower r.title).symm⟩
  simp only [validate, find?_unknown_eq_none hknown, hfound, hrule, Option.map_some, Option.getD_some]

theorem exists_leastContested (hknown : ∀ t ∈ s.titles, Names g.titles t)
    (h : ¬ s.overrideKeys.Nodup) : ∃ r, s.IsLeastContested g r := by
  have hsome : (leastRepeated? s.overrideKeys).isSome = true := by
    rw [Option.isSome_iff_ne_none]
    exact mt leastRepeated?_eq_none_iff.mp h
  obtain ⟨key, hkey⟩ := Option.isSome_iff_exists.mp hsome
  obtain ⟨hcount, hleast⟩ := leastRepeated?_eq_some_iff.mp hkey
  obtain ⟨r, hr, rfl⟩ := exists_rule_of_key hknown (List.count_pos_iff.mp (Nat.zero_lt_of_lt hcount))
  refine ⟨r, hr, contested_iff.mpr hcount, fun r' _ hr' => ?_⟩
  exact utf8_le_iff.mpr (hleast _ (contested_iff.mp hr'))

theorem IsLeastContested.withOverrides {r : Rule} (h : s.IsLeastContested g r)
    {entries : List (String × String)} (hperm : entries.Perm s.severity) :
    (s.withOverrides entries).IsLeastContested g r := by
  have hkeys : (s.withOverrides entries).overrideKeys.Perm s.overrideKeys := hperm.map _
  have hsame : ∀ title, (s.withOverrides entries).Contested title ↔ s.Contested title := by
    intro title
    rw [contested_iff, contested_iff, hkeys.count_eq]
  refine ⟨h.1, (hsame r.title).mpr h.2.1, fun r' hr' hcontested => ?_⟩
  exact h.2.2 r' hr' ((hsame r'.title).mp hcontested)

theorem validate_accepts_iff :
    s.validate g = .ok () ↔ (∀ t ∈ s.titles, Names g.titles t) ∧
      (s.severity.Pairwise fun entry entry' => ¬ EqUpToCase entry.1 entry'.1) ∧
      ∀ entry ∈ s.severity, ∃ v, Severity.ofText entry.2 = .ok v := by
  rw [validate_ok_iff, overrideKeys_nodup_iff]
  simp only [Registry.contains_iff]

end

/-- **What validation says.** A choice of rules is accepted exactly if all its titles name rules, no two
    overrides are for one title, and each severity is one. Otherwise the error is about the first listed
    title that names no rule; or else about a title with a severity that names none; or else about the rule
    with two severities whose title, in small letters, is the least in the order of bytes, as the rule has its
    title and whatever the order of the overrides; or else about a severity that is none. -/
theorem validate_outcome (g : Registry) (s : Selection) :
    (s.validate g = .ok () ↔
      (∀ t ∈ s.enabled ++ s.disabled ++ s.severity.map Prod.fst, Names g.titles t) ∧
      (s.severity.Pairwise fun entry entry' => ¬ EqUpToCase entry.1 entry'.1) ∧
      ∀ entry ∈ s.severity, ∃ v, Severity.ofText entry.2 = .ok v) ∧
    (∀ earlier title later, s.enabled ++ s.disabled = earlier ++ title :: later →
      (∀ t ∈ earlier, Names g.titles t) → ¬ Names g.titles title →
      s.validate g = .error (.unknownRule title g.titles)) ∧
    ((∀ t ∈ s.enabled ++ s.disabled, Names g.titles t) →
      (∃ entry ∈ s.severity, ¬ Names g.titles entry.1) →
      ∃ entry ∈ s.severity, ¬ Names g.titles entry.1 ∧
        s.validate g = .error (.unknownRule entry.1 g.titles)) ∧
    ((∀ t ∈ s.enabled ++ s.disabled ++ s.severity.map Prod.fst, Names g.titles t) →
      (¬ (s.severity.Pairwise fun entry entry' => ¬ EqUpToCase entry.1 entry'.1) →
        ∃ r, s.IsLeastContested g r ∧ ∀ entries : List (String × String), entries.Perm s.severity →
          (s.withOverrides entries).validate g = .error (.repeatedOverride r.title)) ∧
      ((s.severity.Pairwise fun entry entry' => ¬ EqUpToCase entry.1 entry'.1) →
        (∃ entry ∈ s.severity, ∀ v, Severity.ofText entry.2 ≠ .ok v) →
        ∃ entry ∈ s.severity, ∃ shown, Severity.ofText entry.2 = .error shown ∧
          s.validate g = .error (.badOverride entry.1 shown))) := by
  refine ⟨validate_accepts_iff, ?_, ?_, ?_⟩
  · intro earlier title later hlisted hearlier htitle
    apply validate_unknown earlier (later ++ s.severity.map Prod.fst) _ hearlier htitle
    rw [titles, hlisted]
    simp
  · intro hlisted hunknown
    obtain ⟨entry, hentry, hnot⟩ := hunknown
    obtain ⟨earlier, title, later, hkeys, hearlier, htitle⟩ :=
      exists_first_unknown ⟨entry.1, List.mem_map_of_mem hentry, hnot⟩
    obtain ⟨found, hfound, rfl⟩ : ∃ found ∈ s.severity, found.1 = title := by
      apply List.mem_map.mp
      rw [hkeys]
      simp
    refine ⟨found, hfound, htitle, ?_⟩
    apply validate_unknown (s.enabled ++ s.disabled ++ earlier) later _ _ htitle
    · rw [titles, hkeys]
      simp
    · exact List.forall_mem_append.mpr ⟨hlisted, hearlier⟩
  · intro hknown
    refine ⟨?_, ?_⟩
    · intro hcollide
      obtain ⟨r, hr⟩ := exists_leastContested hknown (mt overrideKeys_nodup_iff.mp hcollide)
      refine ⟨r, hr, fun entries hperm => ?_⟩
      apply validate_leastContested _ (hr.withOverrides hperm)
      intro t ht
      have htitles : (s.withOverrides entries).titles.Perm s.titles := (hperm.map Prod.fst).append_left _
      exact hknown t (htitles.mem_iff.mp ht)
    · intro hdistinct hbad
      exact validate_bad hknown (overrideKeys_nodup_iff.mpr hdistinct) hbad

end SqlSmell.Selection
