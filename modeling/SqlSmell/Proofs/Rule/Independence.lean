import SqlSmell.Proofs.Rule.Overrides

/- Rules do not depend on each other. Disabling more of them takes their own diagnostics away and leaves all
   others as they are and where they are (`evaluate_disable`), and the number of rules that run drops by those
   that ran until then (`enabledCount_disable`). A choice of rules is read through the titles that its lists
   name, so the lists may be put in other words without any effect (`Relisted`, `Relisted.isEnabled_eq`). -/
namespace SqlSmell

open Text (EqUpToCase sameTitle sameTitle_iff)

namespace Selection

/-! ## Lists of titles -/

/-- The list holds the title, in some case. -/
def Names (titles : List String) (title : String) : Prop := ∃ t ∈ titles, EqUpToCase t title

theorem lists_iff {titles : List String} {title : String} :
    lists titles title = true ↔ Names titles title := by
  rw [lists, List.any_eq_true]
  simp only [sameTitle_iff, Names]

instance (titles : List String) (title : String) : Decidable (Names titles title) :=
  decidable_of_iff (lists titles title = true) lists_iff

/-- The same titles in other words: in another order, given more often or less often, or in another case. -/
inductive Relisted : List String → List String → Prop
  | reordered {titles titles' : List String} (h : titles.Perm titles') : Relisted titles titles'
  | again {title : String} {titles : List String} (h : title ∈ titles) : Relisted titles (title :: titles)
  | respelled {titles titles' : List String} (h : List.Forall₂ EqUpToCase titles titles') :
    Relisted titles titles'
  | symm {titles titles' : List String} (h : Relisted titles titles') : Relisted titles' titles
  | trans {first second third : List String} (h : Relisted first second) (h' : Relisted second third) :
    Relisted first third

theorem sameTitle_congr {s t : String} (h : EqUpToCase s t) (title : String) :
    sameTitle s title = sameTitle t title := by
  rw [Bool.eq_iff_iff, Text.sameTitle_eq_true_iff, Text.sameTitle_eq_true_iff, Text.eqUpToCase_iff.mp h]

theorem lists_respelled {titles titles' : List String} (h : List.Forall₂ EqUpToCase titles titles')
    (title : String) : lists titles title = lists titles' title := by
  induction h with
  | nil => rfl
  | cons hsame _ ih =>
    show (sameTitle _ title || lists _ title) = (sameTitle _ title || lists _ title)
    rw [sameTitle_congr hsame, ih]

/-- Other words name the same titles. -/
theorem Relisted.names_iff {titles titles' : List String} (h : Relisted titles titles') (title : String) :
    Names titles title ↔ Names titles' title := by
  induction h with
  | reordered hperm => simp only [Names, hperm.mem_iff]
  | again hmem =>
    refine ⟨?_, ?_⟩
    · intro hnamed
      obtain ⟨t, ht, hsame⟩ := hnamed
      exact ⟨t, List.mem_cons_of_mem _ ht, hsame⟩
    · intro hnamed
      obtain ⟨t, ht, hsame⟩ := hnamed
      rcases List.mem_cons.mp ht with rfl | ht
      · exact ⟨t, hmem, hsame⟩
      · exact ⟨t, ht, hsame⟩
  | respelled hspelled => rw [← lists_iff, ← lists_iff, lists_respelled hspelled]
  | symm _ ih => exact ih.symm
  | trans _ _ ih ih' => exact ih.trans ih'

theorem eq_nil_iff_not_names {titles : List String} : titles = [] ↔ ∀ title, ¬ Names titles title := by
  refine ⟨?_, ?_⟩
  · intro h title hnamed
    obtain ⟨t, ht, -⟩ := hnamed
    rw [h] at ht
    exact List.not_mem_nil ht
  · intro h
    apply List.eq_nil_iff_forall_not_mem.mpr
    intro t ht
    exact h t ⟨t, ht, .refl t⟩

/-! ## Which rules run -/

/-- A rule runs if it is asked for, by name or because none is, and not disabled. -/
theorem isEnabled_iff {s : Selection} {title : String} :
    s.isEnabled title = true ↔
      (s.enabled = [] ∨ Names s.enabled title) ∧ ¬ Names s.disabled title := by
  rw [isEnabled, Bool.and_eq_true, Bool.or_eq_true, List.isEmpty_iff, Bool.not_eq_true', ← lists_iff,
    ← lists_iff, Bool.not_eq_true]

theorem isEnabled_disable (s : Selection) (titles : List String) (title : String) :
    (s.disable titles).isEnabled title = (s.isEnabled title && !lists titles title) := by
  have hlists : lists (s.disabled ++ titles) title = (lists s.disabled title || lists titles title) :=
    List.any_append
  show ((s.enabled.isEmpty || lists s.enabled title) && !lists (s.disabled ++ titles) title) = _
  rw [hlists, Bool.not_or, ← Bool.and_assoc]
  rfl

theorem Relisted.isEnabled_eq {s : Selection} {enabled disabled : List String}
    (h : Relisted s.enabled enabled) (h' : Relisted s.disabled disabled) (title : String) :
    ({ s with enabled := enabled, disabled := disabled } : Selection).isEnabled title =
      s.isEnabled title := by
  rw [Bool.eq_iff_iff, isEnabled_iff, isEnabled_iff]
  show (enabled = [] ∨ Names enabled title) ∧ ¬ Names disabled title ↔ _
  have hempty : enabled = [] ↔ s.enabled = [] := by
    rw [eq_nil_iff_not_names, eq_nil_iff_not_names]
    exact forall_congr' fun t => not_congr (h.names_iff t).symm
  rw [hempty, h.names_iff title, h'.names_iff title]

end Selection

namespace Registry

open Selection (Names Relisted lists lists_iff)

theorem contains_iff {g : Registry} {title : String} : g.contains title = true ↔ Names g.titles title := by
  rw [contains, Option.isSome_iff_exists, Names, titles]
  simp [get?_eq_some_iff]

/-! ## What rules report -/

section
variable (g : Registry) (s : Selection) (titles : List String)

/-- Disabling rules takes away their diagnostics and no others. -/
theorem evaluate_disable (sql : String) :
    g.evaluate (s.disable titles) sql =
      (g.evaluate s sql).filter fun d => ¬ Names titles d.title := by
  have hkept : ∀ title, decide (¬ Names titles title) = !lists titles title := by
    intro title
    rw [Bool.eq_iff_iff, decide_eq_true_iff, ← lists_iff]
    simp
  calc g.evaluate (s.disable titles) sql
      = ((g.rules.filter fun r => s.isEnabled r.title).filter fun r => !lists titles r.title).filterMap
          fun r => r.check sql (effectiveSeverity s r) := by
        rw [List.filter_filter]
        simp only [evaluate, Selection.isEnabled_disable, Bool.and_comm]
        rfl
    _ = (g.evaluate s sql).filter fun d => !lists titles d.title :=
        filterMap_filter_title (fun _ _ => check_title) (fun title => !lists titles title) _
    _ = (g.evaluate s sql).filter fun d => ¬ Names titles d.title := by
        simp only [hkept]

/-- The rules that still run and those that ran until they were disabled are those that ran. -/
theorem enabledCount_disable :
    g.enabledCount (s.disable titles) +
      g.rules.countP (fun r => s.isEnabled r.title && decide (Names titles r.title)) =
      g.enabledCount s := by
  have hnamed : ∀ title, decide (Names titles title) = lists titles title := by
    intro title
    rw [Bool.eq_iff_iff, decide_eq_true_iff, lists_iff]
  have hsplit := List.countP_eq_countP_filter_add g.rules (fun r => s.isEnabled r.title)
    fun r => lists titles r.title
  rw [List.countP_filter, List.countP_filter] at hsplit
  simp only [enabledCount, Selection.isEnabled_disable, hnamed]
  omega

end

/-- **Rules are independent.** Whatever rules are registered and chosen: with more titles disabled, a
    statement keeps its diagnostics, in order and unchanged, except for those of these titles, and the number
    of rules that run drops by those of these titles that ran. No diagnostic depends on the order, the
    repetitions or the case of the titles that are enabled and disabled. -/
theorem evaluate_independent (g : Registry) (s : Selection) :
    (∀ titles,
      (∀ sql, g.evaluate (s.disable titles) sql =
        (g.evaluate s sql).filter fun d => ¬ Names titles d.title) ∧
      g.enabledCount (s.disable titles) +
        g.rules.countP (fun r => s.isEnabled r.title && decide (Names titles r.title)) =
        g.enabledCount s) ∧
    ∀ enabled disabled, Relisted s.enabled enabled → Relisted s.disabled disabled →
      ∀ sql, g.evaluate { s with enabled := enabled, disabled := disabled } sql = g.evaluate s sql := by
  refine ⟨fun titles => ⟨evaluate_disable g s titles, enabledCount_disable g s titles⟩, ?_⟩
  intro enabled disabled henabled hdisabled sql
  have hagrees : ({ s with enabled := enabled, disabled := disabled } : Selection).Agrees s :=
    ⟨henabled.isEnabled_eq hdisabled, fun _ => rfl⟩
  exact hagrees.evaluate_eq g sql

/-- A list of rules to run, put in another order and case and with one title twice. -/
theorem evaluate_independent_relisted :
    ∃ g, Registry.empty.registerAll [⟨⟨"Loud", "", .error, .query⟩, .custom fun _ => true⟩,
        ⟨⟨"Quiet", "", .info, .query⟩, .custom fun _ => true⟩] = .ok g ∧
      (g.evaluate ⟨["Loud", "Quiet"], ["LOUD"], []⟩ "select 1").map Diagnostic.title = ["Quiet"] ∧
      g.evaluate ⟨["quiet", "quiet", "LOUD"], ["loud"], []⟩ "select 1" =
        g.evaluate ⟨["Loud", "Quiet"], ["LOUD"], []⟩ "select 1" := by
  refine ⟨_, rfl, by decide, ?_⟩
  have hcase : ∀ s t, sameTitle s t = true → EqUpToCase s t := fun _ _ => sameTitle_iff.mp
  refine (evaluate_independent _ ⟨["Loud", "Quiet"], ["LOUD"], []⟩).2 _ _ ?_ ?_ "select 1"
  · have hspelled : Relisted ["Loud", "Quiet"] ["LOUD", "quiet"] :=
      .respelled (.cons (hcase _ _ (by decide)) (.cons (hcase _ _ (by decide)) .nil))
    have hordered : Relisted ["LOUD", "quiet"] ["quiet", "LOUD"] := .reordered (.swap _ _ _)
    exact (hspelled.trans hordered).trans (.again List.mem_cons_self)
  · exact .respelled (.cons (hcase _ _ (by decide)) .nil)

end Registry

end SqlSmell
