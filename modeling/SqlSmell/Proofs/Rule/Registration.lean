import SqlSmell.Proofs.Rule.Registry

/- Registries under any sequence of registrations. A registration answers with an error exactly if the title is
   taken, up to case, and then leaves the registry as it is; otherwise the rule is appended under its
   key (`register_cases`). So a sequence of them leaves the rules that were not refused, in order
   (`registered_rules`), and a title is taken exactly if some call had it (`taken_registered_iff`). What can be
   looked up and reported follows from the keys being different (`registration_history`). -/
namespace SqlSmell.Registry

open Text (EqUpToCase eqUpToCase_iff asciiLower)

/-- The registry behind a sequence of registrations, whatever they answer. -/
def registered (g : Registry) (calls : List Rule) : Registry := calls.foldl (fun g r => (g.register r).1) g

/-- The rules of a sequence of registrations that are not refused. -/
def accepted (g : Registry) : List Rule → List Rule
  | [] => []
  | r :: calls =>
    match g.register r with
    | (g', .ok ()) => r :: accepted g' calls
    | (g', .error _) => accepted g' calls

/-! ## One registration -/

/-- A registration is refused and changes nothing, or appends the rule. -/
theorem register_cases (g : Registry) (r : Rule) :
    (g.register r = (g, .error (.duplicateRule r.title)) ∧ ∃ s ∈ g.rules, EqUpToCase s.title r.title) ∨
    (∃ g', g.register r = (g', .ok ()) ∧ g'.entries = g.entries ++ [(asciiLower r.title, r)]) ∧
      ¬ ∃ s ∈ g.rules, EqUpToCase s.title r.title := by
  rw [← mem_keys_iff]
  by_cases h : asciiLower r.title ∈ g.keys
  · exact .inl ⟨dif_pos h, h⟩
  · exact .inr ⟨⟨g.insert r h, dif_neg h, rfl⟩, h⟩

section
variable {g g' : Registry} {r : Rule}

theorem rules_of_entries (h : g'.entries = g.entries ++ [(asciiLower r.title, r)]) :
    g'.rules = g.rules ++ [r] := by
  simp [rules, h]

theorem register_error_iff :
    (∃ e, (g.register r).2 = .error e) ↔ ∃ s ∈ g.rules, EqUpToCase s.title r.title := by
  rcases register_cases g r with ⟨hrefused, htaken⟩ | ⟨⟨g', hok, -⟩, hfree⟩
  · rw [hrefused]
    exact iff_of_true ⟨_, rfl⟩ htaken
  · rw [hok]
    refine iff_of_false ?_ hfree
    intro h
    obtain ⟨e, he⟩ := h
    cases he

theorem register_of_error {e : Error} (h : (g.register r).2 = .error e) :
    (g.register r).1 = g ∧ e = .duplicateRule r.title := by
  rcases register_cases g r with ⟨hrefused, -⟩ | ⟨⟨g', hok, -⟩, -⟩
  · rw [hrefused] at h ⊢
    cases h
    exact ⟨rfl, rfl⟩
  · rw [hok] at h
    cases h

theorem register_of_ok (h : (g.register r).2 = .ok ()) :
    (g.register r).1.entries = g.entries ++ [(asciiLower r.title, r)] := by
  rcases register_cases g r with ⟨hrefused, -⟩ | ⟨⟨g', hok, hentries⟩, -⟩
  · rw [hrefused] at h
    cases h
  · rw [hok]
    exact hentries

end

/-! ## Sequences of registrations -/

theorem registered_rules (calls : List Rule) (g : Registry) :
    (g.registered calls).rules = g.rules ++ accepted g calls := by
  induction calls generalizing g with
  | nil => exact (List.append_nil g.rules).symm
  | cons r calls ih =>
    have hstep : g.registered (r :: calls) = (g.register r).1.registered calls := rfl
    rw [hstep, ih, accepted]
    rcases register_cases g r with ⟨hrefused, -⟩ | ⟨⟨g', hok, hentries⟩, -⟩
    · rw [hrefused]
    · rw [hok, rules_of_entries hentries, List.append_assoc]
      rfl

/-- A title is taken behind a registration if it was before, or if it is the rule's own. -/
theorem taken_register_iff (g : Registry) (r : Rule) (title : String) :
    (∃ s ∈ (g.register r).1.rules, EqUpToCase s.title title) ↔
      (∃ s ∈ g.rules, EqUpToCase s.title title) ∨ EqUpToCase r.title title := by
  rcases register_cases g r with ⟨hrefused, s, hs, hsame⟩ | ⟨⟨g', hok, hentries⟩, -⟩
  · -- the rule is refused for a rule of the same title
    rw [hrefused]
    refine ⟨.inl, ?_⟩
    intro h
    rcases h with h | h
    · exact h
    · exact ⟨s, hs, eqUpToCase_iff.mpr ((eqUpToCase_iff.mp hsame).trans (eqUpToCase_iff.mp h))⟩
  · rw [hok, rules_of_entries hentries]
    simp [or_and_right, exists_or]

/-- The titles that are taken are those of all calls, refused ones included. -/
theorem taken_registered_iff (calls : List Rule) (g : Registry) (title : String) :
    (∃ s ∈ (g.registered calls).rules, EqUpToCase s.title title) ↔
      (∃ s ∈ g.rules, EqUpToCase s.title title) ∨ ∃ s ∈ calls, EqUpToCase s.title title := by
  induction calls generalizing g with
  | nil => simp [registered]
  | cons r calls ih =>
    have hstep : g.registered (r :: calls) = (g.register r).1.registered calls := rfl
    rw [hstep, ih, taken_register_iff, or_assoc]
    simp

/-! ## Evaluating -/

theorem titles_pairwise (g : Registry) : g.titles.Pairwise fun s t => ¬ EqUpToCase s t := by
  have hkeys : g.keys.Nodup := g.distinct
  rw [keys_eq_titles, List.Nodup, List.pairwise_map] at hkeys
  simpa only [eqUpToCase_iff] using hkeys

theorem filterMap_check_titles (rules : List Rule) (sql : String) (severity : Rule → Severity) :
    ((rules.filterMap fun r => r.check sql (severity r)).map Diagnostic.title).Sublist
      (rules.map Rule.title) := by
  induction rules with
  | nil => exact .slnil
  | cons r rules ih =>
    rw [List.filterMap_cons, List.map_cons]
    cases h : r.check sql (severity r) with
    | none => exact ih.cons _
    | some d =>
      show (d.title :: _).Sublist _
      rw [check_title h]
      exact ih.cons_cons _

/-- The rules that report are some of the rules, in order. -/
theorem evaluate_titles (g : Registry) (selection : Selection) (sql : String) :
    ((g.evaluate selection sql).map Diagnostic.title).Sublist g.titles :=
  (filterMap_check_titles _ sql _).trans (List.filter_sublist.map Rule.title)

theorem evaluate_count_le (g : Registry) (selection : Selection) (sql title : String) :
    (g.evaluate selection sql).countP (fun d => d.title == title) ≤ 1 := by
  have hnodup := (titles_nodup g).sublist (evaluate_titles g selection sql)
  have hcount := List.nodup_iff_count_le_one.mp hnodup title
  rwa [List.count_eq_countP, List.countP_map] at hcount

/-- **What a history of registrations leaves.** Whatever rules are registered, refused ones included: the
    titles are different up to case, and the keys are the titles in small letters; the rules stand in the order
    in which they were accepted; the next registration is refused exactly if its title is taken, which is to
    say if a rule of that title was registered before, and then it leaves the registry as it is; a title is
    looked up to the one rule of that title, if there is one; and every evaluation reports each rule at
    most once, in order. -/
theorem registration_history (calls : List Rule) :
    let g := empty.registered calls
    (g.titles.Pairwise fun s t => ¬ EqUpToCase s t) ∧
    g.keys = g.titles.map asciiLower ∧
    g.rules = accepted empty calls ∧
    (∀ r, ((∃ e, (g.register r).2 = .error e) ↔ ∃ s ∈ g.rules, EqUpToCase s.title r.title) ∧
      ((∃ s ∈ g.rules, EqUpToCase s.title r.title) ↔ ∃ s ∈ calls, EqUpToCase s.title r.title) ∧
      (∀ e, (g.register r).2 = .error e → (g.register r).1 = g ∧ e = .duplicateRule r.title) ∧
      ((g.register r).2 = .ok () → (g.register r).1.entries = g.entries ++ [(asciiLower r.title, r)])) ∧
    (∀ title r, g.get? title = some r ↔ r ∈ g.rules ∧ EqUpToCase r.title title) ∧
    (∀ title, g.get? title = none ↔ ∀ r ∈ g.rules, ¬ EqUpToCase r.title title) ∧
    ∀ selection sql, ((g.evaluate selection sql).map Diagnostic.title).Sublist g.titles ∧
      ∀ r ∈ g.rules, (g.evaluate selection sql).countP (fun d => d.title == r.title) ≤ 1 := by
  intro g
  refine ⟨titles_pairwise g, keys_eq_titles g, registered_rules calls empty, ?_, get?_eq_some_iff g,
    get?_eq_none_iff g, ?_⟩
  · intro r
    refine ⟨register_error_iff, ?_, fun _ => register_of_error, register_of_ok⟩
    have hnone : ¬ ∃ s ∈ empty.rules, EqUpToCase s.title r.title := by
      intro h
      obtain ⟨s, hs, -⟩ := h
      exact List.not_mem_nil hs
    exact (taken_registered_iff calls empty r.title).trans (or_iff_right hnone)
  · intro selection sql
    exact ⟨evaluate_titles g selection sql, fun r _ => evaluate_count_le g selection sql r.title⟩

end SqlSmell.Registry
