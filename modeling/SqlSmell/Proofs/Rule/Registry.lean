import Mathlib.Data.List.Nodup
import SqlSmell.Proofs.Text.Letter
import SqlSmell.Rule.Registry

/- What a registry holds and what it reports. Its keys are the titles of its rules in small letters
   (`keys_eq`), and no two are the same, so a look-up by key finds the one rule whose title is the same up to
   case (`get?_eq_some_iff`). Rules of different keys can all be registered, and are kept in
   order (`registerAll_ok`). A rule is reported on a statement exactly if it is enabled and detects something,
   since no other rule has its title (`evaluate_filter_title`). -/
namespace SqlSmell.Registry

open Text (EqUpToCase eqUpToCase_iff asciiLower)

/-- No two of the rules have one key. -/
def Distinct (rules : List Rule) : Prop := (rules.map fun r => asciiLower r.title).Nodup

/-- Some diagnostic of the statement carries the title. -/
def Reports (g : Registry) (selection : Selection) (sql title : String) : Prop :=
  ∃ d ∈ g.evaluate selection sql, d.title = title

/-! ## Keys -/

theorem keys_eq (g : Registry) : g.keys = g.rules.map fun r => asciiLower r.title := by
  rw [keys, rules, List.map_map]
  exact List.map_congr_left g.keyed

theorem keys_eq_titles (g : Registry) : g.keys = g.titles.map asciiLower := by
  rw [keys_eq, titles, List.map_map]
  rfl

theorem mem_keys_iff {g : Registry} {title : String} :
    asciiLower title ∈ g.keys ↔ ∃ r ∈ g.rules, EqUpToCase r.title title := by
  rw [keys_eq, List.mem_map]
  simp only [eqUpToCase_iff]

theorem mem_rules_iff {g : Registry} {r : Rule} : r ∈ g.rules ↔ (asciiLower r.title, r) ∈ g.entries := by
  rw [rules, List.mem_map]
  constructor
  · intro h
    obtain ⟨entry, hentry, rfl⟩ := h
    rwa [← g.keyed entry hentry]
  · intro h
    exact ⟨_, h, rfl⟩

@[simp] theorem insert_rules (g : Registry) (r : Rule) (h : asciiLower r.title ∉ g.keys) :
    (g.insert r h).rules = g.rules ++ [r] := by
  simp [insert, rules]

/-! ## Looking up -/

/-- The keys are different, so the first entry of a key is the only one. -/
theorem lookup_eq_some_iff (g : Registry) (key : String) (r : Rule) :
    g.entries.lookup key = some r ↔ (key, r) ∈ g.entries := by
  rw [List.lookup_eq_some_iff]
  constructor
  · intro h
    obtain ⟨earlier, later, hentries, -⟩ := h
    rw [hentries]
    exact List.mem_append_right earlier List.mem_cons_self
  · intro h
    obtain ⟨earlier, later, hentries⟩ := List.append_of_mem h
    refine ⟨earlier, later, hentries, fun entry hentry => ?_⟩
    have hdistinct := g.distinct
    rw [hentries, List.map_append, List.nodup_append] at hdistinct
    rw [bne_iff_ne]
    exact (hdistinct.2.2 entry.1 (List.mem_map_of_mem hentry) key (by simp)).symm

theorem get?_eq_some_iff (g : Registry) (title : String) (r : Rule) :
    g.get? title = some r ↔ r ∈ g.rules ∧ EqUpToCase r.title title := by
  rw [get?, lookup_eq_some_iff, mem_rules_iff, eqUpToCase_iff]
  constructor
  · intro h
    have hkey := g.keyed _ h
    dsimp only at hkey
    exact ⟨hkey ▸ h, hkey.symm⟩
  · intro h
    exact h.2 ▸ h.1

theorem get?_eq_none_iff (g : Registry) (title : String) :
    g.get? title = none ↔ ∀ r ∈ g.rules, ¬ EqUpToCase r.title title := by
  rw [Option.eq_none_iff_forall_ne_some]
  constructor
  · intro h r hr hsame
    exact h r ((get?_eq_some_iff g title r).mpr ⟨hr, hsame⟩)
  · intro h r hr
    obtain ⟨hmem, hsame⟩ := (get?_eq_some_iff g title r).mp hr
    exact h r hmem hsame

/-- A registered rule is found by its title. -/
theorem get?_title {g : Registry} {r : Rule} (hr : r ∈ g.rules) : g.get? r.title = some r :=
  (get?_eq_some_iff g r.title r).mpr ⟨hr, .refl r.title⟩

/-! ## Registering -/

theorem register_ok {g : Registry} {r : Rule} (h : Distinct (g.rules ++ [r])) :
    ∃ g', g.register r = (g', .ok ()) ∧ g'.rules = g.rules ++ [r] := by
  have hnew : asciiLower r.title ∉ g.keys := by
    intro hkey
    rw [keys_eq] at hkey
    rw [Distinct, List.map_append, List.nodup_append] at h
    exact h.2.2 _ hkey _ (by simp) rfl
  exact ⟨_, dif_neg hnew, insert_rules g r hnew⟩

/-- Rules of different keys are all registered, in order. -/
theorem registerAll_ok (rules : List Rule) (g : Registry) (h : Distinct (g.rules ++ rules)) :
    ∃ g', g.registerAll rules = .ok g' ∧ g'.rules = g.rules ++ rules := by
  induction rules generalizing g with
  | nil => exact ⟨g, rfl, by simp⟩
  | cons r rules ih =>
    rw [List.append_cons] at h
    have hfirst : Distinct (g.rules ++ [r]) := by
      rw [Distinct, List.map_append] at h
      exact h.of_append_left
    obtain ⟨g₁, hg₁, hrules₁⟩ := register_ok hfirst
    obtain ⟨g₂, hg₂, hrules₂⟩ := ih g₁ (by rwa [hrules₁])
    refine ⟨g₂, ?_, by rw [hrules₂, hrules₁, ← List.append_cons]⟩
    rw [registerAll, hg₁]
    exact hg₂

/-! ## Evaluating -/

theorem check_title {r : Rule} {sql : String} {severity : Severity} {d : Diagnostic}
    (h : r.check sql severity = some d) : d.title = r.title := by
  unfold Rule.check at h
  split at h
  · obtain rfl := Option.some.inj h
    rfl
  · contradiction

/-- If diagnostics carry the titles of their rules, to leave out rules by title is to leave out their
    diagnostics. -/
theorem filterMap_filter_title {report : Rule → Option Diagnostic}
    (htitle : ∀ r d, report r = some d → d.title = r.title) (kept : String → Bool) (rules : List Rule) :
    (rules.filter fun r => kept r.title).filterMap report =
      (rules.filterMap report).filter fun d => kept d.title := by
  induction rules with
  | nil => rfl
  | cons r rules ih =>
    rw [List.filter_cons]
    cases hreport : report r with
    | none =>
      rw [List.filterMap_cons_none hreport]
      split
      · rw [List.filterMap_cons_none hreport, ih]
      · exact ih
    | some d =>
      rw [List.filterMap_cons_some hreport, List.filter_cons, htitle r d hreport]
      split
      · rw [List.filterMap_cons_some hreport, ih]
      · exact ih

theorem titles_nodup (g : Registry) : g.titles.Nodup := by
  have hkeys : g.keys.Nodup := g.distinct
  rw [keys_eq_titles] at hkeys
  exact hkeys.of_map _

theorem rules_filter_title {g : Registry} {r : Rule} (hr : r ∈ g.rules) :
    (g.rules.filter fun s => s.title == r.title) = [r] := by
  obtain ⟨earlier, later, hrules⟩ := List.append_of_mem hr
  have hnodup := g.titles_nodup
  rw [titles, hrules, List.map_append, List.map_cons, List.nodup_append, List.nodup_cons] at hnodup
  obtain ⟨-, ⟨hlater, -⟩, hearlier⟩ := hnodup
  have hnone : (earlier.filter fun s => s.title == r.title) = [] := by
    rw [List.filter_eq_nil_iff]
    intro s hs hsame
    exact hearlier _ (List.mem_map_of_mem hs) _ List.mem_cons_self (eq_of_beq hsame)
  have hnone' : (later.filter fun s => s.title == r.title) = [] := by
    rw [List.filter_eq_nil_iff]
    intro s hs hsame
    exact hlater (eq_of_beq hsame ▸ List.mem_map_of_mem hs)
  simp [hrules, hnone, hnone']

/-- A registered rule gives one diagnostic if it is enabled and detects something, and otherwise none. -/
theorem evaluate_filter_title {g : Registry} {r : Rule} (hr : r ∈ g.rules) (selection : Selection)
    (sql : String) :
    ((g.evaluate selection sql).filter fun d => d.title == r.title) =
      if selection.isEnabled r.title then (r.check sql (effectiveSeverity selection r)).toList else [] := by
  rw [evaluate, ← filterMap_filter_title (fun _ _ => check_title) (fun title => title == r.title),
    List.filter_comm, rules_filter_title hr]
  cases henabled : selection.isEnabled r.title with
  | false => simp [henabled]
  | true => cases hcheck : r.check sql (effectiveSeverity selection r) <;> simp [henabled, hcheck]

/-- A registered rule is reported exactly if it is enabled and detects something. -/
theorem reports_iff {g : Registry} {r : Rule} (hr : r ∈ g.rules) (selection : Selection)
    (sql : String) :
    g.Reports selection sql r.title ↔
      selection.isEnabled r.title = true ∧ r.detection.detects sql = true := by
  have hreports : g.Reports selection sql r.title ↔
      ∃ d, d ∈ (g.evaluate selection sql).filter fun d => d.title == r.title := by
    simp only [Reports, List.mem_filter, beq_iff_eq]
  rw [hreports, evaluate_filter_title hr, Rule.check]
  cases selection.isEnabled r.title <;> cases r.detection.detects sql <;> simp

end SqlSmell.Registry
