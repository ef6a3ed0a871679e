import SqlSmell.Proofs.Report

/- A report under any sequence of changes. A change adds a finding or takes out what is below a
   severity, so a threshold acts on what was added before it and not on what comes later. What such a
   history leaves is said without running it: each finding, in the order of addition, with the
   diagnostics that clear all thresholds behind it (`after_findings`). A change keeps the counts and lets
   no empty finding in (`Full.apply`), hence no history does (`after_full`), and the three severities and
   the exit code are read off the diagnostics that are left (`history_outcome`). -/
namespace SqlSmell.Report

inductive Change
  | add (f : Finding)
  /-- Takes out the diagnostics below the severity. -/
  | raise (least : Severity)

/-- What a change does to a report. -/
def apply (r : Report) : Change → Report
  | .add f => r.add f
  | .raise least => r.atLeast least

/-- The report behind a sequence of changes, from an empty one of the given counts. -/
def after (statementCount ruleCount : Nat) (changes : List Change) : Report :=
  changes.foldl apply (.empty statementCount ruleCount)

/-- The severities below which diagnostics are taken out. -/
def thresholds : List Change → List Severity
  | [] => []
  | .add _ :: changes => thresholds changes
  | .raise least :: changes => least :: thresholds changes

/-- The diagnostics that are not below any of the thresholds. -/
def clearing (levels : List Severity) (ds : List Diagnostic) : List Diagnostic :=
  ds.filter fun d => ∀ level ∈ levels, level ≤ d.severity

/-- The findings that are added, each with the diagnostics that clear the thresholds behind it. -/
def added : List Change → List Finding
  | [] => []
  | .add f :: changes =>
    { f with diagnostics := clearing (thresholds changes) f.diagnostics } :: added changes
  | .raise _ :: changes => added changes

/-! ## Cutting down findings -/

def cut (levels : List Severity) (fs : List Finding) : List Finding :=
  fs.map fun f => { f with diagnostics := clearing levels f.diagnostics }

theorem clearing_nil (ds : List Diagnostic) : clearing [] ds = ds := by
  simp [clearing]

theorem clearing_cons (level : Severity) (levels : List Severity) (ds : List Diagnostic) :
    clearing levels (clearing [level] ds) = clearing (level :: levels) ds := by
  unfold clearing
  rw [List.filter_filter]
  apply List.filter_congr
  intro d _
  simp [Bool.and_comm]

theorem cut_nil (fs : List Finding) : cut [] fs = fs := by
  unfold cut
  simp only [clearing_nil]
  exact List.map_id fs

theorem cut_cons (level : Severity) (levels : List Severity) (fs : List Finding) :
    cut levels (cut [level] fs) = cut (level :: levels) fs := by
  simp only [cut, List.map_map, Function.comp_def, clearing_cons]

/-- A finding that is empty stays empty, so those can go before or after a cut. -/
theorem reported_cut_reported (levels : List Severity) (fs : List Finding) :
    reported (cut levels (reported fs)) = reported (cut levels fs) := by
  induction fs with
  | nil => rfl
  | cons f fs ih =>
    by_cases h : f.diagnostics = []
    · have hcut : clearing levels f.diagnostics = [] := by rw [h]; rfl
      have hdrop : reported (f :: fs) = reported fs := by simp [reported, h]
      rw [hdrop, ih]
      simp [reported, cut, hcut]
    · have hkeep : reported (f :: fs) = f :: reported fs := by simp [reported, h]
      rw [hkeep]
      unfold reported cut at ih ⊢
      rw [List.map_cons, List.map_cons, List.filter_cons, List.filter_cons, ih]

/-! ## One change -/

/-- No finding of the report is empty. -/
def Full (r : Report) : Prop := reported r.findings = r.findings

theorem add_findings (r : Report) (f : Finding) :
    (r.add f).findings = r.findings ++ reported [f] := by
  unfold add
  split
  · next h => simp [reported, h]
  · next h => simp [reported, h]

theorem atLeast_findings (r : Report) (least : Severity) :
    (r.atLeast least).findings = reported (cut [least] r.findings) := by
  simp [atLeast, reported, cut, clearing]

theorem reported_append (fs gs : List Finding) : reported (fs ++ gs) = reported fs ++ reported gs :=
  List.filter_append ..

theorem reported_reported (fs : List Finding) : reported (reported fs) = reported fs := by
  unfold reported
  rw [List.filter_filter]
  simp

theorem Full.apply {r : Report} (h : r.Full) (change : Change) : (r.apply change).Full := by
  cases change with
  | add f =>
    show reported (r.add f).findings = (r.add f).findings
    rw [add_findings, reported_append, reported_reported, h]
  | raise least =>
    show reported (r.atLeast least).findings = (r.atLeast least).findings
    rw [atLeast_findings, reported_reported]

theorem apply_counts (r : Report) (change : Change) :
    (r.apply change).statementCount = r.statementCount ∧ (r.apply change).ruleCount = r.ruleCount := by
  cases change with
  | add f =>
    show (r.add f).statementCount = r.statementCount ∧ (r.add f).ruleCount = r.ruleCount
    unfold add
    split <;> exact ⟨rfl, rfl⟩
  | raise least => exact ⟨rfl, rfl⟩

/-! ## A history -/

theorem foldl_apply_counts (changes : List Change) (r : Report) :
    (changes.foldl apply r).statementCount = r.statementCount ∧
      (changes.foldl apply r).ruleCount = r.ruleCount := by
  induction changes generalizing r with
  | nil => exact ⟨rfl, rfl⟩
  | cons change changes ih =>
    obtain ⟨hstatements, hrules⟩ := ih (r.apply change)
    obtain ⟨hstatements', hrules'⟩ := apply_counts r change
    exact ⟨hstatements.trans hstatements', hrules.trans hrules'⟩

/-- What a report holds is cut down by every threshold, and what is added by those behind it. -/
theorem foldl_apply_findings (changes : List Change) (r : Report) (h : r.Full) :
    (changes.foldl apply r).findings =
      reported (cut (thresholds changes) r.findings ++ added changes) := by
  induction changes generalizing r with
  | nil =>
    show r.findings = reported (cut [] r.findings ++ [])
    rw [cut_nil, List.append_nil, h]
  | cons change changes ih =>
    rw [List.foldl_cons, ih _ (h.apply change)]
    cases change with
    | add f =>
      -- an empty finding is not added, but would not survive either
      show reported (cut (thresholds changes) (r.add f).findings ++ added changes) = _
      have hnew : reported (cut (thresholds changes) (reported [f])) =
          reported (cut (thresholds changes) [f]) := reported_cut_reported _ _
      have hsplit : cut (thresholds changes) (r.findings ++ reported [f]) =
          cut (thresholds changes) r.findings ++ cut (thresholds changes) (reported [f]) :=
        List.map_append
      rw [add_findings, hsplit, reported_append, reported_append, hnew, ← reported_append,
        ← reported_append, List.append_assoc]
      rfl
    | raise least =>
      show reported (cut (thresholds changes) (r.atLeast least).findings ++ added changes) =
        reported (cut (least :: thresholds changes) r.findings ++ added changes)
      rw [reported_append, atLeast_findings, reported_cut_reported, cut_cons, reported_append]

theorem empty_full (statementCount ruleCount : Nat) : (empty statementCount ruleCount).Full := rfl

theorem after_findings (statementCount ruleCount : Nat) (changes : List Change) :
    (after statementCount ruleCount changes).findings = reported (added changes) :=
  foldl_apply_findings changes _ (empty_full statementCount ruleCount)

theorem after_full (statementCount ruleCount : Nat) (changes : List Change) :
    (after statementCount ruleCount changes).Full := by
  unfold Full
  rw [after_findings, reported_reported]

/-! ## Severities and exit code -/

theorem count_add_count_add_count (r : Report) :
    r.count .error + r.count .warning + r.count .info = r.diagnostics.length := by
  unfold count
  induction r.diagnostics with
  | nil => rfl
  | cons d ds ih =>
    rw [List.length_cons, ← ih]
    cases hd : d.severity <;> simp [hd] <;> omega

theorem le_topRank_iff {n : Nat} (hn : 0 < n) (ds : List Diagnostic) :
    n ≤ topRank ds ↔ ∃ d ∈ ds, n ≤ d.severity.rank := by
  induction ds with
  | nil => simp [topRank]; omega
  | cons d ds ih =>
    have hmax : n ≤ max d.severity.rank (topRank ds) ↔ n ≤ d.severity.rank ∨ n ≤ topRank ds := by omega
    rw [topRank_cons, hmax, ih]
    simp

theorem topRank_le_two (ds : List Diagnostic) : topRank ds ≤ 2 := by
  induction ds with
  | nil => simp [topRank]
  | cons d ds ih =>
    have hd : d.severity.rank ≤ 2 := by cases d.severity <;> decide
    rw [topRank_cons]
    omega

theorem exitCode_eq_ite (r : Report) :
    r.exitCode = if ∃ d ∈ r.diagnostics, d.severity = .error then 2
      else if ∃ d ∈ r.diagnostics, d.severity = .warning then 1 else 0 := by
  have herror : 2 ≤ topRank r.diagnostics ↔ ∃ d ∈ r.diagnostics, d.severity = .error := by
    rw [le_topRank_iff (by omega)]
    apply exists_congr
    intro d
    cases d.severity <;> simp [Severity.rank]
  have hgrave : 1 ≤ topRank r.diagnostics ↔
      ∃ d ∈ r.diagnostics, d.severity = .warning ∨ d.severity = .error := by
    rw [le_topRank_iff (by omega)]
    apply exists_congr
    intro d
    cases d.severity <;> simp [Severity.rank]
  have hle := topRank_le_two r.diagnostics
  rw [exitCode_eq]
  split
  · next h =>
    have htwo := herror.mpr h
    omega
  · next h =>
    have hless : ¬ 2 ≤ topRank r.diagnostics := mt herror.mp h
    split
    · next hwarning =>
      obtain ⟨d, hd, hsev⟩ := hwarning
      have hone := hgrave.mpr ⟨d, hd, .inl hsev⟩
      omega
    · next hwarning =>
      have hnone : ¬ 1 ≤ topRank r.diagnostics := by
        intro hone
        obtain ⟨d, hd, hsev | hsev⟩ := hgrave.mp hone
        · exact hwarning ⟨d, hd, hsev⟩
        · exact h ⟨d, hd, hsev⟩
      omega

/-- **What a history of a report leaves.** Whatever findings are added and whatever thresholds are set,
    in any order: the findings are those added, in that order, each with the diagnostics that clear the
    thresholds behind it, less those left with none; the counts are the first ones. So no finding is empty,
    the severities add up, and the exit code is 2 with an error, 1 with a warning and no error, else 0. -/
theorem history_outcome (statementCount ruleCount : Nat) (changes : List Change) :
    let r := after statementCount ruleCount changes
    r.findings = (added changes).filter (fun f => !f.diagnostics.isEmpty) ∧
    r.statementCount = statementCount ∧ r.ruleCount = ruleCount ∧
    (∀ f ∈ r.findings, f.diagnostics ≠ []) ∧
    r.count .error + r.count .warning + r.count .info = r.diagnostics.length ∧
    r.exitCode = if ∃ d ∈ r.diagnostics, d.severity = .error then 2
      else if ∃ d ∈ r.diagnostics, d.severity = .warning then 1 else 0 := by
  intro r
  obtain ⟨hstatements, hrules⟩ := foldl_apply_counts changes (empty statementCount ruleCount)
  refine ⟨after_findings statementCount ruleCount changes, hstatements, hrules, ?_,
    count_add_count_add_count r, exitCode_eq_ite r⟩
  intro f hf
  have hfull : reported r.findings = r.findings := after_full statementCount ruleCount changes
  rw [← hfull] at hf
  simpa using (List.mem_filter.mp hf).2

/-- A threshold does not reach what is added behind it. -/
example : (after 2 7 [.add ⟨⟨"a.sql", 1, "x"⟩, [⟨"T", .info, .query, "", "x"⟩]⟩, .raise .error,
    .add ⟨⟨"a.sql", 2, "y"⟩, [⟨"T", .info, .query, "", "y"⟩]⟩]).findings =
      [⟨⟨"a.sql", 2, "y"⟩, [⟨"T", .info, .query, "", "y"⟩]⟩] := by
  decide

end SqlSmell.Report
