import SqlSmell.Report

/- Reports put together. An analysis reports what is found in each statement, in order, and leaves out
   statements without diagnostics (`analyze_eq`). The report on two lists of statements is that on the first
   followed by that on the second (`analyze_append`), before and after the diagnostics below a severity are
   taken out (`atLeast_join`), and its exit code is the greater of the two (`exitCode_join`): an exit code
   is the rank of the gravest diagnostic, zero without any (`exitCode_eq`). -/
namespace SqlSmell

/-! ## Exit codes -/

namespace Severity

theorem rank_max (a b : Severity) : (a.max b).rank = Max.max a.rank b.rank := by
  cases a <;> cases b <;> rfl

end Severity

namespace Report

/-- The greatest rank of a diagnostic. -/
def topRank (ds : List Diagnostic) : Nat := (ds.map fun d => d.severity.rank).foldl max 0

theorem foldl_max_eq (ranks : List Nat) (n : Nat) : ranks.foldl max n = max n (ranks.foldl max 0) := by
  induction ranks generalizing n with
  | nil => simp
  | cons m ranks ih =>
    rw [List.foldl_cons, List.foldl_cons, ih (max n m), ih (max 0 m)]
    omega

theorem topRank_append (ds es : List Diagnostic) : topRank (ds ++ es) = max (topRank ds) (topRank es) := by
  rw [topRank, List.map_append, List.foldl_append, foldl_max_eq]
  rfl

theorem topRank_cons (d : Diagnostic) (ds : List Diagnostic) :
    topRank (d :: ds) = max d.severity.rank (topRank ds) :=
  topRank_append [d] ds

theorem rank_foldl_max (ds : List Diagnostic) (s : Severity) :
    (ds.foldl (fun s d => s.max d.severity) s).rank = max s.rank (topRank ds) := by
  induction ds generalizing s with
  | nil => simp [topRank]
  | cons d ds ih =>
    rw [List.foldl_cons, ih, Severity.rank_max, topRank_cons]
    omega

theorem exitCode_of_highest {r : Report} {s : Severity} (h : r.highest = some s) :
    r.exitCode = s.rank := by
  rw [exitCode, h]
  cases s <;> rfl

/-- The exit code is the rank of the gravest diagnostic. -/
theorem exitCode_eq (r : Report) : r.exitCode = topRank r.diagnostics := by
  cases hds : r.diagnostics with
  | nil =>
    have hnone : r.highest = none := by rw [highest, hds]
    rw [exitCode, hnone]
    rfl
  | cons d ds =>
    have hsome : r.highest = some (ds.foldl (fun s d => s.max d.severity) d.severity) := by
      rw [highest, hds]
    rw [exitCode_of_highest hsome, rank_foldl_max, topRank_cons]

/-! ## One report after another -/

/-- The findings of one report and then those of another, of the same rules. -/
def join (r s : Report) : Report where
  findings := r.findings ++ s.findings
  statementCount := r.statementCount + s.statementCount
  ruleCount := r.ruleCount

theorem exitCode_join (r s : Report) : (r.join s).exitCode = max r.exitCode s.exitCode := by
  have hdiagnostics : (r.join s).diagnostics = r.diagnostics ++ s.diagnostics := List.flatMap_append
  rw [exitCode_eq, exitCode_eq, exitCode_eq, hdiagnostics, topRank_append]

theorem atLeast_join (r s : Report) (least : Severity) :
    (r.join s).atLeast least = (r.atLeast least).join (s.atLeast least) := by
  simp only [atLeast, join, List.map_append, List.filter_append]

/-! ## Adding up -/

/-- Without the findings that have no diagnostics. -/
def reported (fs : List Finding) : List Finding := fs.filter fun f => !f.diagnostics.isEmpty

theorem foldl_add (fs : List Finding) (r : Report) :
    fs.foldl add r = { r with findings := r.findings ++ reported fs } := by
  induction fs generalizing r with
  | nil => simp [reported]
  | cons f fs ih =>
    rw [List.foldl_cons, ih, add]
    cases hempty : f.diagnostics.isEmpty <;> simp [reported, hempty]

theorem flatMap_reported (fs : List Finding) :
    (reported fs).flatMap Finding.diagnostics = fs.flatMap Finding.diagnostics := by
  induction fs with
  | nil => rfl
  | cons f fs ih =>
    cases hds : f.diagnostics with
    | nil => simpa [reported, hds] using ih
    | cons d ds => simpa [reported, hds] using ih

end Report

namespace Registry

variable (g : Registry) (selection : Selection)

/-- The statements with findings, in order. -/
theorem analyze_eq (statements : List Statement) :
    g.analyze selection statements =
      ⟨Report.reported (statements.map (g.finding selection)), statements.length,
        g.enabledCount selection⟩ := by
  rw [analyze, Report.foldl_add]
  rfl

theorem diagnostics_analyze (statements : List Statement) :
    (g.analyze selection statements).diagnostics =
      statements.flatMap fun s => g.evaluate selection s.text := by
  rw [analyze_eq, Report.diagnostics, Report.flatMap_reported, List.flatMap_map]
  rfl

theorem analyze_append (xs ys : List Statement) :
    g.analyze selection (xs ++ ys) = (g.analyze selection xs).join (g.analyze selection ys) := by
  simp only [analyze_eq, Report.join, Report.reported, List.map_append, List.filter_append,
    List.length_append]

end Registry

end SqlSmell
