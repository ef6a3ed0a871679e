import SqlSmell.Command.Check
import SqlSmell.Proofs.Report

/- A check of several inputs. What a check does falls into a plan, which depends on the request and the
   settings but on no input, the loading of the inputs one after the other, and a report on all their
   statements (`check_eq`). Loading and reporting both distribute over lists of inputs, so a check of
   files and then of others is the check of the former followed by that of the latter
   (`check_append`). -/
namespace SqlSmell.Command

/-! ## Plans -/

/-- What a check needs to know to report on statements. -/
structure Plan where
  registry : Registry
  selection : Selection
  /-- The least severity that is shown. -/
  least : Option Severity
  options : Render.Options

/-- The plan of a request under some settings. -/
def plan (request : CheckRequest) (settings : Settings) : Except Error Plan := do
  let registry ← Registry.baseline
  let selection := settings.rules.disable request.disable
  selection.validate registry
  let least ← leastSeverity request settings
  return ⟨registry, selection, least,
    outputOptions request.format request.verbose request.noColor settings.output⟩

/-- The report on statements. -/
def Plan.report (p : Plan) (statements : List Statement) : Report :=
  match p.least with
  | some s => (p.registry.analyze p.selection statements).atLeast s
  | none => p.registry.analyze p.selection statements

/-- The outcome for statements. -/
def Plan.outcome (p : Plan) (statements : List Statement) : CheckOutcome :=
  ⟨(p.report statements).exitCode, Render.report p.options (p.report statements), p.report statements⟩

/-- A check makes its plan, loads its inputs, and reports. -/
theorem check_eq (files : Files) (stdin : ByteArray) (request : CheckRequest) (settings : Settings) :
    check files stdin request settings = do
      let p ← plan request settings
      let statements ← loadInputs files request.delimiter settings.output.maxStatementLength stdin
        request.inputs
      return p.outcome statements := by
  simp only [check, plan, bind_assoc, pure_bind]
  rfl

theorem Plan.report_append (p : Plan) (xs ys : List Statement) :
    p.report (xs ++ ys) = (p.report xs).join (p.report ys) := by
  rw [report, report, report, Registry.analyze_append]
  cases p.least with
  | none => rfl
  | some s => exact Report.atLeast_join _ _ s

theorem Plan.report_ruleCount (p : Plan) (xs ys : List Statement) :
    (p.report xs).ruleCount = (p.report ys).ruleCount := by
  simp only [report, Registry.analyze_eq]
  cases p.least <;> rfl

/-! ## Inputs -/

/-- Files are loaded one after the other, and leave standard input alone. -/
theorem loadInputs_append (files : Files) (delimiter : Char) (limit : Nat) (stdin : ByteArray)
    {paths : List String} (h : "-" ∉ paths) (paths' : List String) :
    loadInputs files delimiter limit stdin (paths ++ paths') = do
      let first ← loadInputs files delimiter limit stdin paths
      let others ← loadInputs files delimiter limit stdin paths'
      return first ++ others := by
  induction paths with
  | nil => exact (bind_pure (loadInputs files delimiter limit stdin paths')).symm
  | cons path paths ih =>
    rw [List.mem_cons, not_or] at h
    have hstdin : stdinAfter path stdin = stdin := by simp [stdinAfter, Ne.symm h.1]
    simp only [List.cons_append, loadInputs, hstdin, ih h.2, bind_assoc, pure_bind, List.append_assoc]

/-- How the outcome on some inputs and then on others comes from those on either: the first failure
    counts, and without one the findings follow each other, statements add up, the rules are the same, and
    the exit code is the greater one. -/
def Joined : (first second whole : Except Error CheckOutcome) → Prop
  | .error e, _, whole => whole = .error e
  | .ok _, .error e, whole => whole = .error e
  | .ok a, .ok b, whole => ∃ o, whole = .ok o ∧
      o.report.findings = a.report.findings ++ b.report.findings ∧
      o.report.statementCount = a.report.statementCount + b.report.statementCount ∧
      o.report.ruleCount = a.report.ruleCount ∧ o.report.ruleCount = b.report.ruleCount ∧
      o.exitCode = max a.exitCode b.exitCode

theorem joined_outcome (p : Plan) (xs ys : List Statement) :
    Joined (.ok (p.outcome xs)) (.ok (p.outcome ys)) (.ok (p.outcome (xs ++ ys))) := by
  have hreport : (p.outcome (xs ++ ys)).report = (p.report xs).join (p.report ys) := p.report_append xs ys
  have hexit : (p.outcome (xs ++ ys)).exitCode = max (p.report xs).exitCode (p.report ys).exitCode := by
    rw [← Report.exitCode_join, ← hreport]
    rfl
  refine ⟨_, rfl, ?_, ?_, ?_, ?_, hexit⟩
  · rw [hreport]; rfl
  · rw [hreport]; rfl
  · exact p.report_ruleCount (xs ++ ys) xs
  · exact p.report_ruleCount (xs ++ ys) ys

/-- **Checks of files compose.** A check of files and then of others comes from the checks of either, for
    every request and all settings. -/
theorem check_append (files : Files) (stdin : ByteArray) (request : CheckRequest) (settings : Settings)
    {paths paths' : List String} (hne : paths ≠ []) (hne' : paths' ≠ []) (h : "-" ∉ paths) :
    Joined (check files stdin { request with files := paths } settings)
      (check files stdin { request with files := paths' } settings)
      (check files stdin { request with files := paths ++ paths' } settings) := by
  have hinputs : ∀ names : List String, names ≠ [] →
      ({ request with files := names } : CheckRequest).inputs = names := by
    intro names hnames
    simp [CheckRequest.inputs, hnames]
  have hboth : paths ++ paths' ≠ [] := by simp [hne]
  rw [check_eq, check_eq, check_eq, hinputs _ hne, hinputs _ hne', hinputs _ hboth,
    loadInputs_append _ _ _ _ h]
  change Joined (plan request settings >>= _) (plan request settings >>= _) (plan request settings >>= _)
  cases plan request settings with
  | error e => rfl
  | ok p =>
    cases loadInputs files request.delimiter settings.output.maxStatementLength stdin paths with
    | error e => rfl
    | ok xs =>
      cases loadInputs files request.delimiter settings.output.maxStatementLength stdin paths' with
      | error e => rfl
      | ok ys => exact joined_outcome p xs ys

/-- A file with an error, and a file with a warning in its second statement. -/
theorem check_append_two_files :
    ∃ (files : Files) (request : CheckRequest),
      (check files .empty { request with files := ["a.sql"] } .default).toOption.map
        CheckOutcome.exitCode = some 2 ∧
      (check files .empty { request with files := ["b.sql"] } .default).toOption.map
        CheckOutcome.exitCode = some 1 ∧
      Joined (check files .empty { request with files := ["a.sql"] } .default)
        (check files .empty { request with files := ["b.sql"] } .default)
        (check files .empty { request with files := ["a.sql"] ++ ["b.sql"] } .default) := by
  refine ⟨⟨fun _ => true, fun path =>
      .ok (if path == "a.sql" then "SELECT * FROM t" else "select 1; create table t (a int)").toUTF8⟩,
    ⟨[], .text, ';', some .warning, [], false, true⟩, by decide +kernel, by decide +kernel, ?_⟩
  apply check_append <;> decide

end SqlSmell.Command
