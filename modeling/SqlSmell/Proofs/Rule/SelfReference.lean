import SqlSmell.Proofs.Pattern.Successive
import SqlSmell.Proofs.Rule.Baseline
import SqlSmell.Proofs.Text.Blank

/- The rule against tables that refer to themselves. It walks over the successive matches of a keyword
   and compares the text behind each of them with the name of the table being defined. Since the keyword
   does not overlap itself and a name starts with no blank, this misses no reference and takes
   nothing else for one (`recursiveDependency_detects_iff`). -/
namespace SqlSmell.Baseline

open Pattern

/-- The table is referred to by name: the keyword, blanks and the name, with nothing behind it that
    could be part of it. -/
def RefersTo (table s : List Char) : Prop :=
  ∃ u w v, s = u ++ "references".toList ++ w ++ table ++ v ∧ w ≠ [] ∧
    (∀ c ∈ w, Text.isBlank c = true) ∧
    (v = [] ∨ ∃ c v', v = c :: v' ∧
      (Text.isBlank c = true ∨ c = '(' ∨ c = ')' ∨ c = ',' ∨ c = ';'))

theorem isNameChar_of_mem_tableName {sql : String} {c : Char}
    (h : c ∈ (Creation.tableName sql).toList) : Creation.isNameChar c = true := by
  unfold Creation.tableName at h
  split at h
  · simp at h
  · rw [String.toList_ofList] at h
    exact List.mem_takeWhile_imp h

/-- A name of a table has no blanks before it to lose. -/
theorem trimStart_tableName {sql : String} (h : Creation.tableName sql ≠ "") (v : List Char) :
    Text.trimStart ((Creation.tableName sql).toList ++ v) = (Creation.tableName sql).toList ++ v := by
  have hne : (Creation.tableName sql).toList ≠ [] := by simpa using h
  obtain ⟨c, name, hname⟩ := List.exists_cons_of_ne_nil hne
  have hmem : c ∈ (Creation.tableName sql).toList := by simp [hname]
  have hc := isNameChar_of_mem_tableName hmem
  have hblank : Text.isBlank c = false := by
    simp only [Creation.isNameChar, Bool.not_eq_true', Bool.or_eq_false_iff] at hc
    exact hc.1.1
  rw [hname, List.cons_append, Text.trimStart_cons hblank]

theorem keyword_isFoundWith_iff {table : List Char}
    (htable : ∀ v, Text.trimStart (table ++ v) = table ++ v) (s : List Char) :
    (keyword "references".toList).program.isFoundWith (Matcher.startsWithToken table) s = true ↔
      RefersTo table s := by
  rw [Program.isFoundWith_iff (keyword_separate references_unbordered)]
  simp only [matchHere?_keyword_iff, Matcher.startsWithToken_iff]
  constructor
  · rintro ⟨u, t, m, rfl, ⟨blanks, rfl, hne, hblanks, -, -⟩, v, hv, hend⟩
    exact ⟨u, blanks, v, by simp [hv], hne, hblanks, hend⟩
  · -- the name starts with no blank, so these are all the blanks behind the keyword
    rintro ⟨u, blanks, v, rfl, hne, hblanks, hend⟩
    exact ⟨u, "references".toList ++ blanks ++ (table ++ v), ⟨_, table ++ v⟩, by simp,
      ⟨blanks, rfl, hne, hblanks, htable v, rfl⟩, v, rfl, hend⟩

theorem ofTablePattern_ok {info : RuleInfo} {anchor : String} {policy : Policy} {p : Program}
    (hcompile : compile anchor.toList = .ok p) :
    Rule.ofTablePattern info anchor policy = .ok ⟨info, .tableScoped ⟨anchor, policy, p⟩⟩ := by
  rw [Rule.ofTablePattern, Matcher.ofPattern, hcompile]
  rfl

theorem recursiveDependency_ok : ∃ r, recursiveDependency = .ok r ∧ r.title = "Recursive Dependency" ∧
    ∀ sql : String, r.detection.detects sql = true ↔
      Creation.tableName sql ≠ "" ∧ RefersTo (Creation.tableName sql).toList sql.toList := by
  refine ⟨_, ofTablePattern_ok (p := (keyword "references".toList).program) rfl, rfl, fun sql => ?_⟩
  simp only [Detection.detects, Bool.and_eq_true, Matcher.isViolationBefore, Policy.violated,
    Matcher.isFoundBefore, Bool.not_eq_true', ← Bool.not_eq_true, String.isEmpty_iff]
  refine and_congr_right fun hname => ?_
  exact keyword_isFoundWith_iff (trimStart_tableName hname) sql.toList

/-- **References of a table to itself.** The rule against them is built in, and detects one in a statement
    exactly if the statement names a table and refers to that table. -/
theorem recursiveDependency_detects_iff : ∃ g r, Registry.baseline = .ok g ∧
    g.get? "Recursive Dependency" = some r ∧
    ∀ sql : String, r.detection.detects sql = true ↔
      Creation.tableName sql ≠ "" ∧ RefersTo (Creation.tableName sql).toList sql.toList := by
  obtain ⟨g, hg, hrules⟩ := exists_baseline
  obtain ⟨r, hr, hrule⟩ := hrules recursiveDependency (by simp)
  obtain ⟨s, hs, htitle, hdetects⟩ := recursiveDependency_ok
  obtain rfl := Except.ok.inj (hs.symm.trans hrule)
  exact ⟨g, s, hg, htitle ▸ Registry.get?_title hr, hdetects⟩

end SqlSmell.Baseline
