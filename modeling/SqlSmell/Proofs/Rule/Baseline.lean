import SqlSmell.Proofs.Outcome
import SqlSmell.Proofs.Pattern.Phrase
import SqlSmell.Proofs.Rule.Registry
import SqlSmell.Proofs.Text.Find
import SqlSmell.Rule.Baseline

/- What the built-in rules detect. Every built-in rule is well formed and the registry holds them all
   (`baseline_rules`, `exists_baseline`). The rules that look for a pattern report exactly the statements that hold
   certain words (`baseline_reports_iff`): the conditions speak of the text alone, and of every place in
   it. -/
namespace SqlSmell.Baseline

open Pattern

/-- The rule is well formed, has the title and detects the statements of which `P` holds. -/
def Decides (rule : Except Error Rule) (title : String) (P : List Char → Prop) : Prop :=
  ∃ r, rule = .ok r ∧ r.title = title ∧ ∀ sql : String, r.detection.detects sql = true ↔ P sql.toList

/-- The words that open a table definition occur. -/
def Creates (s : List Char) : Prop := "create table".toList <:+: s

/-- A column called `id`: the word stands between a blank, parenthesis or comma and a blank. -/
def NamesId (s : List Char) : Prop :=
  ∃ u before behind v, s = u ++ before :: "id".toList ++ behind :: v ∧
    (Text.isBlank before = true ∨ before = '(' ∨ before = ',') ∧ Text.isBlank behind = true

/-- The titles of the rules that look for a pattern, with what they look for. -/
def conditions : List (String × (List Char → Prop)) :=
  [("SELECT *", Apart "select".toList "*".toList),
    ("Multi-Valued Attribute", fun s => Apart "id".toList "varchar".toList s ∨
      Apart "id".toList "text".toList s ∨ Apart "id".toList "regexp".toList s),
    ("Primary Key Exists", fun s => Creates s ∧ ¬ "primary key".toList <:+: s),
    ("Generic Primary Key", fun s => Creates s ∧ NamesId s),
    ("Foreign Key Exists", fun s => Creates s ∧ ¬ "foreign key".toList <:+: s),
    ("Imprecise Data Type", fun s => Creates s ∧ (StandsAlone "float".toList s ∨
      StandsAlone "real".toList s ∨ StandsAlone "double precision".toList s))]

/-! ## The rules one by one -/

theorem decides_ofPattern {info : RuleInfo} {gate : Gate} {pattern : String} {policy : Policy}
    {r : Regex} {P : List Char → Prop} (hcompile : compile pattern.toList = .ok r.program)
    (h : ∀ sql : String,
      (gate.admits sql && policy.violated (r.program.isFound sql.toList)) = true ↔ P sql.toList) :
    Decides (Rule.ofPattern info gate pattern policy) info.title P := by
  refine ⟨⟨info, .pattern gate ⟨pattern, policy, r.program⟩⟩, ?_, rfl, h⟩
  rw [Rule.ofPattern, Matcher.ofPattern, hcompile]
  rfl

theorem admits_creation_iff (sql : String) :
    Gate.creation.admits sql = true ↔ Creates sql.toList :=
  Text.occurs_iff _ _

theorem selectStar_decides :
    Decides selectStar "SELECT *" (Apart "select".toList "*".toList) := by
  refine decides_ofPattern
    (r := Regex.ofItems (word "select".toList ++ blankRun :: word "*".toList)) rfl fun sql => ?_
  exact isFound_apart_iff _ _ _

theorem multiValuedAttribute_decides :
    Decides multiValuedAttribute "Multi-Valued Attribute" fun s =>
      Apart "id".toList "varchar".toList s ∨ Apart "id".toList "text".toList s ∨
        Apart "id".toList "regexp".toList s := by
  refine decides_ofPattern (r := .alt (Regex.ofItems (word "id".toList ++ blankRun :: word "varchar".toList))
    (.alt (Regex.ofItems (word "id".toList ++ blankRun :: word "text".toList))
      (Regex.ofItems (word "id".toList ++ blankRun :: word "regexp".toList)))) rfl fun sql => ?_
  simp only [Gate.admits, Policy.violated, Bool.true_and]
  rw [isFound_alt_iff, isFound_alt_iff, isFound_apart_iff, isFound_apart_iff, isFound_apart_iff]

theorem missing_decides {info : RuleInfo} {words : String}
    (hcompile : compile words.toList = .ok (Regex.ofItems (word words.toList)).program) :
    Decides (Rule.ofPattern info .creation words .onAbsence) info.title fun s =>
      Creates s ∧ ¬ words.toList <:+: s := by
  refine decides_ofPattern hcompile fun sql => ?_
  rw [Bool.and_eq_true, admits_creation_iff, ← isFound_word_iff]
  simp [Policy.violated]

/-- The characters before the name of a column called `id`. -/
def columnStart : CharSet := .union (.union (.union .none .blank) (.one '(')) (.one ',')

theorem contains_columnStart (c : Char) :
    columnStart.contains c = true ↔ Text.isBlank c = true ∨ c = '(' ∨ c = ',' := by
  have hparen := contains_one (c := '(') (d := c)
  have hcomma := contains_one (c := ',') (d := c)
  simp only [columnStart, CharSet.contains, Bool.or_eq_true, hparen, hcomma, Bool.false_eq_true,
    false_or, or_assoc]

theorem isFound_namesId_iff (s : List Char) :
    (Regex.ofItems (.set columnStart :: (word "id".toList ++ [.set .blank]))).program.isFound s = true ↔
      NamesId s := by
  simp only [isFound_ofItems_iff, MatchesAll, matchesAll_word, matches_set_iff,
    contains_columnStart]
  constructor
  · rintro ⟨u, t, _, rfl, _, ⟨before, t, rfl, hbefore, rfl⟩, t', ht, _, ⟨behind, v, hv, hbehind, rfl⟩, rfl⟩
    have ht : t = "id".toList ++ t' := ht
    have hv : t' = behind :: v := hv
    exact ⟨u, before, behind, v, by simp [ht, hv], hbefore, hbehind⟩
  · rintro ⟨u, before, behind, v, rfl, hbefore, hbehind⟩
    exact ⟨u, before :: ("id".toList ++ behind :: v), _, by simp, _, ⟨before, _, rfl, hbefore, rfl⟩,
      behind :: v, rfl, _, ⟨behind, v, rfl, hbehind, rfl⟩, rfl⟩

theorem genericPrimaryKey_decides :
    Decides genericPrimaryKey "Generic Primary Key" fun s => Creates s ∧ NamesId s := by
  refine decides_ofPattern (r := Regex.ofItems (.set columnStart :: (word "id".toList ++ [.set .blank])))
    rfl fun sql => ?_
  rw [Bool.and_eq_true, admits_creation_iff]
  exact and_congr_right fun _ => isFound_namesId_iff sql.toList

theorem impreciseDataType_decides :
    Decides impreciseDataType "Imprecise Data Type" fun s =>
      Creates s ∧ (StandsAlone "float".toList s ∨ StandsAlone "real".toList s ∨
        StandsAlone "double precision".toList s) := by
  refine decides_ofPattern (r := Regex.ofItems [.anchor .wordBoundary,
    .alt (Regex.ofItems (word "float".toList)) (.alt (Regex.ofItems (word "real".toList))
      (Regex.ofItems (word "double precision".toList))), .anchor .wordBoundary]) rfl fun sql => ?_
  rw [Bool.and_eq_true, admits_creation_iff]
  refine and_congr_right fun _ => ?_
  simp only [Policy.violated]
  rw [isFound_alt_between_iff, isFound_alt_between_iff, isFound_alone_iff (by decide) (by decide),
    isFound_alone_iff (by decide) (by decide), isFound_alone_iff (by decide) (by decide)]

/-! ## The registry -/

/-- The titles of the built-in rules, in order. -/
def titles : List String :=
  ["SELECT *", "Multi-Valued Attribute", "Recursive Dependency", "Primary Key Exists",
    "Generic Primary Key", "Foreign Key Exists", "Imprecise Data Type"]

/-- The registry of the built-in rules exists and holds exactly these. -/
theorem baseline_rules : ∃ g, Registry.baseline = .ok g ∧ rules = .ok g.rules ∧ g.titles = titles := by
  obtain ⟨rs, hrs, htitles⟩ : ∃ rs, rules = .ok rs ∧ rs.map Rule.title = titles := ⟨_, rfl, rfl⟩
  -- only the titles matter for registration, and they are compared without the rules
  have hdistinct : Registry.Distinct (Registry.empty.rules ++ rs) := by
    have hkeys : ((rs.map Rule.title).map Text.asciiLower).Nodup := by
      rw [htitles]
      decide
    rwa [List.map_map] at hkeys
  obtain ⟨g, hg, hrules⟩ := Registry.registerAll_ok rs .empty hdistinct
  have hrules : g.rules = rs := hrules
  refine ⟨g, ?_, by rw [hrules, hrs], by rw [Registry.titles, hrules, htitles]⟩
  rw [Registry.baseline, hrs]
  exact hg

/-- The built-in rules are well formed, and the registry holds them all. -/
theorem exists_baseline : ∃ g, Registry.baseline = .ok g ∧
    ∀ rule ∈ [selectStar, multiValuedAttribute, recursiveDependency, primaryKeyExists,
      genericPrimaryKey, foreignKeyExists, impreciseDataType], ∃ r ∈ g.rules, rule = .ok r := by
  obtain ⟨g, hg, hrules, -⟩ := baseline_rules
  refine ⟨g, hg, ?_⟩
  intro rule hrule
  exact exists_of_mapM_ok hrules hrule

/-- What a rule decides is what the registry reports under its title. -/
theorem Decides.reports_iff {rule : Except Error Rule} {title : String} {P : List Char → Prop}
    (h : Decides rule title P) {g : Registry} (hg : ∃ r ∈ g.rules, rule = .ok r)
    (selection : Selection) (sql : String) :
    g.Reports selection sql title ↔ selection.isEnabled title = true ∧ P sql.toList := by
  obtain ⟨r, rfl, rfl, hdetects⟩ := h
  obtain ⟨s, hs, hrs⟩ := hg
  obtain rfl := Except.ok.inj hrs
  rw [Registry.reports_iff hs, hdetects]

/-- **The rules that look for a pattern.** In the registry of the built-in rules, each of them is
    reported on a statement exactly if it is enabled and the statement meets its condition. -/
theorem baseline_reports_iff : ∃ g, Registry.baseline = .ok g ∧
    ∀ (selection : Selection) (sql : String), ∀ entry ∈ conditions,
      (g.Reports selection sql entry.1 ↔
        selection.isEnabled entry.1 = true ∧ entry.2 sql.toList) := by
  obtain ⟨g, hg, hrules⟩ := exists_baseline
  refine ⟨g, hg, fun selection sql entry hentry => ?_⟩
  simp only [conditions, List.mem_cons, List.not_mem_nil, or_false] at hentry
  rcases hentry with rfl | rfl | rfl | rfl | rfl | rfl
  · exact selectStar_decides.reports_iff (hrules _ (by simp)) selection sql
  · exact multiValuedAttribute_decides.reports_iff (hrules _ (by simp)) selection sql
  · have h : Decides primaryKeyExists "Primary Key Exists" _ := missing_decides rfl
    exact h.reports_iff (hrules _ (by simp)) selection sql
  · exact genericPrimaryKey_decides.reports_iff (hrules _ (by simp)) selection sql
  · have h : Decides foreignKeyExists "Foreign Key Exists" _ := missing_decides rfl
    exact h.reports_iff (hrules _ (by simp)) selection sql
  · exact impreciseDataType_decides.reports_iff (hrules _ (by simp)) selection sql

/-- A word that stands alone is reported although it also occurs inside another one. -/
theorem baseline_reports_real : ∃ entry ∈ conditions, entry.1 = "Imprecise Data Type" ∧
    ∃ g, Registry.baseline = .ok g ∧
      g.Reports .all "create table t (really text, price real)" entry.1 := by
  obtain ⟨g, hg, hreports⟩ := baseline_reports_iff
  refine ⟨_, List.getElem_mem (by decide : 5 < conditions.length), rfl, g, hg, ?_⟩
  refine (hreports .all _ _ (List.getElem_mem _)).mpr ⟨by decide, ?_, .inr (.inl ?_)⟩
  · exact ⟨[], " t (really text, price real)".toList, by decide⟩
  · exact ⟨"create table t (really text, price ".toList, ")".toList, by decide,
      by rintro c ⟨⟩; decide, by rintro c ⟨⟩; decide⟩

end SqlSmell.Baseline
