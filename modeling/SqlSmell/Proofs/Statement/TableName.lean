import SqlSmell.Proofs.Text.Blank
import SqlSmell.Proofs.Text.Find
import SqlSmell.Statement

/- The name of the table that a statement defines. It stands behind the first opening of a definition, or
   behind a guard that follows it: the words `if`, `not` and `exists`, each with blanks behind it, the last one
   at the end of the text too. A guard is recognised word by word (`afterWords?_cons_iff`); it is a guard if all
   of it is there (`afterWords?_guardWords_iff`), and with any word missing or ended by something else nothing
   is skipped (`skipGuard_of_not_guarded`). So the name is the longest text without blanks, parentheses and
   semicolons at the place so found (`tableName_names`), and a guard put in front of it makes no difference. -/
namespace SqlSmell.Creation

/-- The character ends a name: a blank, an opening parenthesis or a semicolon. -/
def EndsName (c : Char) : Prop := Text.isBlank c = true ∨ c = '(' ∨ c = ';'

/-- The longest start of the text that holds no character that ends a name. -/
def IsNameOf (s name : List Char) : Prop :=
  name <+: s ∧ (∀ c ∈ name, ¬ EndsName c) ∧
    ∀ p, p <+: s → (∀ c ∈ p, ¬ EndsName c) → p.length ≤ name.length

/-- The three words of a guard, with blanks between them. -/
def IsGuard (guard : List Char) : Prop :=
  ∃ w w' : List Char, guard = "if".toList ++ w ++ "not".toList ++ w' ++ "exists".toList ∧
    (∀ c ∈ w, Text.isBlank c = true) ∧ w ≠ [] ∧ (∀ c ∈ w', Text.isBlank c = true) ∧ w' ≠ []

/-- No blank comes first. -/
def StartsSolid (s : List Char) : Prop := ∀ c, s.head? = some c → Text.isBlank c = false

/-- The text starts with a guard, blanks in front of it or not, and `behind` is what stands behind the guard
    and the blanks that end it. Only the end of the text can stand in for these blanks. -/
def Guarded (s behind : List Char) : Prop :=
  ∃ w guard w' : List Char, s = w ++ guard ++ w' ++ behind ∧ (∀ c ∈ w, Text.isBlank c = true) ∧
    IsGuard guard ∧ (∀ c ∈ w', Text.isBlank c = true) ∧ (w' = [] → behind = []) ∧ StartsSolid behind

/-- The statement names a table: none without an opening; else the one behind the first opening and a
    guard, or, where there is no guard, behind the opening alone. -/
inductive Names (s name : List Char) : Prop
  | none : ¬ opening <:+: s → name = [] → Names s name
  | guarded {front rest behind : List Char} : s = front ++ opening ++ rest →
      Text.IsFirst opening front rest → Guarded rest behind → IsNameOf behind name → Names s name
  | bare {front rest : List Char} : s = front ++ opening ++ rest → Text.IsFirst opening front rest →
      (∀ behind, ¬ Guarded rest behind) → IsNameOf (Text.trimStart rest) name → Names s name

/-! ## Blanks and names -/

theorem startsSolid_trimStart (s : List Char) : StartsSolid (Text.trimStart s) := by
  intro c hc
  have hhead := List.head?_dropWhile_not Text.isBlank s
  rw [show (s.dropWhile Text.isBlank).head? = some c from hc] at hhead
  simpa using hhead

theorem StartsSolid.trimStart_eq {s : List Char} (h : StartsSolid s) : Text.trimStart s = s := by
  cases s with
  | nil => rfl
  | cons c s => exact Text.trimStart_cons (h c rfl)

theorem isNameChar_iff (c : Char) : isNameChar c = true ↔ ¬ EndsName c := by
  simp [isNameChar, EndsName, not_or, and_assoc]

theorem isNameOf_takeWhile (s : List Char) : IsNameOf s (s.takeWhile isNameChar) := by
  refine ⟨List.takeWhile_prefix _, fun c hc => (isNameChar_iff c).mp (List.mem_takeWhile_imp hc), ?_⟩
  intro p hp hname
  obtain ⟨t, rfl⟩ := hp
  rw [List.takeWhile_append_of_pos fun c hc => (isNameChar_iff c).mpr (hname c hc), List.length_append]
  omega

/-- A text has one name only. -/
theorem IsNameOf.eq_takeWhile {s name : List Char} (h : IsNameOf s name) :
    name = s.takeWhile isNameChar := by
  have htake := isNameOf_takeWhile s
  have hlength : name.length = (s.takeWhile isNameChar).length :=
    Nat.le_antisymm (htake.2.2 name h.1 h.2.1) (h.2.2 _ htake.1 htake.2.1)
  exact (List.prefix_of_prefix_length_le h.1 htake.1 hlength.le).eq_of_length hlength

/-! ## Guards -/

theorem atBlankOrEnd_append {w rest : List Char} (hw : ∀ c ∈ w, Text.isBlank c = true)
    (hend : w = [] → rest = []) : atBlankOrEnd (w ++ rest) = true := by
  cases w with
  | nil =>
    rw [hend rfl]
    rfl
  | cons c w => exact hw c List.mem_cons_self

/-- One word, the blanks behind it or the end of the text, and then the other words. -/
theorem afterWords?_cons_iff {word : List Char} {words : List (List Char)} {s t : List Char} :
    afterWords? (word :: words) s = some t ↔
      ∃ w rest, s = word ++ w ++ rest ∧ (∀ c ∈ w, Text.isBlank c = true) ∧ (w = [] → rest = []) ∧
        StartsSolid rest ∧ afterWords? words rest = some t := by
  refine ⟨?_, ?_⟩
  · intro h
    rw [afterWords?] at h
    split at h
    · next behind hbehind =>
      split at h
      · next hend =>
        obtain ⟨w, hw, hblank⟩ := Text.eq_blanks_append_trimStart behind
        refine ⟨w, Text.trimStart behind, ?_, hblank, ?_, startsSolid_trimStart behind, h⟩
        · rw [List.append_assoc, ← hw]
          exact Text.afterStart?_eq_some_iff.mp hbehind
        · -- without blanks, the text can only have ended
          intro hnil
          rw [hnil, List.nil_append] at hw
          cases behind with
          | nil => exact hw.symm
          | cons c behind =>
            have hsolid := startsSolid_trimStart (c :: behind) c (by rw [← hw]; rfl)
            rw [show Text.isBlank c = true from hend] at hsolid
            contradiction
      · contradiction
    · contradiction
  · intro h
    obtain ⟨w, rest, rfl, hblank, hend, hsolid, ht⟩ := h
    rw [afterWords?, List.append_assoc, Text.afterStart?_append]
    simp only [atBlankOrEnd_append hblank hend, if_true]
    rw [Text.trimStart_blanks_append hblank, hsolid.trimStart_eq, ht]

theorem ne_nil_of_word {word w rest : List Char} {t : List Char} (hword : word ≠ [])
    (hrest : rest = word ++ t) (hend : w = [] → rest = []) : w ≠ [] := by
  intro hw
  rw [hend hw] at hrest
  exact hword (List.append_eq_nil_iff.mp hrest.symm).1

/-- The words of a guard are found exactly where one stands. -/
theorem afterWords?_guardWords_iff {s behind : List Char} :
    afterWords? guardWords s = some behind ↔
      ∃ guard w, s = guard ++ w ++ behind ∧ IsGuard guard ∧ (∀ c ∈ w, Text.isBlank c = true) ∧
        (w = [] → behind = []) ∧ StartsSolid behind := by
  refine ⟨?_, ?_⟩
  · intro h
    obtain ⟨w, s₁, rfl, hw, hend, -, h⟩ := afterWords?_cons_iff.mp h
    obtain ⟨w', s₂, hs₁, hw', hend', -, h⟩ := afterWords?_cons_iff.mp h
    obtain ⟨w'', s₃, hs₂, hw'', hend'', hsolid, h⟩ := afterWords?_cons_iff.mp h
    obtain rfl := Option.some.inj h
    have hne : w ≠ [] := ne_nil_of_word (by decide) (hs₁.trans (List.append_assoc _ _ _)) hend
    have hne' : w' ≠ [] := ne_nil_of_word (by decide) (hs₂.trans (List.append_assoc _ _ _)) hend'
    refine ⟨_, w'', ?_, ⟨w, w', rfl, hw, hne, hw', hne'⟩, hw'', hend'', hsolid⟩
    rw [hs₁, hs₂]
    simp only [List.append_assoc]
  · intro h
    obtain ⟨guard, w'', rfl, ⟨w, w', rfl, hw, hne, hw', hne'⟩, hw'', hend, hsolid⟩ := h
    have hnot : StartsSolid ("not".toList ++ (w' ++ ("exists".toList ++ (w'' ++ behind)))) := by
      intro c hc
      obtain rfl : 'n' = c := Option.some.inj hc
      decide
    have hexists : StartsSolid ("exists".toList ++ (w'' ++ behind)) := by
      intro c hc
      obtain rfl : 'e' = c := Option.some.inj hc
      decide
    simp only [List.append_assoc]
    apply afterWords?_cons_iff.mpr
    refine ⟨w, _, (List.append_assoc _ _ _).symm, hw, fun hnil => absurd hnil hne, hnot, ?_⟩
    apply afterWords?_cons_iff.mpr
    refine ⟨w', _, (List.append_assoc _ _ _).symm, hw', fun hnil => absurd hnil hne', hexists, ?_⟩
    apply afterWords?_cons_iff.mpr
    exact ⟨w'', behind, (List.append_assoc _ _ _).symm, hw'', hend, hsolid, rfl⟩

theorem IsGuard.startsSolid {guard : List Char} (h : IsGuard guard) (s : List Char) :
    StartsSolid (guard ++ s) := by
  obtain ⟨w, w', rfl, -⟩ := h
  intro c hc
  obtain rfl : 'i' = c := Option.some.inj hc
  decide

theorem guarded_iff {s behind : List Char} :
    Guarded s behind ↔ afterWords? guardWords (Text.trimStart s) = some behind := by
  rw [afterWords?_guardWords_iff]
  refine ⟨?_, ?_⟩
  · intro h
    obtain ⟨w, guard, w', rfl, hw, hguard, hw', hend, hsolid⟩ := h
    refine ⟨guard, w', ?_, hguard, hw', hend, hsolid⟩
    rw [List.append_assoc, List.append_assoc, Text.trimStart_blanks_append hw,
      (hguard.startsSolid _).trimStart_eq, List.append_assoc]
  · intro h
    obtain ⟨guard, w', hs, hguard, hw', hend, hsolid⟩ := h
    obtain ⟨w, hsplit, hw⟩ := Text.eq_blanks_append_trimStart s
    refine ⟨w, guard, w', ?_, hw, hguard, hw', hend, hsolid⟩
    rw [hs] at hsplit
    rw [hsplit]
    simp only [List.append_assoc]

theorem guarded_blanks_append_iff {w : List Char} (hw : ∀ c ∈ w, Text.isBlank c = true)
    (s behind : List Char) : Guarded (w ++ s) behind ↔ Guarded s behind := by
  rw [guarded_iff, guarded_iff, Text.trimStart_blanks_append hw]

theorem Guarded.skipGuard_eq {s behind : List Char} (h : Guarded s behind) :
    skipGuard (Text.trimStart s) = behind := by
  rw [skipGuard, guarded_iff.mp h]
  rfl

/-- Anything else than a complete guard is left as it is. -/
theorem skipGuard_of_not_guarded {s : List Char} (h : ∀ behind, ¬ Guarded s behind) :
    skipGuard (Text.trimStart s) = Text.trimStart s := by
  have hnone : afterWords? guardWords (Text.trimStart s) = none := by
    rw [Option.eq_none_iff_forall_ne_some]
    exact fun behind hbehind => h behind (guarded_iff.mpr hbehind)
  rw [skipGuard, hnone]
  rfl

/-! ## The name -/

theorem tableName_of_no_opening {sql : String} (h : ¬ opening <:+: sql.toList) : tableName sql = "" := by
  have hnone : Text.after? opening sql.toList = none := by
    rw [← Option.not_isSome_iff_eq_none]
    exact mt (Text.occurs_iff opening sql.toList).mp h
  rw [tableName, hnone]

theorem tableName_of_isFirst {sql : String} {front rest : List Char}
    (hsql : sql.toList = front ++ opening ++ rest) (h : Text.IsFirst opening front rest) :
    tableName sql = String.ofList ((skipGuard (Text.trimStart rest)).takeWhile isNameChar) := by
  rw [tableName, Text.after?_eq_some_iff.mpr ⟨front, hsql, h⟩]

/-- A name that the statement has is the one that is found. -/
theorem Names.tableName_eq {sql : String} {name : List Char} (h : Names sql.toList name) :
    tableName sql = String.ofList name := by
  cases h with
  | none hnot hname => rw [tableName_of_no_opening hnot, hname]
  | guarded hsql hfirst hguard hname =>
    rw [tableName_of_isFirst hsql hfirst, hguard.skipGuard_eq, hname.eq_takeWhile]
  | bare hsql hfirst hguard hname =>
    rw [tableName_of_isFirst hsql hfirst, skipGuard_of_not_guarded hguard, hname.eq_takeWhile]

theorem exists_names (s : List Char) : ∃ name, Names s name := by
  by_cases hopening : opening <:+: s
  · obtain ⟨rest, hrest⟩ := Option.isSome_iff_exists.mp ((Text.occurs_iff opening s).mpr hopening)
    obtain ⟨front, hs, hfirst⟩ := Text.after?_eq_some_iff.mp hrest
    by_cases hguard : ∃ behind, Guarded rest behind
    · obtain ⟨behind, hguard⟩ := hguard
      exact ⟨_, .guarded hs hfirst hguard (isNameOf_takeWhile behind)⟩
    · exact ⟨_, .bare hs hfirst (not_exists.mp hguard) (isNameOf_takeWhile (Text.trimStart rest))⟩
  · exact ⟨[], .none hopening rfl⟩

/-- Behind a guard the same text is left as without it. -/
theorem guarded_insert {w guard w' s : List Char} (hw : ∀ c ∈ w, Text.isBlank c = true)
    (hguard : IsGuard guard) (hw' : ∀ c ∈ w', Text.isBlank c = true) (hend : w' = [] → s = []) :
    Guarded (w ++ guard ++ w' ++ s) (Text.trimStart s) := by
  obtain ⟨w'', hs, hw''⟩ := Text.eq_blanks_append_trimStart s
  refine ⟨w, guard, w' ++ w'', ?_, hw, hguard, List.forall_mem_append.mpr ⟨hw', hw''⟩, ?_,
    startsSolid_trimStart s⟩
  · rw [← List.append_assoc, List.append_assoc (w ++ guard ++ w'), ← hs]
  · intro hnil
    rw [hend (List.append_eq_nil_iff.mp hnil).1]
    rfl

/-- **The name of the table.** For every statement, the name that is found is the one that it has: none if it holds
    no opening; otherwise, behind the first one, the longest text without blanks, parentheses and semicolons
    that follows a complete guard, or else the opening itself. So a guard may be put in front of a name, with
    blanks or the end of the text behind it, unless the name itself starts with a guard. -/
theorem tableName_names (sql : String) :
    (∀ name, tableName sql = name ↔ Names sql.toList name.toList) ∧
    ∀ front w s : List Char, sql.toList = front ++ opening ++ (w ++ s) →
      Text.IsFirst opening front (w ++ s) → (∀ c ∈ w, Text.isBlank c = true) →
      (∀ behind, ¬ Guarded s behind) →
      ∀ guard w' : List Char, IsGuard guard → (∀ c ∈ w', Text.isBlank c = true) → (w' = [] → s = []) →
        tableName (String.ofList (front ++ opening ++ (w ++ guard ++ w' ++ s))) = tableName sql := by
  refine ⟨fun name => ⟨?_, ?_⟩, ?_⟩
  · intro h
    obtain ⟨found, hfound⟩ := exists_names sql.toList
    rw [hfound.tableName_eq] at h
    rwa [← h, String.toList_ofList]
  · intro h
    rw [h.tableName_eq, String.ofList_toList]
  · intro front w s hsql hfirst hw hnone guard w' hguard hw' hend
    have hbare : ∀ behind, ¬ Guarded (w ++ s) behind := fun behind =>
      mt (guarded_blanks_append_iff hw s behind).mp (hnone behind)
    calc tableName (String.ofList (front ++ opening ++ (w ++ guard ++ w' ++ s)))
        = String.ofList ((Text.trimStart s).takeWhile isNameChar) := by
          rw [tableName_of_isFirst (String.toList_ofList) (hfirst.with_rest _),
            (guarded_insert hw hguard hw' hend).skipGuard_eq]
      _ = tableName sql := by
          rw [tableName_of_isFirst hsql hfirst, skipGuard_of_not_guarded hbare,
            Text.trimStart_blanks_append hw]

end SqlSmell.Creation
