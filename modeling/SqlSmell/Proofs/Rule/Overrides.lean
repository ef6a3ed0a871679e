import Mathlib.Data.List.Perm.Basic
import SqlSmell.Proofs.Report
import SqlSmell.Proofs.Rule.Registry
import SqlSmell.Proofs.Rule.Validation
import SqlSmell.Render.Listing

/- The order of severity overrides. An override is looked up by the first entry of its title, so two
   entries of one title would make the order show. A choice that has been validated has one entry for a
   title at most (`overridesOf_cases`), which gives its rule the severity that is reported and listed
   (`givesSeverity_effectiveSeverity`, `rules_shows`). Then nothing depends on the order: not what is
   evaluated, analysed or listed, nor whether the choice is accepted (`validate_order_free`). -/
namespace SqlSmell

/-! ## What lists of rules show -/

namespace Render

/-- The list of rules shows the summary: as its line in text, as its record in structured output. -/
def Shows (o : Options) (output : String) (s : Summary) : Prop :=
  match o.format with
  | .text => ∃ before behind, output = before ++ summaryLine o s ++ behind
  | .json => ∃ before behind, output = (Document.list (before ++ summaryDocument o s :: behind)).json 0
  | .yaml => ∃ before behind, output = (Document.list (before ++ summaryDocument o s :: behind)).toYaml

theorem rules_shows {g : Registry} {selection : Selection} {s : Summary} (h : s ∈ summaries g selection)
    (o : Options) : Shows o (rules o g selection) s := by
  obtain ⟨earlier, later, hlisted⟩ := List.append_of_mem h
  simp only [Shows, rules, hlisted, List.map_append, List.map_cons]
  cases o.format with
  | text =>
    refine ⟨String.join (earlier.map (summaryLine o)), String.join (later.map (summaryLine o)), ?_⟩
    rw [String.join_append, String.join_cons, String.append_assoc]
  | json => exact ⟨earlier.map (summaryDocument o), later.map (summaryDocument o), rfl⟩
  | yaml => exact ⟨earlier.map (summaryDocument o), later.map (summaryDocument o), rfl⟩

end Render

namespace Selection

/-- The same choice with other overrides. -/
def withOverrides (s : Selection) (entries : List (String × String)) : Selection :=
  { s with severity := entries }

/-- The overrides of a title. -/
def overridesOf (s : Selection) (title : String) : List (String × String) :=
  s.severity.filter fun entry => Text.sameTitle entry.1 title

/-- The severity that the choice gives to a rule: that of the one override of its title, or else the
    rule's own. -/
def GivesSeverity (s : Selection) (r : Rule) (v : Severity) : Prop :=
  (∃ entry, s.severity.filter (fun entry => Text.sameTitle entry.1 r.title) = [entry] ∧
    Severity.ofText entry.2 = .ok v) ∨
  ((∀ entry ∈ s.severity, Text.sameTitle entry.1 r.title = false) ∧ v = r.info.severity)

/-! ## Choices that agree -/

/-- The choices run the same rules with the same severities. -/
structure Agrees (s t : Selection) : Prop where
  enabled : ∀ title, s.isEnabled title = t.isEnabled title
  severity : ∀ title, s.severityOverride title = t.severityOverride title

section
variable {s t : Selection} (h : s.Agrees t) (g : Registry)
include h

theorem Agrees.effectiveSeverity_eq (r : Rule) :
    Registry.effectiveSeverity s r = Registry.effectiveSeverity t r := by
  rw [Registry.effectiveSeverity, Registry.effectiveSeverity, h.severity]

theorem Agrees.evaluate_eq (sql : String) : g.evaluate s sql = g.evaluate t sql := by
  simp only [Registry.evaluate, h.enabled, h.effectiveSeverity_eq]

theorem Agrees.analyze_eq (statements : List Statement) :
    g.analyze s statements = g.analyze t statements := by
  have hfinding : g.finding s = g.finding t := by
    funext statement
    rw [Registry.finding, h.evaluate_eq, Registry.finding]
  simp only [Registry.analyze, hfinding, Registry.enabledCount, h.enabled]

theorem Agrees.rules_eq (o : Render.Options) : Render.rules o g s = Render.rules o g t := by
  have hlisted : Render.summaries g s = Render.summaries g t := by
    simp only [Render.summaries, h.enabled, h.effectiveSeverity_eq]
  simp only [Render.rules, hlisted]

end

/-! ## One override for a title -/

section
variable {s : Selection}

/-- The first override of a title counts. -/
theorem severityOverride_eq (s : Selection) (title : String) :
    s.severityOverride title =
      (s.overridesOf title).head?.bind fun entry => (Severity.ofText entry.2).toOption := by
  rw [overridesOf, List.head?_filter, severityOverride]
  cases s.severity.find? (fun entry => Text.sameTitle entry.1 title) <;> rfl

theorem overridesOf_length_le (h : s.overrideKeys.Nodup) (title : String) :
    (s.overridesOf title).length ≤ 1 := by
  -- the keys of these entries are different, and all are the title in small letters
  have hkeys : (s.overridesOf title).map (fun entry => Text.asciiLower entry.1) =
      List.replicate (s.overridesOf title).length (Text.asciiLower title) := by
    rw [List.eq_replicate_iff]
    refine ⟨List.length_map _, ?_⟩
    intro key hkey
    obtain ⟨entry, hentry, rfl⟩ := List.mem_map.mp hkey
    exact Text.sameTitle_eq_true_iff.mp (List.mem_filter.mp hentry).2
  have hnodup : ((s.overridesOf title).map fun entry => Text.asciiLower entry.1).Nodup :=
    h.sublist (List.filter_sublist.map _)
  rw [hkeys, List.nodup_replicate] at hnodup
  exact hnodup

theorem overridesOf_cases (h : s.overrideKeys.Nodup) (title : String) :
    s.overridesOf title = [] ∨ ∃ entry, s.overridesOf title = [entry] := by
  have hlength := overridesOf_length_le h title
  cases hentries : s.overridesOf title with
  | nil => exact .inl rfl
  | cons entry more =>
    rw [hentries, List.length_cons] at hlength
    obtain rfl : more = [] := List.length_eq_zero_iff.mp (by omega)
    exact .inr ⟨entry, rfl⟩

/-- The severity of a rule under an accepted choice. -/
theorem givesSeverity_effectiveSeverity {g : Registry} (h : s.validate g = .ok ()) (r : Rule) :
    s.GivesSeverity r (Registry.effectiveSeverity s r) := by
  obtain ⟨-, hkeys, hvalues⟩ := validate_ok_iff.mp h
  rw [Registry.effectiveSeverity, severityOverride_eq]
  obtain hnone | ⟨entry, hentry⟩ := overridesOf_cases hkeys r.title
  · rw [hnone]
    refine .inr ⟨?_, rfl⟩
    simpa [overridesOf, List.filter_eq_nil_iff] using hnone
  · have hmem : entry ∈ s.severity := List.mem_of_mem_filter (hentry ▸ List.mem_singleton_self entry)
    obtain ⟨v, hv⟩ := hvalues entry hmem
    refine .inl ⟨entry, hentry, ?_⟩
    rw [hentry, List.head?_cons, Option.bind_some, hv]
    rfl

/-! ## Other orders -/

section
variable {entries : List (String × String)} (hperm : entries.Perm s.severity)
include hperm

theorem validate_withOverrides_iff (g : Registry) :
    (s.withOverrides entries).validate g = .ok () ↔ s.validate g = .ok () := by
  have htitles : (s.withOverrides entries).titles.Perm s.titles := (hperm.map Prod.fst).append_left _
  have hkeys : (s.withOverrides entries).overrideKeys.Perm s.overrideKeys := hperm.map _
  rw [validate_ok_iff, validate_ok_iff, hkeys.nodup_iff]
  refine and_congr ?_ (and_congr Iff.rfl ?_)
  · exact forall_congr' fun title => by rw [htitles.mem_iff]
  · exact forall_congr' fun entry => by rw [← hperm.mem_iff]; rfl

theorem agrees_withOverrides (h : s.overrideKeys.Nodup) : (s.withOverrides entries).Agrees s where
  enabled _ := rfl
  severity title := by
    have hentries : ((s.withOverrides entries).overridesOf title).Perm (s.overridesOf title) :=
      hperm.filter _
    have hsame : (s.withOverrides entries).overridesOf title = s.overridesOf title := by
      obtain hnone | ⟨entry, hentry⟩ := overridesOf_cases h title
      · rw [hnone] at hentries ⊢
        exact hentries.eq_nil
      · rw [hentry] at hentries ⊢
        exact hentries.eq_singleton
    rw [severityOverride_eq, severityOverride_eq, hsame]

end

end

/-- **The order of overrides does not matter.** Whether a choice of rules is accepted does not depend on
    the order of its severity overrides; and if it is, no look-up, evaluation, analysis or list depends on
    it. Each rule then has the severity of the one override of its title, or else its own: where it is enabled
    and detects something it gives one diagnostic, which has that severity, and the list of rules shows
    it with that severity. -/
theorem validate_order_free (g : Registry) (s : Selection) {entries : List (String × String)}
    (hperm : entries.Perm s.severity) :
    ((s.withOverrides entries).validate g = .ok () ↔ s.validate g = .ok ()) ∧
    (s.validate g = .ok () →
      (∀ title, (s.withOverrides entries).severityOverride title = s.severityOverride title) ∧
      (∀ sql, g.evaluate (s.withOverrides entries) sql = g.evaluate s sql) ∧
      (∀ statements, g.analyze (s.withOverrides entries) statements = g.analyze s statements) ∧
      (∀ o, Render.rules o g (s.withOverrides entries) = Render.rules o g s) ∧
      (∀ statements, (g.analyze s statements).diagnostics =
        statements.flatMap fun statement => g.evaluate s statement.text) ∧
      ∀ r ∈ g.rules, ∃ v, s.GivesSeverity r v ∧ Registry.effectiveSeverity s r = v ∧
        (∀ sql, (g.evaluate s sql).filter (fun d => d.title == r.title) =
          if s.isEnabled r.title && r.detection.detects sql then
            [⟨r.info.title, v, r.info.category, r.info.message, sql⟩] else []) ∧
        ∀ o, Render.Shows o (Render.rules o g s) ⟨r.info, v, s.isEnabled r.title⟩) := by
  refine ⟨validate_withOverrides_iff hperm g, fun h => ?_⟩
  have hagrees := agrees_withOverrides hperm (validate_ok_iff.mp h).2.1
  refine ⟨hagrees.severity, hagrees.evaluate_eq g, hagrees.analyze_eq g, hagrees.rules_eq g,
    g.diagnostics_analyze s, ?_⟩
  intro r hr
  refine ⟨_, givesSeverity_effectiveSeverity h r, rfl, fun sql => ?_, Render.rules_shows ?_⟩
  · rw [Registry.evaluate_filter_title hr, Rule.check]
    cases s.isEnabled r.title <;> cases r.detection.detects sql <;> rfl
  · exact List.mem_map_of_mem hr

/-- Two overrides, of titles in another case, in both orders. -/
theorem validate_order_free_two :
    ∃ g, Registry.empty.registerAll [⟨⟨"Loud", "", .error, .query⟩, .custom fun _ => true⟩,
        ⟨⟨"Quiet", "", .info, .query⟩, .custom fun _ => true⟩] = .ok g ∧
      (⟨[], [], [("LOUD", "info"), ("quiet", "Warn")]⟩ : Selection).validate g = .ok () ∧
      g.evaluate ⟨[], [], [("quiet", "Warn"), ("LOUD", "info")]⟩ "select 1" =
        g.evaluate ⟨[], [], [("LOUD", "info"), ("quiet", "Warn")]⟩ "select 1" := by
  obtain ⟨g, hg, hknown⟩ : ∃ g, Registry.empty.registerAll
      [⟨⟨"Loud", "", .error, .query⟩, .custom fun _ => true⟩,
        ⟨⟨"Quiet", "", .info, .query⟩, .custom fun _ => true⟩] = .ok g ∧
      ∀ title ∈ ["LOUD", "quiet"], g.contains title = true := ⟨_, rfl, by decide⟩
  have hvalid : (⟨[], [], [("LOUD", "info"), ("quiet", "Warn")]⟩ : Selection).validate g = .ok () :=
    validate_ok_iff.mpr ⟨hknown, by decide, badOverride?_eq_none_iff.mp (by decide)⟩
  exact ⟨g, hg, hvalid, ((validate_order_free g _ (.swap _ _ _)).2 hvalid).2.1 "select 1"⟩

end Selection

end SqlSmell
