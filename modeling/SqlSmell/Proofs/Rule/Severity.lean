import SqlSmell.Command.Arguments
import SqlSmell.Proofs.Rule.Overrides
import SqlSmell.Proofs.Text.Case

/- Which texts are severities. A text is compared in small letters, and the small form of a text with characters
   beyond ASCII never is the name of a severity, since no name holds a `k` (`spellings_plain`). So the severities
   are their names in any ASCII case and nothing else (`ofText_ok_iff`), wherever one is read: as an override, in
   the settings or on the command line (`ofText_spelled`). -/
namespace SqlSmell

open Text (EqUpToCase asciiLower isTrace)

namespace Severity

/-- The names of the severities; a warning has two. -/
def spellings : List (String × Severity) :=
  [("info", info), ("warn", warning), ("warning", warning), ("error", error)]

theorem spellings_plain : spellings.all (fun entry =>
    entry.1.toList.all (!isTrace ·) && asciiLower entry.1 == entry.1) = true := by
  decide

section
variable {text name : String} {v : Severity}

theorem plain_of_mem_spellings (h : (name, v) ∈ spellings) :
    (∀ x ∈ name.toList, isTrace x = false) ∧ asciiLower name = name := by
  simpa using List.all_eq_true.mp spellings_plain (name, v) h

theorem ofText_ok_iff_small :
    ofText text = .ok v ↔ (String.ofList (Text.lower text.toList), v) ∈ spellings := by
  unfold ofText
  split
  · next hsmall => rw [hsmall]; cases v <;> decide
  · next hsmall => rw [hsmall]; cases v <;> decide
  · next hsmall => rw [hsmall]; cases v <;> decide
  · next hsmall => rw [hsmall]; cases v <;> decide
  · simp_all [spellings]

theorem lower_eq_name_iff (h : (name, v) ∈ spellings) :
    String.ofList (Text.lower text.toList) = name ↔ EqUpToCase text name := by
  obtain ⟨htraces, hsmall⟩ := plain_of_mem_spellings h
  rw [Text.eqUpToCase_iff, hsmall, asciiLower, ← String.toList_inj, String.toList_ofList,
    Text.lower_eq_iff htraces, ← String.toList_inj, String.toList_ofList]

/-- A text is a severity exactly if it is one of the names in some ASCII case. -/
theorem ofText_ok_iff :
    ofText text = .ok v ↔ ∃ name, (name, v) ∈ spellings ∧ EqUpToCase text name := by
  rw [ofText_ok_iff_small]
  refine ⟨?_, ?_⟩
  · intro h
    exact ⟨_, h, (lower_eq_name_iff h).mp rfl⟩
  · intro h
    obtain ⟨name, hname, hsame⟩ := h
    rwa [(lower_eq_name_iff hname).mpr hsame]

theorem ascii_of_ofText (h : ofText text = .ok v) : ∀ c ∈ text.toList, c.toNat < 128 := by
  have htraces := (plain_of_mem_spellings (ofText_ok_iff_small.mp h)).1
  exact Text.ascii_of_lower htraces (String.toList_ofList).symm

/-- On the command line, three of the names are known and only as they are. -/
theorem mem_spellings_of_severityNamed? (h : Command.severityNamed? text = some v) :
    (text, v) ∈ spellings := by
  unfold Command.severityNamed? at h
  split at h
  · cases h; decide
  · cases h; decide
  · cases h; decide
  · cases h

end

/-! ## Texts beyond ASCII -/

section
variable {text : String} (hbeyond : ∃ c ∈ text.toList, 128 ≤ c.toNat)
include hbeyond

theorem ofText_beyond : ∃ shown, ofText text = .error shown := by
  cases hread : ofText text with
  | error shown => exact ⟨shown, rfl⟩
  | ok v =>
    obtain ⟨c, hc, hlarge⟩ := hbeyond
    have hsmall := ascii_of_ofText hread c hc
    omega

theorem severityNamed?_beyond : Command.severityNamed? text = none := by
  cases hnamed : Command.severityNamed? text with
  | none => rfl
  | some v =>
    obtain ⟨c, hc, hlarge⟩ := hbeyond
    have htrace := (plain_of_mem_spellings (mem_spellings_of_severityNamed? hnamed)).1 c hc
    rw [Text.isTrace_of_beyond hlarge] at htrace
    contradiction

end

/-- **Which texts are severities.** A text is read as a severity exactly if it is `info`, `warn`, `warning` or
    `error` in some ASCII case, and then as that one. A text with a character beyond ASCII is none, whatever
    its small form: not as the override of a title, not in a choice of rules that is to be accepted, and
    not as the least severity that is shown, be it set or asked for. -/
theorem ofText_spelled (text : String) :
    (∀ v, ofText text = .ok v ↔ ∃ name, (name, v) ∈ spellings ∧ EqUpToCase text name) ∧
    ((∃ c ∈ text.toList, 128 ≤ c.toNat) →
      (∃ shown, ofText text = .error shown) ∧
      (∀ (s : Selection) (title key : String), (s.overridesOf title).head? = some (key, text) →
        s.severityOverride title = none) ∧
      (∀ (s : Selection) (g : Registry) (title : String), (title, text) ∈ s.severity →
        ∃ e, s.validate g = .error e) ∧
      (∀ o : OutputSettings, o.minSeverity = some text →
        ∃ shown, o.leastSeverity = .error (.unknownSeverity shown)) ∧
      ∀ given : Command.Given, ∃ usage, given.accept .minSeverity text = .error usage) := by
  refine ⟨fun v => ofText_ok_iff, fun hbeyond => ?_⟩
  obtain ⟨shown, hshown⟩ := ofText_beyond hbeyond
  refine ⟨⟨shown, hshown⟩, ?_, ?_, ?_, ?_⟩
  · intro s title key hfirst
    rw [Selection.severityOverride_eq, hfirst, Option.bind_some, hshown]
    rfl
  · intro s g title hmem
    cases hvalid : s.validate g with
    | error e => exact ⟨e, rfl⟩
    | ok _ =>
      obtain ⟨v, hv⟩ := (Selection.validate_ok_iff.mp hvalid).2.2 (title, text) hmem
      rw [hshown] at hv
      contradiction
  · intro o hset
    refine ⟨shown, ?_⟩
    rw [OutputSettings.leastSeverity, hset]
    simp only [hshown]
  · intro given
    simp only [Command.Given.accept, severityNamed?_beyond hbeyond, Command.known, Command.once]
    split
    · exact ⟨_, rfl⟩
    · exact ⟨_, rfl⟩

/-- A name in mixed case; a text whose small form only starts like a name, since a dotted I takes two
    characters; and one that ends in a sigma. -/
theorem ofText_spelled_mixed :
    ofText "wArNiNg" = .ok warning ∧ Text.lower "\u0130NFO".toList = "i\u0307nfo".toList ∧
      (∃ shown, ofText "\u0130NFO" = .error shown) ∧
      (⟨[], [], [("SELECT *", "WARN\u03A3")]⟩ : Selection).severityOverride "select *" = none := by
  refine ⟨?_, by decide +kernel, ?_, ?_⟩
  · exact ((ofText_spelled "wArNiNg").1 warning).mpr ⟨"warning", by decide, Text.sameTitle_iff.mp (by decide)⟩
  · exact ((ofText_spelled "\u0130NFO").2 ⟨Char.ofNat 0x130, by decide, by decide⟩).1
  · exact ((ofText_spelled "WARN\u03A3").2 ⟨Char.ofNat 0x3A3, by decide, by decide⟩).2.1 _ _ "SELECT *" (by decide)

end Severity

end SqlSmell
