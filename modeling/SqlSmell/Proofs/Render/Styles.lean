import SqlSmell.Proofs.Render.Escapes
import SqlSmell.Proofs.Text.Find
import SqlSmell.Render.Listing

/- Colours add nothing but sequences. `unstyled` deletes every sequence of a text, and `Styles`
   relates a text without escapes to a text that becomes it once its sequences are deleted, whatever
   follows. The relation passes through concatenation and holds of a painted text, so it holds of
   every output in colours against the same output without (`unstyled_coloured`). -/
namespace SqlSmell.Render
open Text

/-! ## Deleting the sequences of a text -/

/-- The text without its sequences: an escape, an opening bracket and everything up to the next
    `m`. Where no `m` follows there is no sequence. -/
def unstyled : List Char → List Char
  | [] => []
  | c :: s =>
    match _h : afterStart? [escape, '['] (c :: s) with
    | some body =>
      if (Span.upTo ['m'] body).closed then unstyled (Span.upTo ['m'] body).rest else c :: unstyled s
    | none => c :: unstyled s
termination_by s => s.length
decreasing_by
  all_goals try exact Nat.lt_succ_self _
  have hlength : s.length + 1 = body.length + 2 := congrArg List.length (afterStart?_eq_some_iff.mp _h)
  have hrest := Span.upTo_rest_length ['m'] body
  show (Span.upTo ['m'] body).rest.length < s.length + 1
  omega

theorem unstyled_cons {c : Char} (h : c ≠ escape) (s : List Char) : unstyled (c :: s) = c :: unstyled s := by
  rw [unstyled]
  split
  next body hbody =>
    exact absurd (List.cons.inj (afterStart?_eq_some_iff.mp hbody)).1 h
  next => rfl

theorem unstyled_append {s : List Char} (h : escape ∉ s) (rest : List Char) :
    unstyled (s ++ rest) = s ++ unstyled rest := by
  induction s with
  | nil => rfl
  | cons c s ih =>
    rw [List.mem_cons, not_or] at h
    rw [List.cons_append, unstyled_cons (Ne.symm h.1), ih h.2]
    rfl

theorem unstyled_sequence {codes : List Char} (h : 'm' ∉ codes) (rest : List Char) :
    unstyled ([escape, '['] ++ codes ++ ['m'] ++ rest) = unstyled rest := by
  have hstart : [escape, '['] ++ codes ++ ['m'] ++ rest = [escape, '['] ++ (codes ++ 'm' :: rest) := by simp
  rw [hstart]
  show unstyled (escape :: '[' :: (codes ++ 'm' :: rest)) = _
  rw [unstyled]
  split
  next body hbody =>
    have hcut : codes ++ 'm' :: rest = body := List.append_cancel_left (afterStart?_eq_some_iff.mp hbody)
    rw [← hcut, Span.upTo_body_mark h]
    rfl
  next hnone =>
    exact absurd (List.prefix_append [escape, '['] _) (afterStart?_eq_none_iff.mp hnone)

/-! ## Styled texts -/

/-- The text `plain` has no escapes, and `styled` is `plain` with sequences added. -/
structure Styles (plain styled : String) : Prop where
  free : Free plain
  /-- Deleting the sequences gives `plain`, whatever follows. -/
  deleted : ∀ rest, unstyled (styled.toList ++ rest) = plain.toList ++ unstyled rest

theorem Styles.unstyled_eq {plain styled : String} (h : Styles plain styled) :
    unstyled styled.toList = plain.toList := by
  have hend := h.deleted []
  rwa [List.append_nil, unstyled, List.append_nil] at hend

theorem styles_self {s : String} (h : Free s) : Styles s s := ⟨h, unstyled_append h⟩

theorem Styles.append {p₁ p₂ s₁ s₂ : String} (h₁ : Styles p₁ s₁) (h₂ : Styles p₂ s₂) :
    Styles (p₁ ++ p₂) (s₁ ++ s₂) := by
  refine ⟨free_append.mpr ⟨h₁.free, h₂.free⟩, ?_⟩
  intro rest
  rw [String.toList_append, String.toList_append, List.append_assoc, h₁.deleted, h₂.deleted, List.append_assoc]

theorem Styles.append_free {p s t : String} (h : Styles p s) (ht : Free t) : Styles (p ++ t) (s ++ t) :=
  h.append (styles_self ht)

theorem free_join_map {α : Type} {f : α → String} {xs : List α} (h : ∀ x ∈ xs, Free (f x)) :
    Free (String.join (xs.map f)) := by
  simp only [Free, String.toList_join, List.flatMap_map, List.mem_flatMap, not_exists, not_and]
  exact h

theorem Styles.join_map {α : Type} {plain styled : α → String} {xs : List α}
    (h : ∀ x ∈ xs, Styles (plain x) (styled x)) :
    Styles (String.join (xs.map plain)) (String.join (xs.map styled)) := by
  refine ⟨free_join_map fun x hx => (h x hx).free, ?_⟩
  intro rest
  simp only [String.toList_join, List.flatMap_map]
  induction xs with
  | nil => rfl
  | cons x xs ih =>
    have htail := ih fun y hy => h y (List.mem_cons_of_mem x hy)
    rw [List.flatMap_cons, List.append_assoc, (h x List.mem_cons_self).deleted, htail, List.flatMap_cons,
      List.append_assoc]

/-! ## Paint -/

theorem restyle_free (start : List Char) {s : List Char} (h : escape ∉ s) (out : List Char) :
    restyle start out 0 s = s.reverse ++ out := by
  induction s generalizing out with
  | nil => rfl
  | cons c s ih =>
    rw [List.mem_cons, not_or] at h
    have hno : afterStart? resetSequence (c :: s) = none := by
      apply afterStart?_eq_none_iff.mpr
      intro hreset
      exact h.1 (List.cons_prefix_cons.mp hreset).1
    rw [restyle, hno, List.reverse_cons, List.append_assoc]
    exact ih h.2 (c :: out)

/-- Paint on a text without escapes only adds sequences. -/
theorem styles_paintIf {c : Colour} (hc : 'm' ∉ c.codes.toList) {s : String} (hs : Free s) (coloured : Bool) :
    Styles s (c.paintIf coloured s) := by
  unfold Colour.paintIf Colour.paint
  split
  · split
    · exact styles_self hs
    · refine ⟨hs, ?_⟩
      intro rest
      have hreset : unstyled ([escape, '['] ++ ['0'] ++ ['m'] ++ rest) = unstyled rest :=
        unstyled_sequence (by decide) rest
      rw [String.toList_ofList, restyle_free _ hs, List.append_nil, List.reverse_reverse]
      calc unstyled (c.sequence ++ s.toList ++ resetSequence ++ rest)
          = unstyled (c.sequence ++ (s.toList ++ (resetSequence ++ rest))) := by simp only [List.append_assoc]
        _ = unstyled (s.toList ++ (resetSequence ++ rest)) := unstyled_sequence hc _
        _ = s.toList ++ unstyled (resetSequence ++ rest) := unstyled_append hs _
        _ = s.toList ++ unstyled rest := congrArg (s.toList ++ ·) hreset
  · exact styles_self hs

theorem paint_not_free (c : Colour) {s : String} (hs : s.isEmpty = false) : ¬ Free (c.paint s) := by
  unfold Colour.paint
  rw [hs, if_neg Bool.false_ne_true, free_ofList]
  apply not_not_intro
  apply List.mem_append_left
  apply List.mem_append_left
  exact List.mem_cons_self

theorem mark_notMem_codes (severity : Severity) : 'm' ∉ (Colour.ofSeverity severity).codes.toList := by
  cases severity <;> decide

/-! ## Reports and rule lists -/

theorem free_ended {line : List Char} {out : List String} (hline : escape ∉ line) (hout : ∀ l ∈ out, Free l) :
    ∀ l ∈ String.ofList line.reverse :: out, Free l := by
  have hfree : Free (String.ofList line.reverse) := free_ofList.mpr (by rwa [List.mem_reverse])
  exact List.forall_mem_cons.mpr ⟨hfree, hout⟩

theorem free_of_mem_linesFrom {line s : List Char} {out : List String} (hline : escape ∉ line)
    (hout : ∀ l ∈ out, Free l) (hs : escape ∉ s) {l : String} (hl : l ∈ linesFrom line out s) : Free l := by
  fun_induction linesFrom line out s with
  | case1 line out hempty => exact hout l (List.mem_reverse.mp hl)
  | case2 line out hempty => exact free_ended hline hout l (List.mem_reverse.mp hl)
  | case3 line out s ended ih =>
    rw [List.mem_cons, not_or] at hs
    -- the line loses a carriage return at most
    have hended : escape ∉ ended := by
      intro hmem
      apply hline
      unfold ended at hmem
      split at hmem
      · exact List.mem_cons_of_mem _ hmem
      · exact hmem
    exact ih List.not_mem_nil (free_ended hended hout) hs.2 hl
  | case4 line out c s hc ih =>
    rw [List.mem_cons, not_or] at hs
    refine ih ?_ hout hs.2 hl
    rw [List.mem_cons, not_or]
    exact ⟨hs.1, hline⟩

theorem indented_free (indent : Nat) {s : String} (h : Free s) : Free (indented indent s) := by
  apply free_join_map
  intro line hline
  have hfree : Free line := free_of_mem_linesFrom List.not_mem_nil (by simp) h hline
  simp only [free_append, free_blanks, hfree, true_and]
  decide

theorem free_label (severity : Severity) : Free severity.label := by
  cases severity <;> decide

theorem free_category (category : Category) : Free category.name := by
  cases category <;> decide

theorem styles_headline (o : Options) (severity : Severity) {title : String} (htitle : Free title)
    (category : Category) :
    Styles (headline { o with coloured := false } severity title category)
      (headline { o with coloured := true } severity title category) := by
  have hlabel : Free ("[" ++ severity.label ++ "]") := by
    simp only [free_append, free_label, and_true]
    decide
  exact (styles_paintIf (mark_notMem_codes severity) hlabel true).append_free (by decide)
    |>.append_free htitle
    |>.append_free (by decide)
    |>.append_free (free_category category)
    |>.append_free (by decide)

/-- No text that a report shows holds an escape. -/
def ReportFree (r : Report) : Prop :=
  ∀ f ∈ r.findings, Free f.statement.source ∧ Free f.statement.text ∧
    ∀ d ∈ f.diagnostics, Free d.title ∧ Free d.message

/-- No text of a rule that is listed holds an escape. -/
def RegistryFree (g : Registry) : Prop := ∀ r ∈ g.rules, Free r.info.title ∧ Free r.info.message

instance (r : Report) : Decidable (ReportFree r) :=
  inferInstanceAs (Decidable (∀ f ∈ r.findings, _ ∧ _ ∧ ∀ d ∈ f.diagnostics, _))

instance (g : Registry) : Decidable (RegistryFree g) := inferInstanceAs (Decidable (∀ r ∈ g.rules, _))

theorem styles_diagnosticText (o : Options) {d : Diagnostic} (h : Free d.title ∧ Free d.message) :
    Styles (diagnosticText { o with coloured := false } d) (diagnosticText { o with coloured := true } d) := by
  have hmessage : Free (if o.verbose then indented 6 d.message else "") := by
    split
    · exact indented_free 6 h.2
    · decide
  have hmargin : Styles "  " "  " := styles_self (by decide)
  exact (hmargin.append (styles_headline o d.severity h.1 d.category)).append_free (by decide)
    |>.append_free hmessage

theorem styles_findingText (o : Options) {f : Finding} (hsource : Free f.statement.source)
    (htext : Free f.statement.text) (hdiagnostics : ∀ d ∈ f.diagnostics, Free d.title ∧ Free d.message) :
    Styles (findingText { o with coloured := false } f) (findingText { o with coloured := true } f) := by
  have hplace : Free (f.statement.source ++ ":" ++ toString f.statement.line) := by
    simp only [free_append, free_number, hsource, true_and, and_true]
    decide
  have hlisted : Styles (String.join (f.diagnostics.map (diagnosticText { o with coloured := false })))
      (String.join (f.diagnostics.map (diagnosticText { o with coloured := true }))) :=
    Styles.join_map fun d hd => styles_diagnosticText o (hdiagnostics d hd)
  exact (styles_paintIf (by decide) hplace true).append_free (by decide)
    |>.append_free htext
    |>.append_free (by decide)
    |>.append hlisted
    |>.append_free (by decide)

theorem summaryText_free (r : Report) : Free (summaryText r) := by
  unfold summaryText
  dsimp only
  split
  all_goals simp only [free_append, free_number, true_and, and_true]
  all_goals decide

theorem styles_reportText (o : Options) {r : Report} (h : ReportFree r) :
    Styles (reportText { o with coloured := false } r) (reportText { o with coloured := true } r) := by
  have hheader : Free "=== SQL Anti-Pattern Analysis ===" := by decide
  have hfindings : Styles (String.join (r.findings.map (findingText { o with coloured := false })))
      (String.join (r.findings.map (findingText { o with coloured := true }))) := by
    apply Styles.join_map
    intro f hf
    obtain ⟨hsource, htext, hdiagnostics⟩ := h f hf
    exact styles_findingText o hsource htext hdiagnostics
  exact (styles_paintIf (by decide) hheader true).append_free (by decide)
    |>.append hfindings
    |>.append_free (summaryText_free r)

theorem diagnosticDocument_namesFree (d : Diagnostic) : (diagnosticDocument d).NamesFree := by
  simp only [diagnosticDocument, Document.NamesFree, FieldsFree]
  decide

theorem findingDocument_namesFree (f : Finding) : (findingDocument f).NamesFree := by
  simp only [findingDocument, Document.NamesFree, FieldsFree, itemsFree_map diagnosticDocument_namesFree]
  decide

theorem reportDocument_namesFree (r : Report) : (reportDocument r).NamesFree := by
  simp only [reportDocument, Document.NamesFree, FieldsFree, itemsFree_map findingDocument_namesFree]
  decide

theorem summaryDocument_namesFree (o : Options) (s : Summary) : (summaryDocument o s).NamesFree := by
  unfold summaryDocument
  split
  all_goals simp only [List.cons_append, List.nil_append, Document.NamesFree, FieldsFree]
  all_goals decide

theorem styles_report (o : Options) {r : Report} (h : ReportFree r) :
    Styles (report { o with coloured := false } r) (report { o with coloured := true } r) := by
  unfold report
  dsimp only
  split
  · exact styles_reportText o h
  · exact styles_self (json_free 0 _)
  · exact styles_self (toYaml_free (reportDocument_namesFree r))

theorem styles_summaryLine (o : Options) {s : Summary} (h : Free s.info.title ∧ Free s.info.message) :
    Styles (summaryLine { o with coloured := false } s) (summaryLine { o with coloured := true } s) := by
  have hmark : Free (if s.enabled then "" else " (disabled)") := by
    split <;> decide
  have hmessage : Free (if o.verbose then indented 4 s.info.message ++ "\n" else "") := by
    split
    · rw [free_append]
      exact ⟨indented_free 4 h.2, by decide⟩
    · decide
  exact (styles_headline o s.severity h.1 s.info.category).append_free hmark
    |>.append_free (by decide)
    |>.append_free hmessage

theorem styles_rules (o : Options) {g : Registry} (h : RegistryFree g) (selection : Selection) :
    Styles (rules { o with coloured := false } g selection)
      (rules { o with coloured := true } g selection) := by
  have hlisted : ∀ s ∈ summaries g selection, Free s.info.title ∧ Free s.info.message := by
    intro s hs
    obtain ⟨r, hr, rfl⟩ := List.mem_map.mp hs
    exact h r hr
  unfold rules
  dsimp only
  split
  · exact Styles.join_map fun s hs => styles_summaryLine o (hlisted s hs)
  · exact styles_self (json_free 0 _)
  · exact styles_self (toYaml_free (itemsFree_map (summaryDocument_namesFree _) _))

/-- In every format, a report or a rule list without colours holds no escape, and in colours it is the
    same one once its sequences are deleted. -/
theorem unstyled_coloured (o : Options) :
    (∀ r : Report, ReportFree r → Free (report { o with coloured := false } r) ∧
      unstyled (report { o with coloured := true } r).toList = (report { o with coloured := false } r).toList) ∧
    (∀ (g : Registry) (selection : Selection), RegistryFree g →
      Free (rules { o with coloured := false } g selection) ∧
      unstyled (rules { o with coloured := true } g selection).toList =
        (rules { o with coloured := false } g selection).toList) := by
  refine ⟨?_, ?_⟩
  · intro r h
    have hstyles := styles_report o h
    exact ⟨hstyles.free, hstyles.unstyled_eq⟩
  · intro g selection h
    have hstyles := styles_rules o h selection
    exact ⟨hstyles.free, hstyles.unstyled_eq⟩

/-- A report with one finding, and the rule that made it in a list: in colours both hold escapes. -/
theorem unstyled_coloured_finding :
    let rule : Rule := ⟨⟨"Loud", "Why\nnot", .error, .query⟩, .custom fun _ => true⟩
    let found : Report :=
      ⟨[⟨⟨"a.sql", 3, "select 1"⟩, [⟨"Loud", .error, .query, "Why\nnot", "select 1"⟩]⟩], 1, 1⟩
    let painted : Options := ⟨.text, true, true⟩
    let bare : Options := ⟨.text, false, true⟩
    ∃ g, Registry.empty.registerAll [rule] = .ok g ∧
      (ReportFree found ∧ ¬ Free (report painted found) ∧
        unstyled (report painted found).toList = (report bare found).toList) ∧
      (RegistryFree g ∧ ¬ Free (rules painted g ⟨[], [], []⟩) ∧
        unstyled (rules painted g ⟨[], [], []⟩).toList = (rules bare g ⟨[], [], []⟩).toList) := by
  intro rule found painted bare
  have hfound : ReportFree found := by decide
  have hrules : ∀ g, Registry.empty.registerAll [rule] = .ok g → RegistryFree g := by
    intro g h
    cases h
    decide
  refine ⟨_, rfl, ⟨hfound, ?_, ?_⟩, ⟨hrules _ rfl, by decide +kernel, ?_⟩⟩
  · intro h
    -- the header comes first, and it is painted
    have hheader : Free (Colour.header.paint "=== SQL Anti-Pattern Analysis ===") :=
      (free_append.mp (free_append.mp (free_append.mp h).1).1).1
    exact paint_not_free Colour.header (by decide) hheader
  · exact ((unstyled_coloured bare).1 found hfound).2
  · exact ((unstyled_coloured bare).2 _ _ (hrules _ rfl)).2

end SqlSmell.Render
