import SqlSmell.Proofs.Script.Trace
import SqlSmell.Proofs.Text.Blank

/- The statement in progress. Its line is set by the first character that is not blank, so a draft that
   gives a statement knows its line, and the line of the cut is never asked for (`Draft.Marked`,
   `Draft.Marked.statement?_eq`). Blanks at either end of a draft change nothing: a draft of blanks is as
   good as none (`assemble_leading_blanks`), and where only blanks come before the next cut there may as
   well be a cut in front of them (`assemble_blank_head`). -/
namespace SqlSmell.Script

/-! ## Lines of drafts -/

/-- The line is known exactly if something that is not blank has been kept. -/
def Draft.Marked (d : Draft) : Prop := d.line = none ↔ Text.trim d.text.reverse = []

theorem keep_line_of_blank (d : Draft) {c : Char} (h : Text.isBlank c = true) (line : Nat) :
    (d.keep c line).line = d.line := by
  simp [Draft.keep, h]

theorem marked_empty : Draft.empty.Marked := by
  show none = none ↔ Text.trim [] = []
  exact iff_of_true rfl rfl

theorem statement?_of_blank {d : Draft} (h : Text.trim d.text.reverse = []) (source : String)
    (line : Nat) : d.statement? source line = none := by
  simp [Draft.statement?, h]

theorem statement?_of_text {d : Draft} (h : Text.trim d.text.reverse ≠ []) (source : String)
    (line : Nat) :
    d.statement? source line =
      some ⟨source, d.line.getD line, String.ofList (Text.trim d.text.reverse)⟩ := by
  unfold Draft.statement?
  split
  · contradiction
  · rfl

section
variable {d : Draft} (h : d.Marked)
include h

theorem Draft.Marked.keep (c : Char) (line : Nat) : (d.keep c line).Marked := by
  cases hc : Text.isBlank c with
  | true =>
    rw [Draft.Marked, keep_text, keep_line_of_blank d hc, Text.trim_append_blanks (by simpa using hc)]
    exact h
  | false =>
    have hline : (d.keep c line).line ≠ none := by
      cases hd : d.line <;> simp [Draft.keep, hc, hd]
    have htext : Text.trim (d.text.reverse ++ [c]) ≠ [] := by
      rw [Ne, Text.trim_eq_nil_iff]
      intro hblank
      rw [hblank c (by simp)] at hc
      contradiction
    rw [Draft.Marked, keep_text]
    exact iff_of_false hline htext

/-- The line of the cut does not matter. -/
theorem Draft.Marked.statement?_eq (source : String) (line line' : Nat) :
    d.statement? source line = d.statement? source line' := by
  by_cases htext : Text.trim d.text.reverse = []
  · rw [statement?_of_blank htext, statement?_of_blank htext]
  · obtain ⟨n, hn⟩ := Option.ne_none_iff_exists'.mp (mt h.mp htext)
    rw [statement?_of_text htext, statement?_of_text htext, hn]
    rfl

end

theorem statement?_keep_blank (d : Draft) {c : Char} (h : Text.isBlank c = true) (source : String)
    (line line' : Nat) : (d.keep c line).statement? source line' = d.statement? source line' := by
  have htext : Text.trim (d.keep c line).text.reverse = Text.trim d.text.reverse := by
    rw [keep_text, Text.trim_append_blanks (by simpa using h)]
  simp only [Draft.statement?, htext, keep_line_of_blank d h]

/-! ## Texts between cuts -/

theorem textsBetween_ne_nil (text : List Char) (es : List Event) : textsBetween text es ≠ [] := by
  induction es generalizing text with
  | nil => simp [textsBetween]
  | cons e es ih =>
    cases e with
    | keep c => exact ih _
    | cut => simp [textsBetween]

theorem textsBetween_append (text : List Char) (es es' : List Event) :
    (textsBetween text (es ++ es')).getLastD [] =
      (textsBetween ((textsBetween text es).getLastD []) es').getLastD [] := by
  induction es generalizing text with
  | nil => rfl
  | cons e es ih =>
    cases e with
    | keep c => exact ih (text ++ [c])
    | cut =>
      obtain ⟨first, texts, htexts⟩ := List.exists_cons_of_ne_nil (textsBetween_ne_nil [] es)
      obtain ⟨first', texts', htexts'⟩ :=
        List.exists_cons_of_ne_nil (textsBetween_ne_nil [] (es ++ es'))
      have hrest := ih []
      rw [htexts, htexts'] at hrest
      rw [List.cons_append, textsBetween, textsBetween, htexts, htexts']
      exact hrest

/-- What has been kept before goes in front of the first text. -/
theorem textsBetween_eq_modifyHead (text : List Char) (es : List Event) :
    textsBetween text es = (textsBetween [] es).modifyHead (text ++ ·) := by
  induction es generalizing text with
  | nil => simp [textsBetween]
  | cons e es ih =>
    cases e with
    | keep c =>
      rw [textsBetween, textsBetween, ih (text ++ [c]), ih ([] ++ [c]), List.modifyHead_modifyHead]
      simp [Function.comp_def]
    | cut => simp [textsBetween]

/-! ## Drafts of a reader -/

section
variable (source : String) (delimiter : Char)

theorem marked_take {r : Reader} (h : r.draft.Marked) (e : Event) :
    (r.take source e).draft.Marked := by
  cases e with
  | keep c => exact h.keep c r.line
  | cut =>
    simp only [Reader.take]
    split <;> exact marked_empty

theorem marked_foldl_take (events : List Event) (r : Reader) (h : r.draft.Marked) :
    (events.foldl (Reader.take source) r).draft.Marked := by
  induction events generalizing r with
  | nil => exact h
  | cons e events ih => exact ih _ (marked_take source h e)

theorem read_draft (r : Reader) (c : Char) :
    (r.read source delimiter c).draft =
      ((r.mode.read delimiter c).2.foldl (Reader.take source)
        { r with mode := (r.mode.read delimiter c).1 }).draft := by
  simp only [Reader.read]
  split <;> rfl

theorem marked_read {r : Reader} (h : r.draft.Marked) (c : Char) :
    (r.read source delimiter c).draft.Marked := by
  rw [read_draft]
  exact marked_foldl_take source _ _ h

theorem marked_foldl_read (s : List Char) (r : Reader) (h : r.draft.Marked) :
    (s.foldl (Reader.read source delimiter) r).draft.Marked := by
  induction s generalizing r with
  | nil => exact h
  | cons c s ih => exact ih _ (marked_read source delimiter h c)

/-- The reader once the end of the script, or what comes next, releases what is held back. -/
def Reader.release (r : Reader) : Reader := r.mode.leftover.foldl (Reader.take source) r

/-- Wherever the reader stands, the line of its draft is known as soon as there is one to know. -/
theorem marked_release (s : List Char) :
    ((readerAfter source delimiter s).release source).draft.Marked :=
  marked_foldl_take source _ _ (marked_foldl_read source delimiter s .start marked_empty)

theorem foldl_take_text (events : List Event) (r : Reader) :
    (events.foldl (Reader.take source) r).draft.text.reverse =
      (textsBetween r.draft.text.reverse events).getLastD [] := by
  induction events generalizing r with
  | nil => rfl
  | cons e events ih =>
    rw [List.foldl_cons, ih]
    cases e with
    | keep c => rw [textsBetween, ← keep_text r.draft c r.line]; rfl
    | cut =>
      have hempty : (r.take source .cut).draft.text.reverse = [] := by
        simp only [Reader.take]
        split <;> rfl
      rw [hempty, textsBetween]
      obtain ⟨text, texts, htexts⟩ := List.exists_cons_of_ne_nil (textsBetween_ne_nil [] events)
      rw [htexts]
      rfl

/-- The draft holds the last of the texts that the cuts leave. -/
theorem release_text (s : List Char) (r : Reader) :
    ((s.foldl (Reader.read source delimiter) r).release source).draft.text.reverse =
      (textsBetween r.draft.text.reverse (r.mode.events delimiter s)).getLastD [] := by
  induction s generalizing r with
  | nil => exact foldl_take_text source r.mode.leftover r
  | cons c s ih =>
    rw [List.foldl_cons, ih, read_draft, read_mode, foldl_take_text, Mode.events, textsBetween_append]

end

/-! ## Blanks in drafts -/

section
variable (source : String) (last : Nat)

/-- Blanks before the first character of a draft do not show in the statements. -/
theorem assemble_leading_blanks {d e : Draft} {blanks : List Char}
    (hblanks : ∀ c ∈ blanks, Text.isBlank c = true) (hline : d.line = e.line)
    (htext : d.text.reverse = blanks ++ e.text.reverse) (es : List (Event × Nat)) :
    assemble source last d es = assemble source last e es := by
  induction es generalizing d e with
  | nil => simp only [assemble, Draft.statement?, htext, Text.trim_blanks_append hblanks, hline]
  | cons event es ih =>
    obtain ⟨event, line⟩ := event
    cases event with
    | keep c =>
      rw [assemble, assemble]
      apply ih
      · simp only [Draft.keep, hline]
      · rw [keep_text, keep_text, htext, List.append_assoc]
    | cut => simp only [assemble, Draft.statement?, htext, Text.trim_blanks_append hblanks, hline]

theorem statement?_empty (line : Nat) : Draft.empty.statement? source line = none := rfl

/-- Where only blanks come before the next cut, a cut in front of them makes no difference. -/
theorem assemble_blank_head {d : Draft} (hd : d.Marked) {es : List (Event × Nat)}
    (hblank : ∀ c ∈ (textsBetween [] (es.map Prod.fst)).headD [], Text.isBlank c = true) (line : Nat) :
    assemble source last d es =
      (d.statement? source line).toList ++ assemble source last .empty es := by
  induction es generalizing d with
  | nil =>
    rw [assemble, assemble, hd.statement?_eq source last line, statement?_empty]
    simp
  | cons event es ih =>
    obtain ⟨event, n⟩ := event
    cases event with
    | keep c =>
      obtain ⟨first, texts, htexts⟩ :=
        List.exists_cons_of_ne_nil (textsBetween_ne_nil [] (es.map Prod.fst))
      rw [List.map_cons, textsBetween, textsBetween_eq_modifyHead, htexts] at hblank
      have hc : Text.isBlank c = true := hblank c (by simp)
      have hes : ∀ x ∈ (textsBetween [] (es.map Prod.fst)).headD [], Text.isBlank x = true := by
        rw [htexts]
        intro x hx
        exact hblank x (by simpa using Or.inr hx)
      -- the blank goes to the statement before the cut or to the one behind it, and shows in neither
      calc assemble source last (d.keep c n) es
          = (d.statement? source line).toList ++ assemble source last .empty es := by
            rw [ih (hd.keep c n) hes, statement?_keep_blank d hc]
        _ = (d.statement? source line).toList ++ assemble source last (Draft.empty.keep c n) es := by
            rw [ih (marked_empty.keep c n) hes, statement?_keep_blank _ hc, statement?_empty]
            rfl
    | cut =>
      rw [assemble, assemble, hd.statement?_eq source n line, statement?_empty]
      rfl

end

end SqlSmell.Script
