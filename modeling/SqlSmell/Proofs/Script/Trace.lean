import SqlSmell.Script.Statements

/- The run of the reader over a script as a list of events, and the statements as a function of that
   list. `Mode.trace` gives every event with the line on which it is taken; `assemble` builds the
   statements from them. The reader is the composition of the two (`statements_eq_assemble`), so that
   properties of statements are proved about events, without the reader's state. The texts of the
   statements depend on the events alone, not on their lines (`assemble_texts`). -/
namespace SqlSmell.Script

/-- Outside quotes and comments; a character may be held back. -/
def Mode.isCode : Mode → Bool
  | .code | .dash | .slash => true
  | _ => false

/-- The line of the character behind `c`, which stands on the given line. -/
def lineAfter (line : Nat) (c : Char) : Nat := if c == '\n' then line + 1 else line

/-- The events of the rest of a script with their lines, from a mode and the line of the next
    character. -/
def Mode.trace (delimiter : Char) : Mode → (line : Nat) → List Char → List (Event × Nat)
  | mode, line, [] => mode.leftover.map (·, line)
  | mode, line, c :: s =>
    (mode.read delimiter c).2.map (·, line) ++
      (mode.read delimiter c).1.trace delimiter (lineAfter line c) s

/-- The events of the rest of a script. -/
def Mode.events (delimiter : Char) : Mode → List Char → List Event
  | mode, [] => mode.leftover
  | mode, c :: s => (mode.read delimiter c).2 ++ (mode.read delimiter c).1.events delimiter s

/-- The statements that a draft and the events after it give; `last` is the line of the script's
    end. -/
def assemble (source : String) (last : Nat) : Draft → List (Event × Nat) → List Statement
  | draft, [] => (draft.statement? source last).toList
  | draft, (.keep c, line) :: es => assemble source last (draft.keep c line) es
  | draft, (.cut, line) :: es =>
    (draft.statement? source line).toList ++ assemble source last .empty es

theorem trace_events (delimiter : Char) (mode : Mode) (line : Nat) (s : List Char) :
    (mode.trace delimiter line s).map Prod.fst = mode.events delimiter s := by
  induction s generalizing mode line with
  | nil => simp [Mode.trace, Mode.events, Function.comp_def]
  | cons c s ih => simp [Mode.trace, Mode.events, Function.comp_def, ih]

/-! ## The reader -/

section
variable (source : String) (last : Nat)

/-- The statements that a reader gives if the events of the rest are the given ones. -/
def Reader.outcome (r : Reader) (es : List (Event × Nat)) : List Statement :=
  r.finished.reverse ++ assemble source last r.draft es

theorem take_line (r : Reader) (e : Event) : (r.take source e).line = r.line := by
  cases e with
  | keep c => rfl
  | cut => simp only [Reader.take]; split <;> rfl

theorem take_mode (r : Reader) (e : Event) : (r.take source e).mode = r.mode := by
  cases e with
  | keep c => rfl
  | cut => simp only [Reader.take]; split <;> rfl

theorem take_outcome (r : Reader) (e : Event) (es : List (Event × Nat)) :
    (r.take source e).outcome source last es = r.outcome source last ((e, r.line) :: es) := by
  cases e with
  | keep c => rfl
  | cut =>
    cases h : r.draft.statement? source r.line with
    | none => simp [Reader.outcome, Reader.take, assemble, h]
    | some s => simp [Reader.outcome, Reader.take, assemble, h]

theorem foldl_take_line (events : List Event) (r : Reader) :
    (events.foldl (Reader.take source) r).line = r.line := by
  induction events generalizing r with
  | nil => rfl
  | cons e events ih => rw [List.foldl_cons, ih, take_line]

theorem foldl_take_mode (events : List Event) (r : Reader) :
    (events.foldl (Reader.take source) r).mode = r.mode := by
  induction events generalizing r with
  | nil => rfl
  | cons e events ih => rw [List.foldl_cons, ih, take_mode]

theorem foldl_take_outcome (events : List Event) (r : Reader) (es : List (Event × Nat)) :
    (events.foldl (Reader.take source) r).outcome source last es =
      r.outcome source last (events.map (·, r.line) ++ es) := by
  induction events generalizing r with
  | nil => rfl
  | cons e events ih =>
    rw [List.foldl_cons, ih, take_outcome, take_line]
    rfl

theorem read_line (delimiter : Char) (r : Reader) (c : Char) :
    (r.read source delimiter c).line = lineAfter r.line c := by
  simp only [Reader.read, lineAfter]
  split <;> simp [foldl_take_line]

theorem read_mode (delimiter : Char) (r : Reader) (c : Char) :
    (r.read source delimiter c).mode = (r.mode.read delimiter c).1 := by
  simp only [Reader.read]
  split <;> simp [foldl_take_mode]

theorem read_outcome (delimiter : Char) (r : Reader) (c : Char) (es : List (Event × Nat)) :
    (r.read source delimiter c).outcome source last es =
      r.outcome source last ((r.mode.read delimiter c).2.map (·, r.line) ++ es) := by
  -- counting the line up changes neither the draft nor the finished statements
  have hcount : (r.read source delimiter c).outcome source last es =
      (((r.mode.read delimiter c).2.foldl (Reader.take source)
        { r with mode := (r.mode.read delimiter c).1 }).outcome source last es) := by
    simp only [Reader.read]
    split <;> rfl
  rw [hcount, foldl_take_outcome]
  rfl

/-- What the reader gives in the end is what its state and the trace of the rest give. -/
theorem close_foldl_read (delimiter : Char) (s : List Char) (r : Reader) :
    (s.foldl (Reader.read source delimiter) r).close source =
      r.outcome source (s.foldl lineAfter r.line) (r.mode.trace delimiter r.line s) := by
  induction s generalizing r with
  | nil =>
    have hcut := foldl_take_outcome source r.line r.mode.leftover r []
    simp only [List.foldl_nil, Reader.close, List.foldl_append, List.foldl_cons, Mode.trace]
    rw [List.append_nil] at hcut
    rw [← hcut]
    generalize hr : r.mode.leftover.foldl (Reader.take source) r = q
    have hline : q.line = r.line := by rw [← hr, foldl_take_line]
    cases h : q.draft.statement? source q.line with
    | none => simp [Reader.take, Reader.outcome, assemble, h, ← hline]
    | some x => simp [Reader.take, Reader.outcome, assemble, h, ← hline]
  | cons c s ih =>
    rw [List.foldl_cons, ih, read_line, read_mode, read_outcome]
    rfl

/-- The statements of a script are assembled from its trace. -/
theorem statements_eq_assemble (delimiter : Char) (script : String) :
    statements source delimiter script =
      assemble source (script.toList.foldl lineAfter 1) .empty
        (Mode.code.trace delimiter 1 script.toList) := by
  rw [statements, close_foldl_read]
  rfl

end

/-! ## A script in two parts -/

/-- The reader once it has read the start of a script. -/
def readerAfter (source : String) (delimiter : Char) (s : List Char) : Reader :=
  s.foldl (Reader.read source delimiter) .start

/-- The mode of the reader behind a text. -/
def Mode.after (delimiter : Char) (mode : Mode) (s : List Char) : Mode :=
  s.foldl (fun mode c => (mode.read delimiter c).1) mode

theorem foldl_read_mode (source : String) (delimiter : Char) (s : List Char) (r : Reader) :
    (s.foldl (Reader.read source delimiter) r).mode = r.mode.after delimiter s := by
  induction s generalizing r with
  | nil => rfl
  | cons c s ih =>
    rw [List.foldl_cons, ih, read_mode]
    rfl

theorem readerAfter_mode (source : String) (delimiter : Char) (s : List Char) :
    (readerAfter source delimiter s).mode = Mode.code.after delimiter s :=
  foldl_read_mode source delimiter s .start

/-- What comes behind the start of a script is read from where the reader then stands. -/
theorem statements_append (source : String) (delimiter : Char) (s t : String) :
    statements source delimiter (s ++ t) =
      (readerAfter source delimiter s.toList).outcome source
        (t.toList.foldl lineAfter (readerAfter source delimiter s.toList).line)
        ((readerAfter source delimiter s.toList).mode.trace delimiter
          (readerAfter source delimiter s.toList).line t.toList) := by
  rw [statements, String.toList_append, List.foldl_append, close_foldl_read]
  rfl

/-! ## Texts -/

/-- The texts between the cuts, where `text` has been kept before the first event. -/
def textsBetween : (text : List Char) → List Event → List (List Char)
  | text, [] => [text]
  | text, .keep c :: es => textsBetween (text ++ [c]) es
  | text, .cut :: es => text :: textsBetween [] es

/-- The texts without leading and trailing blanks, as far as something is left of them. -/
def trimmedTexts (texts : List (List Char)) : List (List Char) :=
  (texts.map Text.trim).filter (· ≠ [])

theorem trimmedTexts_cons (text : List Char) (texts : List (List Char)) :
    trimmedTexts (text :: texts) = trimmedTexts [text] ++ trimmedTexts texts := by
  simp only [trimmedTexts, List.map_cons, List.map_nil]
  rw [← List.filter_append]
  rfl

theorem keep_text (d : Draft) (c : Char) (line : Nat) :
    (d.keep c line).text.reverse = d.text.reverse ++ [c] := by
  simp [Draft.keep]

theorem statement?_texts (draft : Draft) (source : String) (line : Nat) :
    (draft.statement? source line).toList.map Statement.text =
      (trimmedTexts [draft.text.reverse]).map String.ofList := by
  unfold Draft.statement? trimmedTexts
  split
  · next h => simp [h]
  · next h => simp [List.filter, show Text.trim draft.text.reverse ≠ [] from h]

/-- The texts of the assembled statements are the trimmed texts between the cuts. -/
theorem assemble_texts (source : String) (last : Nat) (draft : Draft) (es : List (Event × Nat)) :
    (assemble source last draft es).map Statement.text =
      (trimmedTexts (textsBetween draft.text.reverse (es.map Prod.fst))).map String.ofList := by
  induction es generalizing draft with
  | nil => exact statement?_texts draft source last
  | cons e es ih =>
    obtain ⟨e, line⟩ := e
    cases e with
    | keep c =>
      rw [assemble, ih, keep_text]
      rfl
    | cut =>
      rw [assemble, List.map_append, statement?_texts, ih, ← List.map_append,
        ← trimmedTexts_cons]
      rfl

end SqlSmell.Script
