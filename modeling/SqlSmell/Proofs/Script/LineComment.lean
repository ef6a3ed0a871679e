import SqlSmell.Proofs.Script.Draft
import SqlSmell.Proofs.Script.Lexemes

/- What a line comment does to the statements around it. In code, a comment is read as the newline that
   ends it (`trace_lineComment`), except that this newline is kept even where a newline is the delimiter
   and one in code would cut (`trace_newline`). So a comment can be dropped unless newlines delimit
   statements, and then it can be dropped exactly if there is nothing before it or nothing behind it to
   be joined (`statements_lineComment_iff`). -/
namespace SqlSmell.Script

/-- What a newline in code does. -/
def newlineEvent (delimiter : Char) : Event := if delimiter = '\n' then .cut else .keep '\n'

/-! ## Modes -/

section
variable {delimiter : Char} {mode : Mode}

theorem readCode_ne_dash {c : Char} (h : c ≠ '-') : (readCode delimiter c).1 ≠ .dash := by
  simp only [readCode, beq_iff_eq, h, if_false]
  split
  · simp
  · split
    · simp
    · split <;> simp

/-- Only a `-` is held back as one. -/
theorem read_ne_dash {c : Char} (h : c ≠ '-') : (mode.read delimiter c).1 ≠ .dash := by
  cases mode with
  | code => exact readCode_ne_dash h
  | dash => simpa [Mode.read, h, readBehind] using readCode_ne_dash h
  | slash =>
    simp only [Mode.read]
    split
    · simp
    · exact readCode_ne_dash h
  | quoted mark => simp only [Mode.read]; split <;> simp
  | lineComment => simp only [Mode.read]; split <;> simp
  | blockComment => simp only [Mode.read]; split <;> simp
  | blockStar =>
    simp only [Mode.read]
    split
    · simp
    · split <;> simp

theorem after_ne_dash {s : List Char} (h : s.getLast? ≠ some '-') :
    Mode.code.after delimiter s ≠ .dash := by
  rcases List.eq_nil_or_concat s with rfl | ⟨s, c, rfl⟩
  · exact Mode.noConfusion
  · rw [List.concat_eq_append] at h ⊢
    rw [Mode.after, List.foldl_append]
    exact read_ne_dash (by simpa using h)

end

/-! ## Traces -/

section
variable (delimiter : Char) (line : Nat)

theorem trace_lineComment_body {body : List Char} (h : '\n' ∉ body) (s : List Char) :
    Mode.lineComment.trace delimiter line (body ++ '\n' :: s) =
      (.keep '\n', line) :: Mode.code.trace delimiter (line + 1) s := by
  induction body with
  | nil => rfl
  | cons c body ih =>
    rw [List.mem_cons, not_or] at h
    have hc : c ≠ '\n' := Ne.symm h.1
    rw [← ih h.2]
    simp [Mode.trace, Mode.read, lineAfter, hc]

variable {mode : Mode} (hcode : mode.isCode = true)
include hcode

/-- In code, a line comment is the newline that ends it; what was held back is released. -/
theorem trace_lineComment (hdelimiter : delimiter ≠ '-') (hdash : mode ≠ .dash) {body : List Char}
    (h : '\n' ∉ body) (s : List Char) :
    mode.trace delimiter line ('-' :: '-' :: (body ++ '\n' :: s)) =
      mode.leftover.map (·, line) ++
        (.keep '\n', line) :: Mode.code.trace delimiter (line + 1) s := by
  rw [← trace_lineComment_body delimiter line h s]
  cases mode with
  | code => simp [Mode.trace, Mode.read, readCode, Mode.leftover, lineAfter, Ne.symm hdelimiter]
  | slash =>
    simp [Mode.trace, Mode.read, readBehind, readCode, Mode.leftover, lineAfter, Ne.symm hdelimiter]
  | dash => contradiction
  | _ => contradiction

theorem trace_newline (s : List Char) :
    mode.trace delimiter line ('\n' :: s) =
      mode.leftover.map (·, line) ++
        (newlineEvent delimiter, line) :: Mode.code.trace delimiter (line + 1) s := by
  by_cases h : delimiter = '\n'
  · subst h
    cases mode <;> first | contradiction | rfl
  · cases mode <;> first
      | contradiction
      | simp [Mode.trace, Mode.read, readBehind, readCode, Mode.leftover, lineAfter, newlineEvent,
          h, Ne.symm h, isQuote]

end

/-! ## Statements -/

theorem foldl_lineAfter_of_notMem {s : List Char} (h : '\n' ∉ s) (line : Nat) :
    s.foldl lineAfter line = line := by
  induction s with
  | nil => rfl
  | cons c s ih =>
    rw [List.mem_cons, not_or] at h
    have hc : lineAfter line c = line := by simp [lineAfter, Ne.symm h.1]
    rw [List.foldl_cons, hc, ih h.2]

section
variable {source a b body : String} {delimiter : Char}
  (hcode : (readerAfter source delimiter a.toList).mode.isCode = true)
include hcode

theorem statements_newline :
    statements source delimiter (a ++ "\n" ++ b) =
      ((readerAfter source delimiter a.toList).release source).outcome source
        (b.toList.foldl lineAfter ((readerAfter source delimiter a.toList).line + 1))
        ((newlineEvent delimiter, (readerAfter source delimiter a.toList).line) ::
          Mode.code.trace delimiter ((readerAfter source delimiter a.toList).line + 1) b.toList) := by
  have hchars : ("\n" ++ b).toList = '\n' :: b.toList := by simp
  rw [String.append_assoc, statements_append, hchars, trace_newline delimiter _ hcode, Reader.release,
    foldl_take_outcome]
  rfl

theorem statements_lineComment (hdelimiter : delimiter ≠ '-') (hlast : a.toList.getLast? ≠ some '-')
    (hbody : '\n' ∉ body.toList) :
    statements source delimiter (a ++ "--" ++ body ++ "\n" ++ b) =
      ((readerAfter source delimiter a.toList).release source).outcome source
        (b.toList.foldl lineAfter ((readerAfter source delimiter a.toList).line + 1))
        ((.keep '\n', (readerAfter source delimiter a.toList).line) ::
          Mode.code.trace delimiter ((readerAfter source delimiter a.toList).line + 1) b.toList) := by
  have hchars : ("--" ++ body ++ "\n" ++ b).toList =
      '-' :: '-' :: (body.toList ++ '\n' :: b.toList) := by simp
  have hdash : (readerAfter source delimiter a.toList).mode ≠ .dash := by
    rw [readerAfter_mode]
    exact after_ne_dash hlast
  have hassoc : a ++ "--" ++ body ++ "\n" ++ b = a ++ ("--" ++ body ++ "\n" ++ b) := by
    simp only [String.append_assoc]
  have hlines : ∀ line, ('-' :: '-' :: (body.toList ++ '\n' :: b.toList)).foldl lineAfter line =
      b.toList.foldl lineAfter (line + 1) := by
    intro line
    have hmarks : '\n' ∉ '-' :: '-' :: body.toList := by simpa using hbody
    calc ('-' :: '-' :: body.toList ++ '\n' :: b.toList).foldl lineAfter line
        = ('\n' :: b.toList).foldl lineAfter line := by
          rw [List.foldl_append, foldl_lineAfter_of_notMem hmarks]
      _ = b.toList.foldl lineAfter (line + 1) := rfl
  rw [hassoc, statements_append, hchars, trace_lineComment delimiter _ hcode hdelimiter hdash hbody,
    hlines, Reader.release, foldl_take_outcome]

end

section
variable (source : String) (last : Nat)

theorem length_statement? {d : Draft} (h : Text.trim d.text.reverse ≠ []) (line : Nat) :
    (d.statement? source line).toList.length = 1 := by
  rw [statement?_of_text h]
  rfl

/-- Where the first text is not blank, what is kept in front of it makes no statement more or less. -/
theorem length_assemble {es : List (Event × Nat)}
    (h : Text.trim ((textsBetween [] (es.map Prod.fst)).headD []) ≠ []) (d e : Draft) :
    (assemble source last d es).length = (assemble source last e es).length := by
  obtain ⟨first, texts, htexts⟩ :=
    List.exists_cons_of_ne_nil (textsBetween_ne_nil [] (es.map Prod.fst))
  rw [htexts, List.headD_cons] at h
  have hfirst : ∀ text, trimmedTexts [text ++ first] = [Text.trim (text ++ first)] := by
    intro text
    have htext : Text.trim (text ++ first) ≠ [] := by
      intro hblank
      have hchars := Text.trim_eq_nil_iff.mp hblank
      exact h (Text.trim_eq_nil_iff.mpr fun c hc => hchars c (List.mem_append_right text hc))
    simp [trimmedTexts, htext]
  have hcount : ∀ d : Draft, (assemble source last d es).length = 1 + (trimmedTexts texts).length := by
    intro d
    have hlength := congrArg List.length (assemble_texts source last d es)
    rwa [textsBetween_eq_modifyHead, htexts, List.modifyHead_cons, trimmedTexts_cons, hfirst,
      List.length_map, List.length_map, List.length_append] at hlength
  rw [hcount d, hcount e]

theorem assemble_newline_of_blank {d : Draft} (hd : d.Marked) (hblank : Text.trim d.text.reverse = [])
    (line : Nat) (es : List (Event × Nat)) :
    assemble source last (d.keep '\n' line) es = assemble source last .empty es := by
  have hchars := Text.trim_eq_nil_iff.mp hblank
  have hkept : ∀ c ∈ d.text.reverse ++ ['\n'], Text.isBlank c = true := by
    intro c hc
    rcases List.mem_append.mp hc with hc | hc
    · exact hchars c hc
    · rw [List.mem_singleton.mp hc]
      decide
  apply assemble_leading_blanks source last hkept
  · rw [keep_line_of_blank d (by decide), hd.mpr hblank]
    rfl
  · rw [keep_text]
    simp [Draft.empty]

/-- A newline that is kept between two texts is as good as a cut there exactly if one of them is
    blank. -/
theorem assemble_newline_iff {d : Draft} (hd : d.Marked) (line : Nat) (es : List (Event × Nat)) :
    assemble source last d ((.keep '\n', line) :: es) =
        assemble source last d ((.cut, line) :: es) ↔
      Text.trim d.text.reverse = [] ∨ Text.trim ((textsBetween [] (es.map Prod.fst)).headD []) = [] := by
  rw [assemble, assemble]
  constructor
  · intro heq
    by_contra hneither
    obtain ⟨hdraft, hfirst⟩ := not_or.mp hneither
    -- with a cut there is one statement more
    have hlength := congrArg List.length heq
    rw [List.length_append, length_statement? source hdraft,
      length_assemble source last hfirst (d.keep '\n' line) .empty] at hlength
    omega
  · rintro (hblank | hblank)
    · rw [assemble_newline_of_blank source last hd hblank, statement?_of_blank hblank]
      rfl
    · rw [assemble_blank_head source last (hd.keep '\n' line) (Text.trim_eq_nil_iff.mp hblank) line,
        statement?_keep_blank d (by decide)]

end

/-- What the reader has kept since the last cut is what the last piece of the text leaves. -/
theorem release_readerAfter_text (source : String) (delimiter : Char) (s : List Char) :
    ((readerAfter source delimiter s).release source).draft.text.reverse =
      ((pieces delimiter s).getLastD []).flatMap Lexeme.kept := by
  have htext : ((readerAfter source delimiter s).release source).draft.text.reverse =
      (textsBetween [] (Mode.code.events delimiter s)).getLastD [] :=
    release_text source delimiter s .start
  rw [htext, textsBetween_events]
  exact List.getLastD_map (f := List.flatMap Lexeme.kept) (a := [])

/-- **Dropping a line comment.** Let the reader be outside quotes and comments behind `a`, with no `-`
    held back. A comment there, up to its newline, leaves the statements and lines that the newline alone
    would leave, for every delimiter but the newline; where newlines delimit, the comment joins what is
    before it to what is behind it, and makes a difference exactly if neither is blank. -/
theorem statements_lineComment_iff {source a body b : String} {delimiter : Char}
    (hdelimiter : delimiter ≠ '-') (hbody : '\n' ∉ body.toList)
    (hcode : (readerAfter source delimiter a.toList).mode.isCode = true)
    (hlast : a.toList.getLast? ≠ some '-') :
    statements source delimiter (a ++ "--" ++ body ++ "\n" ++ b) =
        statements source delimiter (a ++ "\n" ++ b) ↔
      (delimiter = '\n' → pieceText ((pieces delimiter a.toList).getLastD []) = [] ∨
        pieceText ((pieces delimiter b.toList).headD []) = []) := by
  rw [statements_lineComment hcode hdelimiter hlast hbody, statements_newline hcode]
  by_cases hnewline : delimiter = '\n'
  · have hmarked := marked_release source delimiter a.toList
    have hfirst : ((pieces delimiter b.toList).map (List.flatMap Lexeme.kept)).headD [] =
        ((pieces delimiter b.toList).headD []).flatMap Lexeme.kept := by
      cases pieces delimiter b.toList <;> rfl
    rw [newlineEvent, if_pos hnewline, Reader.outcome, Reader.outcome, List.append_cancel_left_eq,
      assemble_newline_iff source _ hmarked, trace_events, textsBetween_events, hfirst, release_readerAfter_text]
    exact ⟨fun h _ => h, fun h => h hnewline⟩
  · rw [newlineEvent, if_neg hnewline]
    exact iff_of_true rfl fun h => absurd h hnewline

/-- A delimiter and a quotation mark in the comment are dropped with it, and a `/` is held back in front
    of it. -/
theorem statements_lineComment_half :
    (readerAfter "a.sql" ';' "select 4 /".toList).mode = .slash ∧
    statements "a.sql" ';' ("select 4 /" ++ "--" ++ " it's; half" ++ "\n" ++ "2; select 3") =
      statements "a.sql" ';' ("select 4 /" ++ "\n" ++ "2; select 3") :=
  ⟨by decide,
    (statements_lineComment_iff (by decide) (by decide) (by decide) (by decide)).mpr (by decide)⟩

/-- Where newlines delimit statements, the newline that ends a comment does not. -/
theorem lineComment_joins_lines :
    '\n' ∉ " one".toList ∧ (readerAfter "t.sql" '\n' "select 1 ".toList).mode = .code ∧
    "select 1 ".toList.getLast? = some ' ' ∧
    statements "t.sql" '\n' ("select 1 " ++ "\n" ++ "select 2") =
      [⟨"t.sql", 1, "select 1"⟩, ⟨"t.sql", 2, "select 2"⟩] ∧
    statements "t.sql" '\n' ("select 1 " ++ "--" ++ " one" ++ "\n" ++ "select 2") =
      [⟨"t.sql", 1, "select 1 \nselect 2"⟩] := by
  decide +kernel

end SqlSmell.Script
