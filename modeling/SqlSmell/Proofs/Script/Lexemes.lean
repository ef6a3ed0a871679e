import SqlSmell.Proofs.Script.Trace
import SqlSmell.Proofs.Text.Find

/- The grammar of scripts. A script is a sequence of lexemes: delimiters, comments, quoted segments and
   single characters, each taken from the front of what is left. `lexemes` says so without a mode or
   a character held back: a comment or a segment is read up to its end in one go. The main result
   (`statements_text_eq`) is that the statements of a script are the texts that the lexemes between
   two delimiters leave, trimmed, for every script and every delimiter, be it a quotation mark, a
   blank or part of a comment's mark. -/
namespace SqlSmell.Script

open Text (Span)

/-! ## Lexemes -/

/-- A piece of a script. Comments and quoted segments come with the text inside them, and may lack
    their end if the script runs out. -/
inductive Lexeme
  | delimiter
  /-- `--` up to the end of the line. -/
  | lineComment (body : List Char) (closed : Bool)
  /-- `/*` up to `*/`. -/
  | blockComment (body : List Char) (closed : Bool)
  /-- A quotation mark up to the next one of its kind. -/
  | quoted (mark : Char) (body : List Char) (closed : Bool)
  | plain (c : Char)
deriving DecidableEq

/-- Is it the delimiter? -/
def Lexeme.isDelimiter : Lexeme → Bool
  | .delimiter => true
  | _ => false

/-- The text that a lexeme leaves in its statement. -/
def Lexeme.kept : Lexeme → List Char
  | .delimiter => []
  | .lineComment _ closed => bif closed then ['\n'] else []
  | .blockComment _ closed => bif closed then [' '] else []
  | .quoted mark body closed => mark :: body ++ (bif closed then [mark] else [])
  | .plain c => [c]

/-- The text of the script that a lexeme stands for. -/
def Lexeme.written (delimiter : Char) : Lexeme → List Char
  | .delimiter => [delimiter]
  | .lineComment body closed => '-' :: '-' :: body ++ (bif closed then ['\n'] else [])
  | .blockComment body closed => '/' :: '*' :: body ++ (bif closed then ['*', '/'] else [])
  | .quoted mark body closed => mark :: body ++ (bif closed then [mark] else [])
  | .plain c => [c]

/-- The first lexeme of the text `c :: s`, and the text behind it. The delimiter comes first, then
    comments, then quotation marks. -/
def firstLexeme (delimiter c : Char) (s : List Char) : Lexeme × List Char :=
  if c = delimiter then (.delimiter, s)
  else
    match c, s with
    | '-', '-' :: s =>
      let span := Span.upTo ['\n'] s
      (.lineComment span.body span.closed, span.rest)
    | '/', '*' :: s =>
      let span := Span.upTo ['*', '/'] s
      (.blockComment span.body span.closed, span.rest)
    | c, s =>
      if isQuote c then
        let span := Span.upTo [c] s
        (.quoted c span.body span.closed, span.rest)
      else (.plain c, s)

theorem firstLexeme_written (delimiter c : Char) (s : List Char) :
    (firstLexeme delimiter c s).1.written delimiter ++ (firstLexeme delimiter c s).2 = c :: s := by
  unfold firstLexeme
  split
  · next h => simp [Lexeme.written, h]
  · split
    · simpa [Lexeme.written] using Span.upTo_text ['\n'] _
    · simpa [Lexeme.written] using Span.upTo_text ['*', '/'] _
    · split
      · simpa [Lexeme.written] using Span.upTo_text [c] s
      · rfl

theorem firstLexeme_length (delimiter c : Char) (s : List Char) :
    (firstLexeme delimiter c s).2.length ≤ s.length := by
  have hlength := congrArg List.length (firstLexeme_written delimiter c s)
  have hpos : 0 < ((firstLexeme delimiter c s).1.written delimiter).length := by
    cases (firstLexeme delimiter c s).1 <;> simp [Lexeme.written]
  rw [List.length_append, List.length_cons] at hlength
  omega

/-- The lexemes of a script. -/
def lexemes (delimiter : Char) : List Char → List Lexeme
  | [] => []
  | c :: s =>
    (firstLexeme delimiter c s).1 :: lexemes delimiter (firstLexeme delimiter c s).2
termination_by s => s.length
decreasing_by exact Nat.lt_succ_of_le (firstLexeme_length delimiter c s)

theorem lexemes_written (delimiter : Char) (s : List Char) :
    (lexemes delimiter s).flatMap (Lexeme.written delimiter) = s := by
  fun_induction lexemes delimiter s with
  | case1 => rfl
  | case2 c s ih => rw [List.flatMap_cons, ih, firstLexeme_written]

/-- The lexemes before, between and behind the delimiters. -/
def pieces (delimiter : Char) (s : List Char) : List (List Lexeme) :=
  (lexemes delimiter s).splitOnP Lexeme.isDelimiter

/-- The text of a statement, from its lexemes. -/
def pieceText (piece : List Lexeme) : List Char := Text.trim (piece.flatMap Lexeme.kept)

/-- The pieces that are statements: those of which more than blanks is left. -/
def statementPieces (delimiter : Char) (s : List Char) : List (List Lexeme) :=
  (pieces delimiter s).filter (pieceText · ≠ [])

/-! ## The events of a lexeme -/

/-- The events that keep a text. -/
def keeps (s : List Char) : List Event := s.map .keep

/-- What a lexeme does to the statement in progress. -/
def Lexeme.events (lexeme : Lexeme) : List Event :=
  if lexeme.isDelimiter then [.cut] else keeps lexeme.kept

section
variable (delimiter : Char)

theorem events_lineComment (s : List Char) :
    Mode.lineComment.events delimiter s =
      keeps (bif (Span.upTo ['\n'] s).closed then ['\n'] else []) ++
        Mode.code.events delimiter (Span.upTo ['\n'] s).rest := by
  induction s with
  | nil => rfl
  | cons c s ih =>
    by_cases h : c = '\n'
    · subst h
      rw [Span.upTo_mark]
      rfl
    · rw [Span.upTo_of_ne_mark h]
      simpa [Mode.events, Mode.read, h] using ih

theorem events_quoted (mark : Char) (s : List Char) :
    (Mode.quoted mark).events delimiter s =
      keeps ((Span.upTo [mark] s).body ++ (bif (Span.upTo [mark] s).closed then [mark] else [])) ++
        Mode.code.events delimiter (Span.upTo [mark] s).rest := by
  induction s with
  | nil => rfl
  | cons c s ih =>
    by_cases h : c = mark
    · subst h
      simp [Span.upTo_mark, Mode.events, Mode.read, keeps]
    · rw [Span.upTo_of_ne_mark h]
      simpa [Mode.events, Mode.read, h, keeps] using ih

/-- A `*` held back in a block comment that no `/` follows is like any other character in it. -/
theorem events_blockStar {c : Char} (h : c ≠ '/') (s : List Char) :
    Mode.blockStar.events delimiter (c :: s) = Mode.blockComment.events delimiter (c :: s) := by
  simp [Mode.events, Mode.read, h]

theorem events_blockComment (s : List Char) :
    Mode.blockComment.events delimiter s =
      keeps (bif (Span.upTo ['*', '/'] s).closed then [' '] else []) ++
        Mode.code.events delimiter (Span.upTo ['*', '/'] s).rest := by
  induction s with
  | nil => rfl
  | cons c s ih =>
    by_cases hc : c = '*'
    · subst hc
      cases s with
      | nil => rfl
      | cons c s =>
        by_cases h : c = '/'
        · subst h
          have hend : Span.upTo ['*', '/'] ('*' :: '/' :: s) = ⟨[], true, s⟩ :=
            Span.upTo_of_start rfl
          rw [hend]
          rfl
        · -- the `*` is passed, and the next character is read as any in the comment
          rw [Span.upTo_of_not_start (by simpa using Ne.symm h)]
          refine Eq.trans ?_ ih
          exact events_blockStar delimiter h s
    · rw [Span.upTo_of_not_start (by simp [Ne.symm hc])]
      simpa [Mode.events, Mode.read, hc] using ih

/-- A `-` held back that no second one follows is plain. -/
theorem events_dash {s : List Char} (h : ∀ t, s ≠ '-' :: t) :
    Mode.dash.events delimiter s = .keep '-' :: Mode.code.events delimiter s := by
  cases s with
  | nil => rfl
  | cons c s =>
    have hc : c ≠ '-' := fun hc => h s (by rw [hc])
    simp [Mode.events, Mode.read, readBehind, hc]

/-- A `/` held back that no `*` follows is plain. -/
theorem events_slash {s : List Char} (h : ∀ t, s ≠ '*' :: t) :
    Mode.slash.events delimiter s = .keep '/' :: Mode.code.events delimiter s := by
  cases s with
  | nil => rfl
  | cons c s =>
    have hc : c ≠ '*' := fun hc => h s (by rw [hc])
    simp [Mode.events, Mode.read, readBehind, hc]

theorem events_quote {c : Char} (hd : c ≠ delimiter) (hq : isQuote c = true) (s : List Char) :
    Mode.code.events delimiter (c :: s) = .keep c :: (Mode.quoted c).events delimiter s := by
  have hdash : c ≠ '-' := by rintro rfl; simp [isQuote] at hq
  have hslash : c ≠ '/' := by rintro rfl; simp [isQuote] at hq
  simp [Mode.events, Mode.read, readCode, hd, hq, hdash, hslash]

theorem events_plain {c : Char} (hd : c ≠ delimiter) (hq : isQuote c = false) {s : List Char}
    (hdash : ∀ t, c = '-' → s ≠ '-' :: t) (hslash : ∀ t, c = '/' → s ≠ '*' :: t) :
    Mode.code.events delimiter (c :: s) = .keep c :: Mode.code.events delimiter s := by
  by_cases h : c = '-'
  · subst h
    rw [← events_dash delimiter fun t => hdash t rfl]
    simp [Mode.events, Mode.read, readCode, hd]
  · by_cases h' : c = '/'
    · subst h'
      rw [← events_slash delimiter fun t => hslash t rfl]
      simp [Mode.events, Mode.read, readCode, hd]
    · simp [Mode.events, Mode.read, readCode, hd, hq, h, h']

/-- In code, the reader takes one lexeme after the other. -/
theorem events_firstLexeme (c : Char) (s : List Char) :
    Mode.code.events delimiter (c :: s) = (firstLexeme delimiter c s).1.events ++
      Mode.code.events delimiter (firstLexeme delimiter c s).2 := by
  unfold firstLexeme
  split
  · next hd => simp [Mode.events, Mode.read, readCode, hd, Lexeme.events, Lexeme.isDelimiter]
  · split
    · rename_i s hd
      have hread : Mode.code.events delimiter ('-' :: '-' :: s) =
          Mode.lineComment.events delimiter s := by
        simp [Mode.events, Mode.read, readCode, hd]
      rw [hread, events_lineComment]
      rfl
    · rename_i s hd
      have hread : Mode.code.events delimiter ('/' :: '*' :: s) =
          Mode.blockComment.events delimiter s := by
        simp [Mode.events, Mode.read, readCode, hd]
      rw [hread, events_blockComment]
      rfl
    · rename_i hd _ _ hdash hslash
      split
      · next hq =>
        rw [events_quote delimiter hd hq, events_quoted]
        rfl
      · next hq =>
        rw [events_plain delimiter hd (by simpa using hq) (fun t hc hs => hdash t hc hs)
          (fun t hc hs => hslash t hc hs)]
        rfl

/-- The events of a script are those of its lexemes. -/
theorem events_eq_lexemes (s : List Char) :
    Mode.code.events delimiter s = (lexemes delimiter s).flatMap Lexeme.events := by
  fun_induction lexemes delimiter s with
  | case1 => rfl
  | case2 c s ih => rw [events_firstLexeme, ih, List.flatMap_cons]

end

/-! ## The texts of statements -/

theorem textsBetween_keeps (text s : List Char) (es : List Event) :
    textsBetween text (keeps s ++ es) = textsBetween (text ++ s) es := by
  induction s generalizing text with
  | nil => simp [keeps]
  | cons c s ih => simpa [keeps, textsBetween] using ih (text ++ [c])

theorem textsBetween_lexemes (text : List Char) (ls : List Lexeme) :
    textsBetween text (ls.flatMap Lexeme.events) =
      ((ls.splitOnP Lexeme.isDelimiter).map (List.flatMap Lexeme.kept)).modifyHead (text ++ ·) := by
  induction ls generalizing text with
  | nil => simp [textsBetween]
  | cons l ls ih =>
    obtain ⟨piece, more, hls⟩ :=
      List.exists_cons_of_ne_nil (List.splitOnP_ne_nil Lexeme.isDelimiter ls)
    rw [List.flatMap_cons, List.splitOnP_cons_eq_if_modifyHead, Lexeme.events, hls]
    cases hl : l.isDelimiter with
    | true => simp [textsBetween, ih, hls]
    | false => simp [textsBetween_keeps, ih, hls]

theorem trimmedTexts_pieces (delimiter : Char) (s : List Char) :
    trimmedTexts ((pieces delimiter s).map (List.flatMap Lexeme.kept)) =
      (statementPieces delimiter s).map pieceText := by
  simp only [trimmedTexts, statementPieces, List.map_map, List.filter_map]
  rfl

/-- The texts between the cuts are those that the lexemes between two delimiters leave. -/
theorem textsBetween_events (delimiter : Char) (s : List Char) :
    textsBetween [] (Mode.code.events delimiter s) =
      (pieces delimiter s).map (List.flatMap Lexeme.kept) := by
  rw [events_eq_lexemes, textsBetween_lexemes]
  simp only [List.nil_append]
  exact congrFun List.modifyHead_id _

/-- The texts of the statements, as the lexemes between two delimiters leave them. -/
theorem statements_texts (source : String) (delimiter : Char) (script : String) :
    (statements source delimiter script).map Statement.text =
      (trimmedTexts ((pieces delimiter script.toList).map (List.flatMap Lexeme.kept))).map
        String.ofList := by
  rw [statements_eq_assemble, assemble_texts, trace_events, ← textsBetween_events]
  rfl

/-- The lexemes tile the script, and its statements are the texts that they leave between two
    delimiters, before the first and behind the last, without leading and trailing blanks; a text
    of blanks is no statement. -/
theorem statements_text_eq (source : String) (delimiter : Char) (script : String) :
    (lexemes delimiter script.toList).flatMap (Lexeme.written delimiter) = script.toList ∧
    (statements source delimiter script).map Statement.text =
      ((((lexemes delimiter script.toList).splitOnP Lexeme.isDelimiter).map fun piece =>
        Text.trim (piece.flatMap Lexeme.kept)).filter (· ≠ [])).map String.ofList := by
  refine ⟨lexemes_written delimiter script.toList, ?_⟩
  rw [statements_texts]
  simp only [trimmedTexts, pieces, List.map_map]
  rfl

end SqlSmell.Script
