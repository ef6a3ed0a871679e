import SqlSmell.Proofs.Script.Draft
import SqlSmell.Proofs.Script.Loading

/- The lines of statements. A statement starts where the first lexeme behind the last delimiter stands that is
   neither a comment nor a blank (`StartsAt`), and its line is that of this place in the script: every newline
   before it counts, in comments, in quotes and in earlier statements too (`statements_lines`). The trace of a
   script gives such a lexeme the line on which it starts (`timed_trace`); while the lexemes of a
   piece are read, the draft keeps the line of the first of them (`Progress`). So a draft that gives a statement
   has a line, and the line of the cut is not asked for. -/
namespace SqlSmell.Script

open Text (Span)

/-! ## Lexemes with their lines -/

/-- Does the lexeme leave more than blanks? Then a statement can start with it. -/
def Lexeme.isSolid : Lexeme → Bool
  | .plain c => !Text.isBlank c
  | .quoted _ _ _ => true
  | _ => false

/-- The number of newlines in a text. -/
def newlines (s : List Char) : Nat := s.count '\n'

theorem newlines_append (s t : List Char) : newlines (s ++ t) = newlines s + newlines t :=
  List.count_append

theorem lineAfter_eq (line : Nat) (c : Char) : lineAfter line c = line + newlines [c] := by
  by_cases h : c = '\n'
  · simp [lineAfter, newlines, h]
  · simp [lineAfter, newlines, h]

/-- The event that keeps a character of a line. -/
def keepAt (x : Char × Nat) : Event × Nat := (.keep x.1, x.2)

/-- The events come from the lexemes, the first of which starts on the given line. A lexeme that a
    statement can start with is kept from that line on. -/
inductive Timed (delimiter : Char) : Nat → List Lexeme → List (Event × Nat) → Prop
  | nil (line : Nat) : Timed delimiter line [] []
  | cut {line : Nat} {ls : List Lexeme} {es : List (Event × Nat)} :
      Timed delimiter (line + newlines (Lexeme.delimiter.written delimiter)) ls es →
      Timed delimiter line (.delimiter :: ls) ((.cut, line) :: es)
  | keep {line : Nat} {l : Lexeme} {ls : List Lexeme} {es : List (Event × Nat)} (kept : List (Char × Nat)) :
      l.isDelimiter = false → kept.map Prod.fst = l.kept →
      (l.isSolid = true → ∀ x, kept.head? = some x → x.2 = line) →
      Timed delimiter (line + newlines (l.written delimiter)) ls es →
      Timed delimiter line (l :: ls) (kept.map keepAt ++ es)

section
variable (delimiter : Char)

/-- The text of a span and of its end, if it has one. -/
def spanText (stop : List Char) (span : Span) : List Char :=
  span.body ++ (bif span.closed then stop else [])

theorem newlines_spanText_cons (stop : List Char) (span : Span) (c : Char) :
    newlines (spanText stop (span.cons c)) = newlines [c] + newlines (spanText stop span) :=
  newlines_append [c] _

/-- From the mode, the span is read up to its end, where the reader is back in code, and leaves
    the text `left`. -/
def Passes (mode : Mode) (stop s left : List Char) : Prop :=
  ∀ line, ∃ kept : List (Char × Nat), kept.map Prod.fst = left ∧
    mode.trace delimiter line s = kept.map keepAt ++
      Mode.code.trace delimiter (line + newlines (spanText stop (Span.upTo stop s))) (Span.upTo stop s).rest

theorem passes_lineComment (s : List Char) :
    Passes delimiter .lineComment ['\n'] s (bif (Span.upTo ['\n'] s).closed then ['\n'] else []) := by
  induction s with
  | nil => exact fun line => ⟨[], rfl, rfl⟩
  | cons c s ih =>
    intro line
    by_cases h : c = '\n'
    · subst h
      rw [Span.upTo_mark]
      exact ⟨[('\n', line)], rfl, rfl⟩
    · obtain ⟨kept, hkept, htrace⟩ := ih line
      rw [Span.upTo_of_ne_mark h]
      refine ⟨kept, hkept, ?_⟩
      simpa [Mode.trace, Mode.read, lineAfter, spanText, newlines, h] using htrace

theorem passes_quoted (mark : Char) (s : List Char) :
    Passes delimiter (.quoted mark) [mark] s (spanText [mark] (Span.upTo [mark] s)) := by
  induction s with
  | nil => exact fun line => ⟨[], rfl, rfl⟩
  | cons c s ih =>
    intro line
    by_cases h : c = mark
    · subst h
      rw [Span.upTo_mark]
      refine ⟨[(c, line)], rfl, ?_⟩
      simp [Mode.trace, Mode.read, lineAfter_eq, spanText, keepAt]
    · obtain ⟨kept, hkept, htrace⟩ := ih (lineAfter line c)
      rw [Span.upTo_of_ne_mark h]
      refine ⟨(c, line) :: kept, by simp [hkept, spanText], ?_⟩
      rw [lineAfter_eq, Nat.add_assoc, ← newlines_spanText_cons] at htrace
      simp [Mode.trace, Mode.read, h, lineAfter_eq, htrace, keepAt]

theorem passes_blockComment (s : List Char) :
    Passes delimiter .blockComment ['*', '/'] s
      (bif (Span.upTo ['*', '/'] s).closed then [' '] else []) := by
  induction s with
  | nil => exact fun line => ⟨[], rfl, rfl⟩
  | cons c s ih =>
    intro line
    by_cases hend : ['*', '/'] <+: c :: s
    · obtain ⟨rest, hrest⟩ := hend
      rw [Span.upTo_of_start hrest.symm]
      obtain ⟨rfl, rfl⟩ := List.cons.inj hrest
      exact ⟨[(' ', line)], rfl, rfl⟩
    · -- the character is passed, also if it is a `*` and is held back
      have hpassed : Mode.blockComment.trace delimiter line (c :: s) =
          Mode.blockComment.trace delimiter (lineAfter line c) s := by
        by_cases hc : c = '*'
        · subst hc
          cases s with
          | nil => rfl
          | cons d s =>
            have hd : d ≠ '/' := fun hd => hend ⟨s, by rw [hd]; rfl⟩
            simp [Mode.trace, Mode.read, hd]
        · simp [Mode.trace, Mode.read, hc]
      obtain ⟨kept, hkept, htrace⟩ := ih (lineAfter line c)
      rw [Span.upTo_of_not_start hend]
      refine ⟨kept, hkept, ?_⟩
      rw [hpassed, htrace, lineAfter_eq, Nat.add_assoc, ← newlines_spanText_cons]
      rfl

theorem trace_quote {c : Char} (hd : c ≠ delimiter) (hq : isQuote c = true) (s : List Char) (line : Nat) :
    Mode.code.trace delimiter line (c :: s) =
      (.keep c, line) :: (Mode.quoted c).trace delimiter (lineAfter line c) s := by
  have hdash : c ≠ '-' := fun hc => by simp [isQuote, hc] at hq
  have hslash : c ≠ '/' := fun hc => by simp [isQuote, hc] at hq
  simp [Mode.trace, Mode.read, readCode, hd, hq, hdash, hslash]

/-- A character that is plain code is kept on its line, also if it is held back at first. -/
theorem trace_plain {c : Char} (hd : c ≠ delimiter) (hq : isQuote c = false) {s : List Char}
    (hdash : ∀ t, c = '-' → s ≠ '-' :: t) (hslash : ∀ t, c = '/' → s ≠ '*' :: t) (line : Nat) :
    Mode.code.trace delimiter line (c :: s) =
      (.keep c, line) :: Mode.code.trace delimiter (line + newlines [c]) s := by
  rw [← lineAfter_eq]
  by_cases h : c = '-'
  · subst h
    cases s with
    | nil => simp [Mode.trace, Mode.read, readCode, hd, Mode.leftover, lineAfter]
    | cons e s =>
      have he : e ≠ '-' := fun he => hdash s rfl (by rw [he])
      simp [Mode.trace, Mode.read, readCode, readBehind, hd, he, lineAfter]
  · by_cases h' : c = '/'
    · subst h'
      cases s with
      | nil => simp [Mode.trace, Mode.read, readCode, hd, Mode.leftover, lineAfter]
      | cons e s =>
        have he : e ≠ '*' := fun he => hslash s rfl (by rw [he])
        simp [Mode.trace, Mode.read, readCode, readBehind, hd, he, lineAfter]
    · simp [Mode.trace, Mode.read, readCode, hd, hq, h, h']

variable {delimiter}

/-- The first lexeme of a text gives its events in front of those of the rest. -/
theorem timed_firstLexeme {line : Nat} {c : Char} {s : List Char} {ls : List Lexeme}
    (h : ∀ line, Timed delimiter line ls (Mode.code.trace delimiter line (firstLexeme delimiter c s).2)) :
    Timed delimiter line ((firstLexeme delimiter c s).1 :: ls) (Mode.code.trace delimiter line (c :: s)) := by
  unfold firstLexeme at h ⊢
  split at h
  · next hd =>
    have htrace : Mode.code.trace delimiter line (c :: s) =
        (.cut, line) :: Mode.code.trace delimiter (line + newlines [delimiter]) s := by
      simp [Mode.trace, Mode.read, readCode, hd, lineAfter_eq]
    rw [htrace, if_pos hd]
    exact .cut (h _)
  · next hd =>
    rw [if_neg hd]
    split at h
    · next s =>
      obtain ⟨kept, hkept, htrace⟩ := passes_lineComment delimiter s line
      have hread : Mode.code.trace delimiter line ('-' :: '-' :: s) =
          Mode.lineComment.trace delimiter line s := by
        simp [Mode.trace, Mode.read, readCode, hd, lineAfter]
      rw [hread, htrace]
      refine .keep kept rfl hkept (fun hsolid => by cases hsolid) ?_
      have hlines := h (line + newlines (spanText ['\n'] (Span.upTo ['\n'] s)))
      simpa [Lexeme.written, newlines, spanText] using hlines
    · next s =>
      obtain ⟨kept, hkept, htrace⟩ := passes_blockComment delimiter s line
      have hread : Mode.code.trace delimiter line ('/' :: '*' :: s) =
          Mode.blockComment.trace delimiter line s := by
        simp [Mode.trace, Mode.read, readCode, hd, lineAfter]
      rw [hread, htrace]
      refine .keep kept rfl hkept (fun hsolid => by cases hsolid) ?_
      have hlines := h (line + newlines (spanText ['*', '/'] (Span.upTo ['*', '/'] s)))
      simpa [Lexeme.written, newlines, spanText] using hlines
    · rename_i hdash hslash
      split at h
      · next hq =>
        obtain ⟨kept, hkept, htrace⟩ := passes_quoted delimiter c s (lineAfter line c)
        rw [trace_quote delimiter hd hq, htrace, lineAfter_eq, Nat.add_assoc, ← newlines_append, if_pos hq]
        refine .keep ((c, line) :: kept) rfl ?_ ?_ (h (line + newlines (c :: spanText [c] (Span.upTo [c] s))))
        · rw [List.map_cons, hkept]
          rfl
        · intro _ x hx
          cases hx
          rfl
      · next hq =>
        rw [trace_plain delimiter hd (by simpa using hq) (fun t hc hs => hdash t hc hs)
          (fun t hc hs => hslash t hc hs), if_neg hq]
        refine .keep [(c, line)] rfl rfl ?_ (h _)
        intro _ x hx
        cases hx
        rfl

/-- The trace of a script gives every lexeme its line. -/
theorem timed_trace (delimiter : Char) (line : Nat) (s : List Char) :
    Timed delimiter line (lexemes delimiter s) (Mode.code.trace delimiter line s) := by
  fun_induction lexemes delimiter s generalizing line with
  | case1 => exact .nil line
  | case2 c s ih => exact timed_firstLexeme ih

end

/-! ## Where a statement starts -/

section
variable (delimiter : Char)

/-- The number of characters that the lexemes take. -/
def offset (ls : List Lexeme) : Nat := (ls.flatMap (Lexeme.written delimiter)).length

/-- The line behind the lexemes at the start of a script. -/
def lineBehind (ls : List Lexeme) : Nat := 1 + newlines (ls.flatMap (Lexeme.written delimiter))

/-- A statement with the given text starts at the place `p` of the script: only comments and blanks stand
    between it and the delimiter before it, or the start of the script. -/
def StartsAt (script text : List Char) (p : Nat) : Prop :=
  ∃ before passed first rest, lexemes delimiter script = before ++ passed ++ first :: rest ∧
    (before = [] ∨ before.getLast? = some .delimiter) ∧
    (∀ l ∈ passed, l.isDelimiter = false ∧ l.isSolid = false) ∧ first.isSolid = true ∧
    p = offset delimiter (before ++ passed) ∧
    text = Text.trimEnd ((first :: rest.takeWhile (!·.isDelimiter)).flatMap Lexeme.kept)

/-- The statement starts at the place `p` of the script, and says so: its line is that of the place, and its
    first character the one that stands there, which is not blank. -/
structure Located (source : String) (script : List Char) (p : Nat) (st : Statement) : Prop where
  starts : StartsAt delimiter script st.text.toList p
  source_eq : st.source = source
  line_eq : st.line = 1 + newlines (script.take p)
  first : ∃ c, script[p]? = some c ∧ st.text.toList.head? = some c ∧ Text.isBlank c = false

theorem offset_append (ls ls' : List Lexeme) :
    offset delimiter (ls ++ ls') = offset delimiter ls + offset delimiter ls' := by
  simp only [offset, List.flatMap_append, List.length_append]

theorem offset_le_append (ls ls' : List Lexeme) : offset delimiter ls ≤ offset delimiter (ls ++ ls') := by
  rw [offset_append]
  exact Nat.le_add_right _ _

theorem offset_cons (l : Lexeme) (ls : List Lexeme) :
    offset delimiter (l :: ls) = (l.written delimiter).length + offset delimiter ls := by
  simp only [offset, List.flatMap_cons, List.length_append]

theorem lineBehind_concat (ls : List Lexeme) (l : Lexeme) :
    lineBehind delimiter (ls ++ [l]) = lineBehind delimiter ls + newlines (l.written delimiter) := by
  simp only [lineBehind, List.flatMap_append, List.flatMap_singleton, newlines_append, Nat.add_assoc]

theorem isBlank_of_not_isSolid {l : Lexeme} (h : l.isSolid = false) :
    ∀ c ∈ l.kept, Text.isBlank c = true := by
  obtain ⟨-, hblank⟩ | ⟨c, rfl, hc⟩ | ⟨mark, body, closed, rfl⟩ := isBlank_kept_or l
  · exact hblank
  · simp [Lexeme.isSolid, hc] at h
  · cases h

theorem isBlank_of_mem_kept {ls : List Lexeme} (h : ∀ l ∈ ls, l.isSolid = false) :
    ∀ c ∈ ls.flatMap Lexeme.kept, Text.isBlank c = true := by
  intro c hc
  obtain ⟨l, hl, hc⟩ := List.mem_flatMap.mp hc
  exact isBlank_of_not_isSolid (h l hl) c hc

/-- The lexemes in front of a place are written in front of it. -/
theorem take_getElem?_offset {script : List Char} {ls rest : List Lexeme} {first : Lexeme} {c : Char}
    {t : List Char} (h : lexemes delimiter script = ls ++ first :: rest)
    (hfirst : first.written delimiter = c :: t) :
    script.take (offset delimiter ls) = ls.flatMap (Lexeme.written delimiter) ∧
      script[offset delimiter ls]? = some c := by
  have hscript := lexemes_written delimiter script
  rw [h, List.flatMap_append, List.flatMap_cons, hfirst] at hscript
  rw [← hscript, offset]
  exact ⟨List.take_left, by simp⟩

/-- What a statement can start with is kept from its first character on. -/
theorem solid_start {l : Lexeme} (hsound : l.Sound) (h : l.isSolid = true) :
    ∃ c s t, l.kept = c :: s ∧ l.written delimiter = c :: t ∧ Text.isBlank c = false := by
  cases l with
  | plain c => exact ⟨c, [], [], rfl, rfl, by simpa [Lexeme.isSolid] using h⟩
  | quoted mark body closed => exact ⟨mark, _, _, rfl, rfl, isBlank_of_isQuote hsound.1⟩
  | _ => cases h

/-- A piece ends with the delimiter behind it. -/
theorem takeWhile_piece {more rest : List Lexeme} (hmore : ∀ l ∈ more, l.isDelimiter = false)
    (hrest : rest = [] ∨ rest.head? = some .delimiter) :
    (more ++ rest).takeWhile (!·.isDelimiter) = more := by
  rw [List.takeWhile_append_of_pos fun l hl => by simp [hmore l hl]]
  cases rest with
  | nil => exact List.append_nil more
  | cons l rest =>
    obtain rfl : l = .delimiter := by simpa using hrest
    exact List.append_nil more

/-- The text of a piece starts with its first solid lexeme. -/
theorem trim_piece {passed : List Lexeme} {first : Lexeme} (more : List Lexeme) {c : Char}
    {s : List Char} (hpassed : ∀ l ∈ passed, l.isSolid = false)
    (hfirst : first.kept = c :: s) (hc : Text.isBlank c = false) :
    Text.trim ((passed ++ first :: more).flatMap Lexeme.kept) =
        Text.trimEnd ((first :: more).flatMap Lexeme.kept) ∧
      (Text.trimEnd ((first :: more).flatMap Lexeme.kept)).head? = some c := by
  rw [List.flatMap_append, Text.trim_blanks_append (isBlank_of_mem_kept hpassed), List.flatMap_cons,
    hfirst, List.cons_append, Text.trim, Text.trimStart_cons hc]
  have hstart : Text.trimEnd (c :: (s ++ more.flatMap Lexeme.kept)) =
      c :: Text.trimEnd (s ++ more.flatMap Lexeme.kept) := Text.trimEnd_append_cons (s := []) hc
  exact ⟨rfl, by rw [hstart, List.head?_cons]⟩

end

/-! ## Drafts of pieces -/

/-- The draft once the characters have been kept, each on its line. -/
def Draft.keepAll (d : Draft) (kept : List (Char × Nat)) : Draft :=
  kept.foldl (fun d x => d.keep x.1 x.2) d

theorem keepAll_text (d : Draft) (kept : List (Char × Nat)) :
    (d.keepAll kept).text.reverse = d.text.reverse ++ kept.map Prod.fst := by
  induction kept generalizing d with
  | nil => simp [Draft.keepAll]
  | cons x kept ih =>
    rw [List.map_cons, List.append_cons, ← keep_text d x.1 x.2]
    exact ih (d.keep x.1 x.2)

theorem keepAll_line_of_some {d : Draft} {n : Nat} (h : d.line = some n) (kept : List (Char × Nat)) :
    (d.keepAll kept).line = some n := by
  induction kept generalizing d with
  | nil => exact h
  | cons x kept ih => exact ih (by simp [Draft.keep, h])

theorem keepAll_line_of_blank (d : Draft) {kept : List (Char × Nat)}
    (h : ∀ c ∈ kept.map Prod.fst, Text.isBlank c = true) : (d.keepAll kept).line = d.line := by
  induction kept generalizing d with
  | nil => rfl
  | cons x kept ih =>
    obtain ⟨hx, hkept⟩ := List.forall_mem_cons.mp h
    rw [← keep_line_of_blank d hx x.2]
    exact ih (d.keep x.1 x.2) hkept

theorem assemble_keepAll (source : String) (last : Nat) (d : Draft) (kept : List (Char × Nat))
    (es : List (Event × Nat)) :
    assemble source last d (kept.map keepAt ++ es) = assemble source last (d.keepAll kept) es := by
  induction kept generalizing d with
  | nil => rfl
  | cons x kept ih => exact ih (d.keep x.1 x.2)

/-- The draft holds what the lexemes of the piece leave, and the line of the first of them that is solid.
    The piece comes behind `earlier`, which ends with a delimiter. -/
structure Progress (delimiter : Char) (earlier piece : List Lexeme) (d : Draft) : Prop where
  fresh : earlier = [] ∨ earlier.getLast? = some .delimiter
  inside : ∀ l ∈ piece, l.isDelimiter = false
  text : d.text.reverse = piece.flatMap Lexeme.kept
  line : (d.line = none ∧ ∀ l ∈ piece, l.isSolid = false) ∨
    ∃ passed first more, piece = passed ++ first :: more ∧ (∀ l ∈ passed, l.isSolid = false) ∧
      first.isSolid = true ∧ d.line = some (lineBehind delimiter (earlier ++ passed))

section
variable {delimiter : Char} {earlier piece : List Lexeme} {d : Draft}

theorem progress_start (h : earlier = [] ∨ earlier.getLast? = some .delimiter) :
    Progress delimiter earlier [] .empty :=
  ⟨h, by simp, rfl, .inl ⟨rfl, by simp⟩⟩

/-- One more lexeme: the first solid one sets the line. -/
theorem Progress.keep (h : Progress delimiter earlier piece d) {l : Lexeme} (hsound : l.Sound)
    (hl : l.isDelimiter = false) {kept : List (Char × Nat)} (hkept : kept.map Prod.fst = l.kept)
    (hline : l.isSolid = true → ∀ x, kept.head? = some x → x.2 = lineBehind delimiter (earlier ++ piece)) :
    Progress delimiter earlier (piece ++ [l]) (d.keepAll kept) := by
  refine ⟨h.fresh, ?_, ?_, ?_⟩
  · exact List.forall_mem_append.mpr ⟨h.inside, List.forall_mem_singleton.mpr hl⟩
  · rw [keepAll_text, h.text, hkept, List.flatMap_append, List.flatMap_singleton]
  · rcases h.line with ⟨hnone, hblank⟩ | ⟨passed, first, more, hpiece, hpassed, hfirst, hsome⟩
    · cases hsolid : l.isSolid with
      | false =>
        refine .inl ⟨?_, List.forall_mem_append.mpr ⟨hblank, List.forall_mem_singleton.mpr hsolid⟩⟩
        rw [keepAll_line_of_blank d (hkept ▸ isBlank_of_not_isSolid hsolid), hnone]
      | true =>
        refine .inr ⟨piece, l, [], rfl, hblank, hsolid, ?_⟩
        obtain ⟨c, s, -, hstart, -, hc⟩ := solid_start delimiter hsound hsolid
        rw [hstart] at hkept
        cases kept with
        | nil => cases hkept
        | cons x kept =>
          obtain rfl : x.1 = c := (List.cons.inj hkept).1
          refine keepAll_line_of_some (d := d.keep x.1 x.2) ?_ kept
          rw [← hline hsolid x rfl]
          simp [Draft.keep, hnone, hc]
    · refine .inr ⟨passed, first, more ++ [l], ?_, hpassed, hfirst, keepAll_line_of_some hsome kept⟩
      rw [hpiece, List.append_assoc, List.cons_append]

/-- At the next delimiter, or at the end, a piece gives no statement or one that starts in it. -/
theorem Progress.statement? (h : Progress delimiter earlier piece d) {script : List Char}
    {rest : List Lexeme} (hscript : lexemes delimiter script = earlier ++ piece ++ rest)
    (hrest : rest = [] ∨ rest.head? = some .delimiter) (source : String) (line : Nat) :
    d.statement? source line = none ∨
      ∃ p st, d.statement? source line = some st ∧ Located delimiter source script p st ∧
        offset delimiter earlier ≤ p ∧ p < offset delimiter (earlier ++ piece) := by
  rcases h.line with ⟨-, hblank⟩ | ⟨passed, first, more, rfl, hpassed, hfirst, hline⟩
  · refine .inl (statement?_of_blank ?_ source line)
    rw [h.text, Text.trim_eq_nil_iff]
    exact isBlank_of_mem_kept hblank
  · have hlexemes : lexemes delimiter script = earlier ++ passed ++ first :: (more ++ rest) := by
      simp [hscript]
    obtain ⟨c, s, t, hkept, hwritten, hc⟩ := solid_start delimiter
      (lexemes_sound (by rw [hlexemes]; simp)) hfirst
    obtain ⟨htrim, hhead⟩ := trim_piece more hpassed hkept hc
    obtain ⟨htake, hplace⟩ := take_getElem?_offset delimiter hlexemes hwritten
    rw [← h.text] at htrim
    have hne : Text.trim d.text.reverse ≠ [] := by
      intro hnil
      rw [← htrim, hnil] at hhead
      cases hhead
    refine .inr ⟨offset delimiter (earlier ++ passed), _, statement?_of_text hne source line,
      ⟨⟨earlier, passed, first, more ++ rest, hlexemes, h.fresh, ?_, hfirst, rfl, ?_⟩, rfl, ?_,
        c, hplace, ?_, hc⟩, ?_, ?_⟩
    · exact fun l hl => ⟨h.inside l (List.mem_append_left _ hl), hpassed l hl⟩
    · have hmore : ∀ l ∈ more, l.isDelimiter = false := fun l hl => h.inside l (by simp [hl])
      rw [takeWhile_piece hmore hrest, String.toList_ofList, htrim]
    · rw [hline, htake]
      rfl
    · rw [String.toList_ofList, htrim, hhead]
    · exact offset_le_append delimiter earlier passed
    · rw [← List.append_assoc, offset_append delimiter (earlier ++ passed), offset_cons, hwritten,
        List.length_cons]
      omega

end

/-! ## The lines of a script -/

section
variable {delimiter : Char} (source : String) (last : Nat)

/-- From a draft that has made progress, every statement is located, one behind the other. -/
theorem located_assemble {script : List Char} {line : Nat} {ls : List Lexeme} {es : List (Event × Nat)}
    (ht : Timed delimiter line ls es) (earlier piece : List Lexeme) {d : Draft}
    (hscript : lexemes delimiter script = earlier ++ piece ++ ls)
    (hline : line = lineBehind delimiter (earlier ++ piece)) (h : Progress delimiter earlier piece d) :
    ∃ positions : List Nat, positions.Pairwise (· < ·) ∧
      (∀ p ∈ positions, offset delimiter earlier ≤ p) ∧
      List.Forall₂ (Located delimiter source script) positions (assemble source last d es) := by
  induction ht generalizing earlier piece d with
  | nil line =>
    rcases h.statement? hscript (.inl rfl) source last with hnone | ⟨p, st, hsome, hst, hp, -⟩
    · rw [assemble, hnone]
      exact ⟨[], .nil, by simp, .nil⟩
    · rw [assemble, hsome]
      exact ⟨[p], List.pairwise_singleton _ p, by simpa using hp, .cons hst .nil⟩
  | @cut line ls es ht ih =>
    obtain ⟨positions, hincreasing, hlater, hall⟩ :=
      ih (earlier ++ piece ++ [.delimiter]) [] (by simp [hscript])
        (by rw [hline, List.append_nil, lineBehind_concat]) (progress_start (.inr (by simp)))
    -- what comes behind the delimiter starts behind the piece
    have hbehind : ∀ p ∈ positions, offset delimiter (earlier ++ piece) ≤ p := fun p hp =>
      (offset_le_append delimiter (earlier ++ piece) [.delimiter]).trans (hlater p hp)
    rcases h.statement? hscript (.inr rfl) source line with hnone | ⟨p, st, hsome, hst, hp, hp'⟩
    · rw [assemble, hnone]
      refine ⟨positions, hincreasing, fun p hp => ?_, hall⟩
      exact (offset_le_append delimiter earlier piece).trans (hbehind p hp)
    · rw [assemble, hsome]
      refine ⟨p :: positions, List.pairwise_cons.mpr ⟨fun q hq => ?_, hincreasing⟩, ?_, .cons hst hall⟩
      · exact lt_of_lt_of_le hp' (hbehind q hq)
      · refine List.forall_mem_cons.mpr ⟨hp, fun q hq => ?_⟩
        exact (offset_le_append delimiter earlier piece).trans (hbehind q hq)
  | @keep line l ls es kept hl hkept hfirst ht ih =>
    rw [assemble_keepAll]
    have hsound : l.Sound := lexemes_sound (by rw [hscript]; simp)
    refine ih earlier (piece ++ [l]) (by simp [hscript]) ?_ (h.keep hsound hl hkept (hline ▸ hfirst))
    rw [hline, ← List.append_assoc, lineBehind_concat]

variable {source} {last}

theorem lines_of_located {script : List Char} {positions : List Nat} {sts : List Statement}
    (h : List.Forall₂ (Located delimiter source script) positions sts) :
    sts.map Statement.line = positions.map fun p => 1 + newlines (script.take p) := by
  induction h with
  | nil => rfl
  | cons hst _ ih => rw [List.map_cons, List.map_cons, hst.line_eq, ih]

theorem line_le_of_located {script : List Char} {positions : List Nat} {sts : List Statement}
    (h : List.Forall₂ (Located delimiter source script) positions sts)
    (hincreasing : positions.Pairwise (· < ·)) : sts.Pairwise fun st st' => st.line ≤ st'.line := by
  have hlines : (sts.map Statement.line).Pairwise (· ≤ ·) := by
    rw [lines_of_located h, List.pairwise_map]
    refine hincreasing.imp fun {p q} hpq => ?_
    have hcount : newlines (script.take p) ≤ newlines (script.take q) :=
      (List.take_prefix_take_left (Nat.le_of_lt hpq)).sublist.count_le '\n'
    omega
  exact List.pairwise_map.mp hlines

/-- The drafts that the cuts find, and the one that the end finds. -/
def draftsCut : Draft → List (Event × Nat) → List Draft
  | d, [] => [d]
  | d, (.keep c, line) :: es => draftsCut (d.keep c line) es
  | d, (.cut, _) :: es => d :: draftsCut .empty es

theorem marked_draftsCut {d : Draft} (h : d.Marked) (es : List (Event × Nat)) :
    ∀ d' ∈ draftsCut d es, d'.Marked := by
  induction es generalizing d with
  | nil => exact List.forall_mem_singleton.mpr h
  | cons event es ih =>
    obtain ⟨event, line⟩ := event
    cases event with
    | keep c => exact ih (h.keep c line)
    | cut => exact List.forall_mem_cons.mpr ⟨h, ih marked_empty⟩

/-- The statements are those of the drafts, whatever the line of the cut. -/
theorem assemble_eq_drafts {d : Draft} (h : d.Marked) (line : Nat) (es : List (Event × Nat)) :
    assemble source last d es = (draftsCut d es).filterMap (·.statement? source line) := by
  induction es generalizing d with
  | nil =>
    rw [assemble, draftsCut, h.statement?_eq source last line]
    cases hd : d.statement? source line <;> simp [hd]
  | cons event es ih =>
    obtain ⟨event, n⟩ := event
    cases event with
    | keep c => exact ih (h.keep c n)
    | cut =>
      rw [assemble, draftsCut, h.statement?_eq source n line, ih marked_empty]
      cases hd : d.statement? source line <;> simp [hd]

theorem line_of_statement? {d : Draft} (h : d.Marked) {line : Nat} {st : Statement}
    (hst : d.statement? source line = some st) : d.line = some st.line := by
  by_cases htext : Text.trim d.text.reverse = []
  · rw [statement?_of_blank htext] at hst
    cases hst
  · obtain ⟨n, hn⟩ := Option.ne_none_iff_exists'.mp (mt h.mp htext)
    rw [statement?_of_text htext, hn] at hst
    cases hst
    exact hn

end

/-- **The lines of statements.** Each statement of a script starts at a place of its own, one behind the
    other: where, behind the delimiter before it, the first character stands that is in no comment and not
    blank. That is the first character of its text, and the newlines before it, wherever they stand, make up
    its line. So lines never decrease; and every draft that gives a statement knows its line, so that
    the line of the cut does not matter. -/
theorem statements_lines (source : String) (delimiter : Char) (script : String) :
    (∃ positions : List Nat, positions.Pairwise (· < ·) ∧
      List.Forall₂ (Located delimiter source script.toList) positions
        (statements source delimiter script)) ∧
    (statements source delimiter script).Pairwise (fun st st' => st.line ≤ st'.line) ∧
    (∀ line, statements source delimiter script =
      (draftsCut .empty (Mode.code.trace delimiter 1 script.toList)).filterMap
        (·.statement? source line)) ∧
    ∀ d ∈ draftsCut .empty (Mode.code.trace delimiter 1 script.toList), ∀ line st,
      d.statement? source line = some st → d.line = some st.line := by
  obtain ⟨positions, hincreasing, -, hall⟩ := located_assemble source (script.toList.foldl lineAfter 1)
    (timed_trace delimiter 1 script.toList) [] [] rfl rfl (progress_start (.inl rfl))
  rw [← statements_eq_assemble] at hall
  refine ⟨⟨positions, hincreasing, hall⟩, line_le_of_located hall hincreasing, fun line => ?_, ?_⟩
  · rw [statements_eq_assemble, assemble_eq_drafts marked_empty line]
  · intro d hd line st hst
    exact line_of_statement? (marked_draftsCut marked_empty _ d hd) hst

end SqlSmell.Script
