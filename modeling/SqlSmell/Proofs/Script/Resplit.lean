import Mathlib.Data.List.DropRight
import SqlSmell.Proofs.Script.Lines

/- Splitting what has been split. The text of a statement has nothing left in it to cut or to drop: read
   again, it is one statement, on its first line (`statements_resplit`). Dropping a comment leaves a newline
   or a space in its place, so it brings no two characters together that would open another one; the lexemes of
   the text that a piece of the script leaves are those of the piece, with the comments so
   replaced (`lexemes_keptText`). Trimming may still cut into a segment that the script ends in; but a text in
   which nothing is to be cut or dropped stays so if it is cut short at any place (`Settled.cutShort`). -/
namespace SqlSmell.Script

open Text (Span)

/-! ## What lexemes leave -/

/-- Does the lexeme stand in its statement as it is written? -/
def Lexeme.isText : Lexeme → Bool
  | .plain _ | .quoted _ _ _ => true
  | _ => false

/-- What is left of a lexeme in its statement: of a comment, the newline or the space in its place. -/
def Lexeme.remains : Lexeme → List Lexeme
  | .delimiter => []
  | .lineComment _ closed => bif closed then [.plain '\n'] else []
  | .blockComment _ closed => bif closed then [.plain ' '] else []
  | .quoted mark body closed => [.quoted mark body closed]
  | .plain c => [.plain c]

theorem isText_of_mem_remains {l l' : Lexeme} (h : l' ∈ l.remains) : l'.isText = true := by
  cases l with
  | delimiter => cases h
  | lineComment body closed =>
    cases closed with
    | true => rw [List.mem_singleton.mp h]; rfl
    | false => cases h
  | blockComment body closed =>
    cases closed with
    | true => rw [List.mem_singleton.mp h]; rfl
    | false => cases h
  | quoted mark body closed => rw [List.mem_singleton.mp h]; rfl
  | plain c => rw [List.mem_singleton.mp h]; rfl

theorem isDelimiter_of_isText {l : Lexeme} (h : l.isText = true) : l.isDelimiter = false := by
  cases l with
  | delimiter => cases h
  | _ => rfl

theorem kept_of_isText {l : Lexeme} (h : l.isText = true) (delimiter : Char) :
    l.kept = l.written delimiter := by
  cases l with
  | quoted mark body closed => rfl
  | plain c => rfl
  | _ => cases h

/-- The character, in front of the text, opens no comment. -/
def OpensNone (c : Char) (s : List Char) : Prop :=
  (c = '-' → s.head? ≠ some '-') ∧ (c = '/' → s.head? ≠ some '*')

section
variable (delimiter : Char)

/-- What the first lexeme of a text can be: a delimiter, a comment that leaves one blank, a comment that the text
    ends in, a segment, or a character that opens nothing. -/
theorem firstLexeme_cases (c : Char) (s : List Char) :
    firstLexeme delimiter c s = (.delimiter, s) ∨
    (∃ l y rest, firstLexeme delimiter c s = (l, rest) ∧ l.isDelimiter = false ∧ l.isText = false ∧
      (y = '\n' ∨ y = ' ') ∧ l.kept = [y] ∧ l.remains = [.plain y]) ∨
    (∃ l, firstLexeme delimiter c s = (l, []) ∧ l.isDelimiter = false ∧ l.isText = false ∧
      l.kept = [] ∧ l.remains = []) ∨
    (c ≠ delimiter ∧ isQuote c = true ∧ firstLexeme delimiter c s =
      (.quoted c (Span.upTo [c] s).body (Span.upTo [c] s).closed, (Span.upTo [c] s).rest)) ∨
    (c ≠ delimiter ∧ isQuote c = false ∧ OpensNone c s ∧ firstLexeme delimiter c s = (.plain c, s)) := by
  unfold firstLexeme
  split
  · exact .inl rfl
  · next hd =>
    split
    · next s =>
      have hrest : (Span.upTo ['\n'] s).closed = false → (Span.upTo ['\n'] s).rest = [] :=
        Span.upTo_rest_of_open
      generalize Span.upTo ['\n'] s = span at hrest ⊢
      obtain ⟨body, closed, rest⟩ := span
      cases closed with
      | true => exact .inr (.inl ⟨.lineComment body true, '\n', rest, rfl, rfl, rfl, .inl rfl, rfl, rfl⟩)
      | false =>
        obtain rfl : rest = [] := hrest rfl
        exact .inr (.inr (.inl ⟨.lineComment body false, rfl, rfl, rfl, rfl, rfl⟩))
    · next s =>
      have hrest : (Span.upTo ['*', '/'] s).closed = false → (Span.upTo ['*', '/'] s).rest = [] :=
        Span.upTo_rest_of_open
      generalize Span.upTo ['*', '/'] s = span at hrest ⊢
      obtain ⟨body, closed, rest⟩ := span
      cases closed with
      | true => exact .inr (.inl ⟨.blockComment body true, ' ', rest, rfl, rfl, rfl, .inr rfl, rfl, rfl⟩)
      | false =>
        obtain rfl : rest = [] := hrest rfl
        exact .inr (.inr (.inl ⟨.blockComment body false, rfl, rfl, rfl, rfl, rfl⟩))
    · rename_i hdash hslash
      split
      · next hq => exact .inr (.inr (.inr (.inl ⟨hd, hq, rfl⟩)))
      · next hq =>
        refine .inr (.inr (.inr (.inr ⟨hd, by simpa using hq, ⟨?_, ?_⟩, rfl⟩)))
        · intro hc hs
          obtain ⟨t, ht⟩ := List.head?_eq_some_iff.mp hs
          exact hdash t hc ht
        · intro hc hs
          obtain ⟨t, ht⟩ := List.head?_eq_some_iff.mp hs
          exact hslash t hc ht

variable {delimiter}

theorem lexemes_plain {c : Char} {s : List Char} (hd : c ≠ delimiter) (hq : isQuote c = false)
    (hopens : OpensNone c s) : lexemes delimiter (c :: s) = .plain c :: lexemes delimiter s := by
  have hfirst : firstLexeme delimiter c s = (.plain c, s) := by
    unfold firstLexeme
    rw [if_neg hd]
    split
    · exact absurd rfl (hopens.1 rfl)
    · exact absurd rfl (hopens.2 rfl)
    · rw [if_neg (by simp [hq])]
  rw [lexemes, hfirst]

theorem firstLexeme_quote {c : Char} (hd : c ≠ delimiter) (hq : isQuote c = true) (s : List Char) :
    firstLexeme delimiter c s =
      (.quoted c (Span.upTo [c] s).body (Span.upTo [c] s).closed, (Span.upTo [c] s).rest) := by
  unfold firstLexeme
  rw [if_neg hd]
  split
  · cases hq
  · cases hq
  · rw [if_pos hq]

theorem lexemes_closed {mark : Char} {body : List Char} (hd : mark ≠ delimiter) (hq : isQuote mark = true)
    (hbody : mark ∉ body) (s : List Char) :
    lexemes delimiter (mark :: (body ++ mark :: s)) = .quoted mark body true :: lexemes delimiter s := by
  rw [lexemes, firstLexeme_quote hd hq, Span.upTo_body_mark hbody]

theorem lexemes_unclosed {mark : Char} {body : List Char} (hd : mark ≠ delimiter) (hq : isQuote mark = true)
    (hbody : mark ∉ body) : lexemes delimiter (mark :: body) = [.quoted mark body false] := by
  rw [lexemes, firstLexeme_quote hd hq, Span.upTo_of_notMem hbody, lexemes]

end

/-! ## Texts with nothing left to cut or drop -/

/-- The text is made of quoted segments and of characters that neither are the delimiter nor open a
    comment; only the last segment may lack its end. -/
inductive Settled (delimiter : Char) : List Char → Prop
  | nil : Settled delimiter []
  | plain {c : Char} {s : List Char} : c ≠ delimiter → isQuote c = false → OpensNone c s →
      Settled delimiter s → Settled delimiter (c :: s)
  | closed {mark : Char} {body s : List Char} : mark ≠ delimiter → isQuote mark = true → mark ∉ body →
      Settled delimiter s → Settled delimiter (mark :: (body ++ mark :: s))
  | unclosed {mark : Char} {body : List Char} : mark ≠ delimiter → isQuote mark = true → mark ∉ body →
      Settled delimiter (mark :: body)

section
variable {delimiter : Char} {s : List Char}

theorem Settled.isText (h : Settled delimiter s) : ∀ l ∈ lexemes delimiter s, l.isText = true := by
  induction h with
  | nil => simp [lexemes]
  | plain hd hq hopens _ ih =>
    rw [lexemes_plain hd hq hopens]
    exact List.forall_mem_cons.mpr ⟨rfl, ih⟩
  | closed hd hq hbody _ ih =>
    rw [lexemes_closed hd hq hbody]
    exact List.forall_mem_cons.mpr ⟨rfl, ih⟩
  | unclosed hd hq hbody =>
    rw [lexemes_unclosed hd hq hbody]
    exact List.forall_mem_singleton.mpr rfl

theorem settled_of_isText (h : ∀ l ∈ lexemes delimiter s, l.isText = true) : Settled delimiter s := by
  fun_induction lexemes delimiter s with
  | case1 => exact .nil
  | case2 c s ih =>
    obtain ⟨hfirst, hrest⟩ := List.forall_mem_cons.mp h
    have hsettled := ih hrest
    rcases firstLexeme_cases delimiter c s with
      heq | ⟨l, y, rest, heq, -, hl, -⟩ | ⟨l, heq, -, hl, -⟩ | ⟨hd, hq, heq⟩ | ⟨hd, hq, hopens, heq⟩
    · rw [heq] at hfirst
      cases hfirst
    · rw [heq, hl] at hfirst
      cases hfirst
    · rw [heq, hl] at hfirst
      cases hfirst
    · rw [heq] at hsettled
      have htext := Span.upTo_text [c] s
      cases hclosed : (Span.upTo [c] s).closed with
      | true =>
        rw [hclosed] at htext
        rw [← htext, cond_true, List.append_assoc]
        exact .closed hd hq (Span.mark_notMem_body c s) hsettled
      | false =>
        rw [hclosed, Span.upTo_rest_of_open hclosed, cond_false, List.append_nil, List.append_nil] at htext
        rw [← htext]
        exact .unclosed hd hq (Span.mark_notMem_body c s)
    · rw [heq] at hsettled
      exact .plain hd hq hopens hsettled

theorem OpensNone.cutShort {c : Char} {p : List Char} (h : OpensNone c s) (hp : p <+: s) :
    OpensNone c p := by
  obtain ⟨t, rfl⟩ := hp
  cases p with
  | nil => exact ⟨fun _ => by simp, fun _ => by simp⟩
  | cons x p => exact h

/-- A settled text is settled up to any place, also if the place is inside a segment. -/
theorem Settled.cutShort (h : Settled delimiter s) {p : List Char} (hp : p <+: s) :
    Settled delimiter p := by
  induction h generalizing p with
  | nil =>
    rw [List.prefix_nil.mp hp]
    exact .nil
  | plain hd hq hopens _ ih =>
    rcases List.prefix_cons_iff.mp hp with rfl | ⟨q, rfl, hshort⟩
    · exact .nil
    · exact .plain hd hq (hopens.cutShort hshort) (ih hshort)
  | @closed mark body s hd hq hbody _ ih =>
    rcases List.prefix_cons_iff.mp hp with rfl | ⟨q, rfl, hshort⟩
    · exact .nil
    · rcases List.prefix_or_prefix_of_prefix hshort (List.prefix_append body (mark :: s)) with hin | ⟨q, rfl⟩
      · exact .unclosed hd hq fun hmem => hbody (hin.subset hmem)
      · -- the place is behind the body: at its end, or behind the mark that closes the segment
        rcases List.prefix_cons_iff.mp ((List.prefix_append_right_inj body).mp hshort) with
          rfl | ⟨q, rfl, hrest⟩
        · rw [List.append_nil]
          exact .unclosed hd hq hbody
        · exact .closed hd hq hbody (ih hrest)
  | unclosed hd hq hbody =>
    rcases List.prefix_cons_iff.mp hp with rfl | ⟨q, rfl, hshort⟩
    · exact .nil
    · exact .unclosed hd hq fun hmem => hbody (hshort.subset hmem)

theorem Settled.trimStart (h : Settled delimiter s) : Settled delimiter (Text.trimStart s) := by
  have hsolid : ∀ {mark : Char} (t : List Char), isQuote mark = true →
      Text.trimStart (mark :: t) = mark :: t := fun t hq => Text.trimStart_cons (isBlank_of_isQuote hq)
  induction h with
  | nil => exact .nil
  | @plain c s hd hq hopens h ih =>
    cases hc : Text.isBlank c with
    | true =>
      have hdrop : Text.trimStart (c :: s) = Text.trimStart s :=
        Text.trimStart_blanks_append (s := [c]) (by simpa using hc)
      rw [hdrop]
      exact ih
    | false =>
      rw [Text.trimStart_cons hc]
      exact .plain hd hq hopens h
  | closed hd hq hbody h ih =>
    rw [hsolid _ hq]
    exact .closed hd hq hbody h
  | unclosed hd hq hbody =>
    rw [hsolid _ hq]
    exact .unclosed hd hq hbody

theorem Settled.trim (h : Settled delimiter s) : Settled delimiter (Text.trim s) :=
  h.trimStart.cutShort (List.rdropWhile_prefix Text.isBlank (Text.trimStart s))

end

/-! ## The text of a piece -/

section
variable (delimiter : Char)

/-- The lexemes up to the first delimiter. -/
def firstPiece (s : List Char) : List Lexeme := (lexemes delimiter s).takeWhile (!·.isDelimiter)

/-- The text that they leave. -/
def keptText (s : List Char) : List Char := (firstPiece delimiter s).flatMap Lexeme.kept

theorem firstPiece_nil : firstPiece delimiter [] = [] := by
  rw [firstPiece, lexemes]
  rfl

variable {delimiter}

theorem firstPiece_cut {c : Char} {s : List Char} (h : (firstLexeme delimiter c s).1.isDelimiter = true) :
    firstPiece delimiter (c :: s) = [] := by
  rw [firstPiece, lexemes, List.takeWhile_cons_of_neg (by simp [h])]

theorem firstPiece_cons {c : Char} {s : List Char} {l : Lexeme} {rest : List Char}
    (h : firstLexeme delimiter c s = (l, rest)) (hl : l.isDelimiter = false) :
    firstPiece delimiter (c :: s) = l :: firstPiece delimiter rest := by
  rw [firstPiece, lexemes, h, List.takeWhile_cons_of_pos (by simp [hl]), firstPiece]

theorem keptText_cons {c : Char} {s : List Char} {l : Lexeme} {rest : List Char}
    (h : firstLexeme delimiter c s = (l, rest)) (hl : l.isDelimiter = false) :
    keptText delimiter (c :: s) = l.kept ++ keptText delimiter rest := by
  rw [keptText, firstPiece_cons h hl, List.flatMap_cons, keptText]

/-- The text starts with a blank in place of a comment, or with the first character of the script. -/
theorem head?_keptText {s : List Char} {y : Char} (h : (keptText delimiter s).head? = some y) :
    y = '\n' ∨ y = ' ' ∨ s.head? = some y := by
  cases s with
  | nil => simp [keptText, firstPiece_nil] at h
  | cons c s =>
    rcases firstLexeme_cases delimiter c s with
      heq | ⟨l, x, rest, heq, hcut, -, hx, hkept, -⟩ | ⟨l, heq, hcut, -, hkept, -⟩ | ⟨-, -, heq⟩ | ⟨-, -, -, heq⟩
    · rw [keptText, firstPiece_cut (by rw [heq]; rfl)] at h
      cases h
    · rw [keptText_cons heq hcut, hkept] at h
      obtain rfl : x = y := Option.some.inj h
      rcases hx with hx | hx
      · exact .inl hx
      · exact .inr (.inl hx)
    · rw [keptText_cons heq hcut, hkept, keptText, firstPiece_nil] at h
      cases h
    · rw [keptText_cons heq rfl] at h
      exact .inr (.inr h)
    · rw [keptText_cons heq rfl] at h
      exact .inr (.inr h)

/-- A character that opens no comment in the script opens none in the text that is left. -/
theorem OpensNone.keptText {c : Char} {s : List Char} (h : OpensNone c s) :
    OpensNone c (keptText delimiter s) := by
  have hsame : ∀ y, y ≠ '\n' → y ≠ ' ' → (Script.keptText delimiter s).head? = some y → s.head? = some y := by
    intro y hnewline hspace hhead
    rcases head?_keptText hhead with hy | hy | hy
    · exact absurd hy hnewline
    · exact absurd hy hspace
    · exact hy
  refine ⟨fun hc hhead => h.1 hc ?_, fun hc hhead => h.2 hc ?_⟩
  · exact hsame '-' (by decide) (by decide) hhead
  · exact hsame '*' (by decide) (by decide) hhead

/-- Read again, the text that a piece leaves has the lexemes of the piece, with blanks for its
    comments. -/
theorem lexemes_keptText (hspace : delimiter ≠ ' ') (hnewline : delimiter ≠ '\n') (s : List Char) :
    lexemes delimiter (keptText delimiter s) = (firstPiece delimiter s).flatMap Lexeme.remains := by
  fun_induction lexemes delimiter s with
  | case1 => simp [keptText, firstPiece_nil, lexemes]
  | case2 c s ih =>
    rcases firstLexeme_cases delimiter c s with
      heq | ⟨l, y, rest, heq, hcut, -, hy, hkept, hremains⟩ | ⟨l, heq, hcut, -, hkept, hremains⟩ |
        ⟨hd, hq, heq⟩ | ⟨hd, hq, hopens, heq⟩
    · rw [keptText, firstPiece_cut (by rw [heq]; rfl)]
      simp [lexemes]
    · rw [heq] at ih
      have hplain : y ≠ delimiter ∧ isQuote y = false ∧ OpensNone y (keptText delimiter rest) := by
        rcases hy with rfl | rfl
        · exact ⟨hnewline.symm, by decide, fun hc => absurd hc (by decide), fun hc => absurd hc (by decide)⟩
        · exact ⟨hspace.symm, by decide, fun hc => absurd hc (by decide), fun hc => absurd hc (by decide)⟩
      rw [keptText_cons heq hcut, firstPiece_cons heq hcut, List.flatMap_cons, hkept, hremains,
        List.singleton_append, lexemes_plain hplain.1 hplain.2.1 hplain.2.2, ih, List.singleton_append]
    · rw [keptText_cons heq hcut, firstPiece_cons heq hcut, List.flatMap_cons, hkept, hremains, keptText,
        firstPiece_nil]
      simp [lexemes]
    · rw [heq] at ih
      rw [keptText_cons heq rfl, firstPiece_cons heq rfl, List.flatMap_cons, ← ih]
      have hbody := Span.mark_notMem_body c s
      cases hclosed : (Span.upTo [c] s).closed with
      | true =>
        have hkept : (Lexeme.quoted c (Span.upTo [c] s).body true).kept ++
            keptText delimiter (Span.upTo [c] s).rest =
            c :: ((Span.upTo [c] s).body ++ c :: keptText delimiter (Span.upTo [c] s).rest) := by
          simp [Lexeme.kept]
        rw [hkept, lexemes_closed hd hq hbody]
        rfl
      | false =>
        have hnil : keptText delimiter (Span.upTo [c] s).rest = [] := by
          rw [Span.upTo_rest_of_open hclosed, keptText, firstPiece_nil]
          rfl
        have hkept : (Lexeme.quoted c (Span.upTo [c] s).body false).kept ++ [] =
            c :: (Span.upTo [c] s).body := by
          simp [Lexeme.kept]
        rw [hnil, hkept, lexemes_unclosed hd hq hbody, lexemes]
        rfl
    · rw [heq] at ih
      rw [keptText_cons heq rfl, firstPiece_cons heq rfl, List.flatMap_cons, ← ih]
      exact lexemes_plain hd hq hopens.keptText

theorem settled_keptText (hspace : delimiter ≠ ' ') (hnewline : delimiter ≠ '\n') (s : List Char) :
    Settled delimiter (keptText delimiter s) := by
  apply settled_of_isText
  intro l hl
  rw [lexemes_keptText hspace hnewline] at hl
  obtain ⟨l', -, hl⟩ := List.mem_flatMap.mp hl
  exact isText_of_mem_remains hl

/-! ## Pieces -/

theorem splitOnP_eq_cons {α : Type} (p : α → Bool) (xs : List α) :
    ∃ more, xs.splitOnP p = xs.takeWhile (!p ·) :: more := by
  induction xs with
  | nil => exact ⟨[], by simp⟩
  | cons x xs ih =>
    obtain ⟨more, hmore⟩ := ih
    rw [List.splitOnP_cons_eq_if_modifyHead, hmore]
    cases hx : p x with
    | true => exact ⟨_, by simp [hx]; rfl⟩
    | false => exact ⟨more, by simp [hx]⟩

/-- A piece of a script is the first one of some text. -/
theorem exists_of_mem_pieces {s : List Char} {piece : List Lexeme} (h : piece ∈ pieces delimiter s) :
    ∃ t, piece = firstPiece delimiter t := by
  fun_induction lexemes delimiter s with
  | case1 =>
    rw [pieces, lexemes, List.splitOnP_nil] at h
    exact ⟨[], by rw [List.mem_singleton.mp h, firstPiece_nil]⟩
  | case2 c s ih =>
    rw [pieces, lexemes, List.splitOnP_cons_eq_if_modifyHead] at h
    split at h
    · rcases List.mem_cons.mp h with rfl | h
      · exact ⟨[], (firstPiece_nil delimiter).symm⟩
      · exact ih h
    · next hcut =>
      obtain ⟨more, hmore⟩ := splitOnP_eq_cons Lexeme.isDelimiter
        (lexemes delimiter (firstLexeme delimiter c s).2)
      rw [hmore] at h
      rcases List.mem_cons.mp h with rfl | h
      · have hfirst : firstLexeme delimiter c s = ((firstLexeme delimiter c s).1, (firstLexeme delimiter c s).2) :=
          rfl
        exact ⟨c :: s, (firstPiece_cons hfirst (by simpa using hcut)).symm⟩
      · exact ih (by rw [pieces, hmore]; exact List.mem_cons_of_mem _ h)

theorem exists_piece_of_mem_statements {source script : String} {st : Statement}
    (h : st ∈ statements source delimiter script) :
    ∃ piece ∈ pieces delimiter script.toList, st.text.toList = Text.trim (piece.flatMap Lexeme.kept) ∧
      st.text.toList ≠ [] := by
  have hmem : st.text ∈ (statements source delimiter script).map Statement.text := List.mem_map_of_mem h
  rw [statements_texts] at hmem
  obtain ⟨text, htext, heq⟩ := List.mem_map.mp hmem
  obtain ⟨htext, hne⟩ := List.mem_filter.mp htext
  obtain ⟨kept, hkept, rfl⟩ := List.mem_map.mp htext
  obtain ⟨piece, hpiece, rfl⟩ := List.mem_map.mp hkept
  rw [← heq, String.toList_ofList]
  exact ⟨piece, hpiece, rfl, by simpa using hne⟩

end

/-! ## Splitting again -/

section
variable {delimiter : Char}

theorem texts_of_settled {text : String} (h : Settled delimiter text.toList)
    (htrim : Text.trim text.toList = text.toList) (hne : text.toList ≠ []) (source : String) :
    (statements source delimiter text).map Statement.text = [text] := by
  have hkept : (lexemes delimiter text.toList).flatMap Lexeme.kept = text.toList := by
    calc (lexemes delimiter text.toList).flatMap Lexeme.kept
        = (lexemes delimiter text.toList).flatMap (Lexeme.written delimiter) :=
          List.flatMap_congr fun l hl => kept_of_isText (h.isText l hl) delimiter
      _ = text.toList := lexemes_written delimiter text.toList
  have hone : pieces delimiter text.toList = [lexemes delimiter text.toList] :=
    List.splitOnP_eq_singleton fun l hl => isDelimiter_of_isText (h.isText l hl)
  rw [statements_texts, hone]
  simp [trimmedTexts, hkept, htrim, hne]

/-- No lexeme stands in front of the first character of a settled text that is trimmed. -/
theorem line_of_settled {text : String} (h : Settled delimiter text.toList) {source : String} {p : Nat}
    {st : Statement} (hst : Located delimiter source text.toList p st)
    (hsolid : ∀ c, text.toList.head? = some c → Text.isBlank c = false) : st.line = 1 := by
  obtain ⟨before, passed, first, rest, hlexemes, hbefore, hpassed, -, hp, -⟩ := hst.starts
  have htext : ∀ l ∈ before ++ passed, l.isText = true := fun l hl =>
    h.isText l (by rw [hlexemes]; exact List.mem_append_left _ hl)
  obtain rfl : before = [] := by
    rcases hbefore with hbefore | hlast
    · exact hbefore
    · cases htext _ (List.mem_append_left _ (List.mem_of_getLast? hlast))
  obtain rfl : passed = [] := by
    cases passed with
    | nil => rfl
    | cons l passed =>
      have hl := htext l List.mem_cons_self
      have hblank := (hpassed l List.mem_cons_self).2
      cases l with
      | plain c =>
        have hwritten := lexemes_written delimiter text.toList
        rw [hlexemes] at hwritten
        have hc := hsolid c (by rw [← hwritten]; rfl)
        simp [Lexeme.isSolid, hc] at hblank
      | quoted mark body closed => cases hblank
      | _ => cases hl
  rw [hst.line_eq, hp]
  rfl

/-- A trimmed text with nothing to cut or drop is one statement. -/
theorem statements_of_settled {text : String} (h : Settled delimiter text.toList)
    (htrim : Text.trim text.toList = text.toList) (hne : text.toList ≠ []) (source : String) :
    statements source delimiter text = [⟨source, 1, text⟩] := by
  obtain ⟨st, hst, htext⟩ := List.map_eq_singleton_iff.mp (texts_of_settled h htrim hne source)
  obtain ⟨positions, -, -, hall⟩ := located_assemble source (text.toList.foldl lineAfter 1)
    (timed_trace delimiter 1 text.toList) [] [] rfl rfl (progress_start (.inl rfl))
  rw [← statements_eq_assemble, hst] at hall
  obtain ⟨p, -, hlocated, -, -⟩ := List.forall₂_cons_right_iff.mp hall
  have hline : st.line = 1 := by
    apply line_of_settled h hlocated
    obtain ⟨c, -, hhead, hc⟩ := hlocated.first
    intro c' hc'
    rw [← htext, hhead] at hc'
    rwa [← Option.some.inj hc']
  rw [hst, ← hlocated.source_eq, ← hline, ← htext]

/-- **Splitting is stable on its own output.** Unless the delimiter is one of the blanks that comments leave, the
    text of a statement, split again, is that one statement, on line 1. The text holds no delimiter and no
    comment outside quotes; and what the piece of the script that it comes from leaves, before it
    is trimmed, has the lexemes of the piece with blanks for its comments: dropping them opens no comment
    or segment, and makes no delimiter. -/
theorem statements_resplit (source again script : String) {delimiter : Char} (hspace : delimiter ≠ ' ')
    (hnewline : delimiter ≠ '\n') {st : Statement} (hst : st ∈ statements source delimiter script) :
    statements again delimiter st.text = [⟨again, 1, st.text⟩] ∧
    (∀ l ∈ lexemes delimiter st.text.toList, l.isText = true) ∧
    ∃ piece ∈ pieces delimiter script.toList, st.text.toList = Text.trim (piece.flatMap Lexeme.kept) ∧
      lexemes delimiter (piece.flatMap Lexeme.kept) = piece.flatMap Lexeme.remains := by
  obtain ⟨piece, hpiece, htext, hne⟩ := exists_piece_of_mem_statements hst
  obtain ⟨t, rfl⟩ := exists_of_mem_pieces hpiece
  have hsettled : Settled delimiter st.text.toList := by
    rw [htext]
    exact (settled_keptText hspace hnewline t).trim
  refine ⟨?_, hsettled.isText, _, hpiece, htext, lexemes_keptText hspace hnewline t⟩
  apply statements_of_settled hsettled _ hne
  rw [htext, Text.trim_trim]

/-- Comments between characters that would open one, and a segment that the script ends in. -/
theorem statements_resplit_joined :
    statements "a.sql" ';' "select 1 -/* - */- 2, 6 /-- *\n* 3;\n insert ';-- " =
      [⟨"a.sql", 1, "select 1 - - 2, 6 /\n* 3"⟩, ⟨"a.sql", 3, "insert ';--"⟩] ∧
    statements "b.sql" ';' "insert ';--" = [⟨"b.sql", 1, "insert ';--"⟩] := by
  have hsplit : statements "a.sql" ';' "select 1 -/* - */- 2, 6 /-- *\n* 3;\n insert ';-- " =
      [⟨"a.sql", 1, "select 1 - - 2, 6 /\n* 3"⟩, ⟨"a.sql", 3, "insert ';--"⟩] := by
    decide +kernel
  have hlast : (⟨"a.sql", 3, "insert ';--"⟩ : Statement) ∈
      statements "a.sql" ';' "select 1 -/* - */- 2, 6 /-- *\n* 3;\n insert ';-- " := by
    rw [hsplit]
    exact List.mem_cons_of_mem _ List.mem_cons_self
  exact ⟨hsplit, (statements_resplit "a.sql" "b.sql" _ (by decide) (by decide) hlast).1⟩

end

end SqlSmell.Script
