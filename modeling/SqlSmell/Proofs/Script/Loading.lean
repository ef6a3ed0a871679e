import SqlSmell.Proofs.Outcome
import SqlSmell.Proofs.Script.Segments
import SqlSmell.Proofs.Text.Blank
import SqlSmell.Script.Statements

/- What loading does to quoted segments. The script is scanned for quotes among comments and delimiters,
   each statement once more when it is normalised, and the result can be scanned a third time: all three
   find the same segments (`load_keeps_segments`). Trimming comes in between; it
   takes blank lexemes from both ends of a piece, and blanks from the end of a segment only if the script
   ends in it. -/
namespace SqlSmell.Script

open Text (Span IsSmall)

/-! ## The lexemes of a script -/

theorem firstLexeme_sound (delimiter c : Char) (s : List Char) :
    (firstLexeme delimiter c s).1.Sound := by
  unfold firstLexeme
  split
  · trivial
  · split
    · trivial
    · trivial
    · split
      · next hc => exact ⟨hc, Span.mark_notMem_body c s⟩
      · next hc => exact (Bool.not_eq_true _).mp hc

theorem firstLexeme_rest_of_open (delimiter c : Char) (s : List Char) :
    (firstLexeme delimiter c s).1.isOpen = true → (firstLexeme delimiter c s).2 = [] := by
  unfold firstLexeme
  split
  · intro h
    cases h
  · split
    · intro h
      cases h
    · intro h
      cases h
    · split
      · intro h
        exact Span.upTo_rest_of_open (by simpa [Lexeme.isOpen] using h)
      · intro h
        cases h

theorem lexemes_sound {delimiter : Char} {s : List Char} {l : Lexeme}
    (h : l ∈ lexemes delimiter s) : l.Sound := by
  fun_induction lexemes delimiter s with
  | case1 => simp at h
  | case2 c s ih =>
    rcases List.mem_cons.mp h with rfl | h
    · exact firstLexeme_sound delimiter c s
    · exact ih h

/-- Only the last lexeme of a script can be a segment without its end. -/
theorem lexemes_open (delimiter : Char) (s : List Char) :
    (lexemes delimiter s).Pairwise fun l _ => l.isOpen = false := by
  fun_induction lexemes delimiter s with
  | case1 => exact .nil
  | case2 c s ih =>
    refine List.pairwise_cons.mpr ⟨fun l hl => ?_, ih⟩
    -- nothing is left behind a segment without its end
    by_contra hopen
    rw [firstLexeme_rest_of_open _ _ _ (by simpa using hopen), lexemes] at hl
    simp at hl

theorem sublist_of_mem_splitOnP {α : Type} {p : α → Bool} {xs piece : List α}
    (h : piece ∈ xs.splitOnP p) : piece.Sublist xs := by
  induction xs generalizing piece with
  | nil =>
    obtain rfl : piece = [] := by simpa using h
    exact .slnil
  | cons x xs ih =>
    obtain ⟨first, more, hxs⟩ := List.exists_cons_of_ne_nil (List.splitOnP_ne_nil p xs)
    rw [List.splitOnP_cons_eq_if_modifyHead, hxs] at h
    rw [hxs] at ih
    split at h
    · rcases List.mem_cons.mp h with rfl | h
      · exact List.nil_sublist _
      · exact (ih h).cons x
    · rcases List.mem_cons.mp h with rfl | h
      · exact (ih List.mem_cons_self).cons_cons x
      · exact (ih (List.mem_cons_of_mem first h)).cons x

/-! ## Trimming -/

theorem isBlank_kept_or (l : Lexeme) :
    (l.segment? = none ∧ ∀ c ∈ l.kept, Text.isBlank c = true) ∨
      (∃ c, l = .plain c ∧ Text.isBlank c = false) ∨ ∃ mark body closed, l = .quoted mark body closed := by
  cases l with
  | delimiter => exact .inl ⟨rfl, by simp [Lexeme.kept]⟩
  | lineComment body closed => exact .inl ⟨rfl, by cases closed <;> simp [Lexeme.kept, Text.isBlank]⟩
  | blockComment body closed => exact .inl ⟨rfl, by cases closed <;> simp [Lexeme.kept, Text.isBlank]⟩
  | quoted mark body closed => exact .inr (.inr ⟨mark, body, closed, rfl⟩)
  | plain c =>
    cases hc : Text.isBlank c with
    | true => exact .inl ⟨rfl, by simpa [Lexeme.kept] using hc⟩
    | false => exact .inr (.inl ⟨c, rfl, hc⟩)

/-- What a lexeme leaves is blank, and then it is no segment, or starts with a character that is not. -/
theorem kept_start {l : Lexeme} (h : l.Sound) :
    (l.segment? = none ∧ ∀ c ∈ l.kept, Text.isBlank c = true) ∨
      ∃ c s, l.kept = c :: s ∧ Text.isBlank c = false := by
  obtain hblank | ⟨c, rfl, hc⟩ | ⟨mark, body, closed, rfl⟩ := isBlank_kept_or l
  · exact .inl hblank
  · exact .inr ⟨c, [], rfl, hc⟩
  · exact .inr ⟨mark, _, rfl, isBlank_of_isQuote h.1⟩

theorem kept_end {l : Lexeme} (h : l.Sound) (hopen : l.isOpen = false) :
    (l.segment? = none ∧ ∀ c ∈ l.kept, Text.isBlank c = true) ∨
      ∃ s c, l.kept = s ++ [c] ∧ Text.isBlank c = false := by
  obtain hblank | ⟨c, rfl, hc⟩ | ⟨mark, body, closed, rfl⟩ := isBlank_kept_or l
  · exact .inl hblank
  · exact .inr ⟨[], c, rfl, hc⟩
  · obtain rfl : closed = true := by simpa [Lexeme.isOpen] using hopen
    exact .inr ⟨mark :: body, mark, rfl, isBlank_of_isQuote h.1⟩

section
variable {ls : List Lexeme}

theorem trimStart_kept (hls : ∀ l ∈ ls, l.Sound) :
    ∃ dropped rest, ls = dropped ++ rest ∧ (∀ l ∈ dropped, l.segment? = none) ∧
      Text.trimStart (ls.flatMap Lexeme.kept) = rest.flatMap Lexeme.kept := by
  induction ls with
  | nil => exact ⟨[], [], rfl, by simp, rfl⟩
  | cons l ls ih =>
    rw [List.flatMap_cons]
    obtain ⟨hl, hblank⟩ | ⟨c, s, hkept, hc⟩ := kept_start (hls l List.mem_cons_self)
    · obtain ⟨dropped, rest, rfl, hdropped, htrim⟩ := ih fun l' hl' => hls l' (List.mem_cons_of_mem l hl')
      refine ⟨l :: dropped, rest, rfl, List.forall_mem_cons.mpr ⟨hl, hdropped⟩, ?_⟩
      rw [Text.trimStart_blanks_append hblank, htrim]
    · refine ⟨[], l :: ls, rfl, by simp, ?_⟩
      rw [hkept, List.cons_append, Text.trimStart_cons hc, List.flatMap_cons, hkept, List.cons_append]

theorem trimEnd_kept (hls : ∀ l ∈ ls, l.Sound ∧ l.isOpen = false) :
    ∃ rest dropped, ls = rest ++ dropped ∧ (∀ l ∈ dropped, l.segment? = none) ∧
      Text.trimEnd (ls.flatMap Lexeme.kept) = rest.flatMap Lexeme.kept := by
  induction ls using List.reverseRecOn with
  | nil => exact ⟨[], [], rfl, by simp, rfl⟩
  | append_singleton ls l ih =>
    rw [List.flatMap_append, List.flatMap_singleton]
    obtain ⟨hsound, hopen⟩ := hls l (by simp)
    obtain ⟨hl, hblank⟩ | ⟨s, c, hkept, hc⟩ := kept_end hsound hopen
    · obtain ⟨rest, dropped, rfl, hdropped, htrim⟩ :=
        ih fun l' hl' => hls l' (List.mem_append_left [l] hl')
      refine ⟨rest, dropped ++ [l], by simp, ?_, by rw [Text.trimEnd_append_blanks hblank, htrim]⟩
      intro l' hl'
      rcases List.mem_append.mp hl' with hl' | hl'
      · exact hdropped l' hl'
      · rw [List.mem_singleton.mp hl', hl]
    · refine ⟨ls ++ [l], [], by simp, by simp, ?_⟩
      have htrim : Text.trimEnd [] = [] := rfl
      rw [hkept, ← List.append_assoc, Text.trimEnd_append_cons hc, htrim]
      simp [hkept]

/-! ## Segments of a piece -/

/-- What is left of a quoted segment: all of it, but for the blanks at its end if it has no end. -/
def Lexeme.survivor? (l : Lexeme) : Option (List Char) :=
  bif l.isOpen then l.segment?.map Text.trimEnd else l.segment?

theorem filterMap_survivor?_of_none (h : ∀ l ∈ ls, l.segment? = none) :
    ls.filterMap Lexeme.survivor? = [] := by
  refine List.filterMap_eq_nil_iff.mpr fun l hl => ?_
  simp [Lexeme.survivor?, h l hl]

theorem filterMap_survivor?_of_closed (h : ∀ l ∈ ls, l.isOpen = false) :
    ls.filterMap Lexeme.survivor? = ls.filterMap Lexeme.segment? :=
  List.filterMap_congr fun l hl => by simp [Lexeme.survivor?, h l hl]

/-- The segments of a piece that the script does not end in survive as they are. -/
theorem segments_trimEnd_closed (hls : ∀ l ∈ ls, l.Sound ∧ l.isOpen = false) :
    segments (normalChars (Text.trimEnd (ls.flatMap Lexeme.kept))) = ls.filterMap Lexeme.survivor? ∧
      ∀ c, .plain c ∈ parts (normalChars (Text.trimEnd (ls.flatMap Lexeme.kept))) → IsSmall c := by
  obtain ⟨rest, dropped, rfl, hdropped, htrim⟩ := trimEnd_kept hls
  have hrest : ∀ l ∈ rest, l.Sound ∧ l.isOpen = false := fun l hl =>
    hls l (List.mem_append_left dropped hl)
  rw [htrim, List.filterMap_append, filterMap_survivor?_of_none hdropped, List.append_nil,
    filterMap_survivor?_of_closed fun l hl => (hrest l hl).2]
  exact segments_normalChars hrest

/-- A segment that the script ends in loses the blanks at its end. -/
theorem segments_trimEnd_open (hls : ∀ l ∈ ls, l.Sound ∧ l.isOpen = false) {last : Lexeme}
    (hlast : last.Sound) (hopen : last.isOpen = true) :
    segments (normalChars (Text.trimEnd ((ls ++ [last]).flatMap Lexeme.kept))) =
        (ls ++ [last]).filterMap Lexeme.survivor? ∧
      ∀ c, .plain c ∈ parts (normalChars (Text.trimEnd ((ls ++ [last]).flatMap Lexeme.kept))) →
        IsSmall c := by
  cases last with
  | quoted mark body closed =>
    obtain rfl : closed = false := by simpa [Lexeme.isOpen] using hopen
    obtain ⟨hmark, hbody⟩ := hlast
    have hblank := isBlank_of_isQuote hmark
    have htext : Text.trimEnd ((ls ++ [Lexeme.quoted mark body false]).flatMap Lexeme.kept) =
        ls.flatMap Lexeme.kept ++ mark :: Text.trimEnd body := by
      rw [List.flatMap_append, ← Text.trimEnd_append_cons hblank]
      simp [Lexeme.kept]
    have hsurvivors : (ls ++ [Lexeme.quoted mark body false]).filterMap Lexeme.survivor? =
        ls.filterMap Lexeme.segment? ++ [mark :: Text.trimEnd body] := by
      have htrim : Text.trimEnd (mark :: body) = mark :: Text.trimEnd body :=
        Text.trimEnd_append_cons (s := []) hblank
      rw [List.filterMap_append, filterMap_survivor?_of_closed fun l hl => (hls l hl).2]
      simp [Lexeme.survivor?, Lexeme.isOpen, Lexeme.segment?, Lexeme.kept, htrim]
    rw [htext, hsurvivors]
    exact segments_normalChars_open hls hmark fun hmem => hbody (Text.mem_of_mem_trimEnd hmem)
  | _ => contradiction

/-- The segments of a piece survive trimming and normalising, and all else becomes small. -/
theorem segments_piece {piece : List Lexeme} (hsound : ∀ l ∈ piece, l.Sound)
    (hopen : piece.Pairwise fun l _ => l.isOpen = false) :
    segments (normalChars (pieceText piece)) = piece.filterMap Lexeme.survivor? ∧
      ∀ c, .plain c ∈ parts (normalChars (pieceText piece)) → IsSmall c := by
  obtain ⟨dropped, ls, rfl, hdropped, htrim⟩ := trimStart_kept hsound
  rw [pieceText, Text.trim, htrim, List.filterMap_append, filterMap_survivor?_of_none hdropped,
    List.nil_append]
  have hsound : ∀ l ∈ ls, l.Sound := fun l hl => hsound l (List.mem_append_right dropped hl)
  have hopen := (List.pairwise_append.mp hopen).2.1
  -- all but the last lexeme have their end
  rcases List.eq_nil_or_concat ls with rfl | ⟨init, last, rfl⟩
  · exact segments_trimEnd_closed (by simp)
  · rw [List.concat_eq_append] at hsound hopen ⊢
    have hinit : ∀ l ∈ init, l.Sound ∧ l.isOpen = false := fun l hl =>
      ⟨hsound l (List.mem_append_left [last] hl),
        (List.pairwise_append.mp hopen).2.2 l hl last (List.mem_singleton_self last)⟩
    have hlast := hsound last (by simp)
    cases h : last.isOpen with
    | true => exact segments_trimEnd_open hinit hlast h
    | false =>
      refine segments_trimEnd_closed fun l hl => ?_
      rcases List.mem_append.mp hl with hl | hl
      · exact hinit l hl
      · rw [List.mem_singleton.mp hl]
        exact ⟨hlast, h⟩

end

/-! ## Loading -/

theorem loadOne_ok {limit : Nat} {s t : Statement} (h : loadOne limit s = .ok t) :
    { s with text := normalize s.text } = t := by
  unfold loadOne at h
  split at h
  · contradiction
  · exact Except.ok.inj h

/-- The loaded texts are the normal forms of the texts between delimiters. -/
theorem load_texts {source script : String} {delimiter : Char} {limit : Nat} {loaded : List Statement}
    (h : load source delimiter limit script = .ok loaded) :
    loaded.map Statement.text = (statementPieces delimiter script.toList).map fun piece =>
      String.ofList (normalChars (pieceText piece)) := by
  rw [eq_map_of_mapM_ok (fun _ _ => loadOne_ok) h, List.map_map]
  have htexts := congrArg (List.map normalize) (statements_texts source delimiter script)
  rw [trimmedTexts_pieces] at htexts
  simpa [Function.comp_def, normalize] using htexts

theorem segments_statementPiece {delimiter : Char} {s : List Char} {piece : List Lexeme}
    (h : piece ∈ statementPieces delimiter s) :
    segments (normalChars (pieceText piece)) = piece.filterMap Lexeme.survivor? ∧
      ∀ c, .plain c ∈ parts (normalChars (pieceText piece)) → IsSmall c := by
  have hsub : piece.Sublist (lexemes delimiter s) := sublist_of_mem_splitOnP (List.mem_filter.mp h).1
  exact segments_piece (fun l hl => lexemes_sound (hsub.subset hl)) ((lexemes_open delimiter s).sublist hsub)

theorem isOpen_of_mem_dropLast {delimiter : Char} {s : List Char} {l : Lexeme}
    (h : l ∈ (lexemes delimiter s).dropLast) : l.isOpen = false := by
  have hopen := lexemes_open delimiter s
  rcases List.eq_nil_or_concat (lexemes delimiter s) with hnil | ⟨init, last, hlast⟩
  · simp [hnil] at h
  · rw [hlast, List.concat_eq_append, List.dropLast_concat] at h
    rw [hlast, List.concat_eq_append] at hopen
    exact (List.pairwise_append.mp hopen).2.2 l h last (List.mem_singleton_self last)

/-- **Quoted text survives loading.** If a script can be loaded, the statements come from the pieces of
    the script between delimiters, one from each, and a scan of a loaded text finds the
    quoted segments of its piece: as they are, but for the blanks at the end of a segment
    that the script ends in. Outside its segments a loaded text is in small letters. -/
theorem load_keeps_segments {source script : String} {delimiter : Char} {limit : Nat}
    {loaded : List Statement} (h : load source delimiter limit script = .ok loaded) :
    ((statements source delimiter script).map fun s => s.text.toList) =
      (statementPieces delimiter script.toList).map pieceText ∧
    (loaded.map fun s => segments s.text.toList) =
      (statementPieces delimiter script.toList).map (List.filterMap Lexeme.survivor?) ∧
    (∀ l ∈ (lexemes delimiter script.toList).dropLast, l.isOpen = false) ∧
    ∀ s ∈ loaded, (parts s.text.toList).flatMap Lexeme.kept = s.text.toList ∧
      ∀ c, .plain c ∈ parts s.text.toList → Text.lowerChar c = [c] := by
  have htexts := load_texts h
  refine ⟨?_, ?_, fun l hl => isOpen_of_mem_dropLast hl, fun s hs => ⟨parts_kept _, fun c hc => ?_⟩⟩
  · have htexts := congrArg (List.map String.toList) (statements_texts source delimiter script)
    rw [trimmedTexts_pieces] at htexts
    simpa [Function.comp_def] using htexts
  · have hsegments := congrArg (List.map fun text => segments text.toList) htexts
    rw [List.map_map, List.map_map] at hsegments
    refine hsegments.trans (List.map_congr_left fun piece hpiece => ?_)
    simpa using (segments_statementPiece hpiece).1
  · have hmem : s.text ∈ loaded.map Statement.text := List.mem_map_of_mem hs
    rw [htexts] at hmem
    obtain ⟨piece, hpiece, htext⟩ := List.mem_map.mp hmem
    rw [← htext, String.toList_ofList] at hc
    exact (segments_statementPiece hpiece).2 c hc

/-- Quotes in comments open nothing, a delimiter in quotes cuts nothing, and the segment without an
    end loses its last blank. -/
theorem load_keeps_segments_unclosed :
    load "a.sql" ';' 80 "SELECT 'It''s;' /* ' */, T;-- don't\nInsert \x22A b; " =
      .ok [⟨"a.sql", 1, "select 'It''s;' , t"⟩, ⟨"a.sql", 2, "insert \x22A b;"⟩] ∧
    [segments "select 'It''s;' , t".toList, segments "insert \x22A b;".toList] =
      [["'It'".toList, "'s;'".toList], ["\x22A b;".toList]] := by
  have hload : load "a.sql" ';' 80 "SELECT 'It''s;' /* ' */, T;-- don't\nInsert \x22A b; " =
      .ok [⟨"a.sql", 1, "select 'It''s;' , t"⟩, ⟨"a.sql", 2, "insert \x22A b;"⟩] := by
    decide +kernel
  exact ⟨hload, (load_keeps_segments hload).2.1.trans (by decide +kernel)⟩

end SqlSmell.Script
