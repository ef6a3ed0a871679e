import Mathlib.Data.List.Induction
import SqlSmell.Proofs.Script.Lexemes
import SqlSmell.Proofs.Text.Case

/- Quoted segments in statement text. `parts` scans a text for quoted segments and nothing else; a text
   put together from segments and other characters is read back part by part (`parts_kept_append`).
   The pass that normalises a text writes such a text: what it has written outside quotes
   is made of the segments it has read, unchanged, and of small characters (`Shows`), one
   lexeme after the other. So the segments of a normal form are those of the lexemes it comes from
   (`segments_normalChars`). -/
namespace SqlSmell.Script

open Text (Span IsSmall)

/-! ## The parts of a text -/

/-- The quoted segments of a text and the characters around them. -/
def parts : List Char → List Lexeme
  | [] => []
  | c :: s =>
    if isQuote c then
      .quoted c (Span.upTo [c] s).body (Span.upTo [c] s).closed :: parts (Span.upTo [c] s).rest
    else .plain c :: parts s
termination_by s => s.length
decreasing_by
  · exact Nat.lt_succ_of_le (Span.upTo_rest_length [c] s)
  · exact Nat.lt_succ_self s.length

theorem parts_kept (s : List Char) : (parts s).flatMap Lexeme.kept = s := by
  fun_induction parts s with
  | case1 => rfl
  | case2 c s hc ih =>
    rw [List.flatMap_cons, ih]
    simpa [Lexeme.kept] using Span.upTo_text [c] s
  | case3 c s hc ih =>
    rw [List.flatMap_cons, ih]
    rfl

/-- The text of a quoted segment, with its marks. -/
def Lexeme.segment? : Lexeme → Option (List Char)
  | .quoted mark body closed => some (Lexeme.quoted mark body closed).kept
  | _ => none

/-- The quoted segments of a text. -/
def segments (s : List Char) : List (List Char) := (parts s).filterMap Lexeme.segment?

/-- A character that is no quotation mark, or a closed segment. -/
def Lexeme.Scans : Lexeme → Prop
  | .plain c => isQuote c = false
  | .quoted mark body closed => isQuote mark = true ∧ mark ∉ body ∧ closed = true
  | _ => False

theorem parts_plain {c : Char} (h : isQuote c = false) (s : List Char) :
    parts (c :: s) = .plain c :: parts s := by
  rw [parts, if_neg (by simp [h])]

theorem parts_closed {mark : Char} {body : List Char} (hmark : isQuote mark = true)
    (hbody : mark ∉ body) (s : List Char) :
    parts (mark :: (body ++ mark :: s)) = .quoted mark body true :: parts s := by
  rw [parts, if_pos hmark, Span.upTo_body_mark hbody]

theorem parts_open {mark : Char} {body : List Char} (hmark : isQuote mark = true)
    (hbody : mark ∉ body) : parts (mark :: body) = [.quoted mark body false] := by
  rw [parts, if_pos hmark, Span.upTo_of_notMem hbody, parts]

/-- Parts are read back from the text they make up. -/
theorem parts_kept_append {ls : List Lexeme} (h : ∀ l ∈ ls, l.Scans) (s : List Char) :
    parts (ls.flatMap Lexeme.kept ++ s) = ls ++ parts s := by
  induction ls with
  | nil => rfl
  | cons l ls ih =>
    have hl := h l List.mem_cons_self
    have hls := ih fun l' hl' => h l' (List.mem_cons_of_mem l hl')
    cases l with
    | plain c =>
      rw [List.flatMap_cons, List.append_assoc]
      exact (parts_plain hl _).trans (congrArg (_ :: ·) hls)
    | quoted mark body closed =>
      obtain ⟨hmark, hbody, rfl⟩ := hl
      have htext : (Lexeme.quoted mark body true :: ls).flatMap Lexeme.kept ++ s =
          mark :: (body ++ mark :: (ls.flatMap Lexeme.kept ++ s)) := by
        simp [Lexeme.kept]
      rw [htext, parts_closed hmark hbody, hls, List.cons_append]
    | _ => exact hl.elim

/-! ## Texts of segments and small characters -/

/-- The text is made of the given segments, in order, with small characters around them. -/
def Composed (segs : List (List Char)) (s : List Char) : Prop :=
  ∃ ls : List Lexeme, s = ls.flatMap Lexeme.kept ∧ (∀ l ∈ ls, l.Scans) ∧
    (∀ c, .plain c ∈ ls → IsSmall c) ∧ ls.filterMap Lexeme.segment? = segs

section
variable {segs : List (List Char)} {s : List Char}

theorem composed_nil : Composed [] [] := ⟨[], rfl, by simp, by simp, rfl⟩

theorem Composed.append_plain (h : Composed segs s) {c : Char} (hquote : isQuote c = false)
    (hsmall : IsSmall c) : Composed segs (s ++ [c]) := by
  obtain ⟨ls, rfl, hscans, hplain, hsegs⟩ := h
  refine ⟨ls ++ [.plain c], by simp [Lexeme.kept], ?_, ?_, by simp [hsegs, Lexeme.segment?]⟩
  · intro l hl
    rcases List.mem_append.mp hl with hl | hl
    · exact hscans l hl
    · rw [List.mem_singleton.mp hl]
      exact hquote
  · intro d hd
    rcases List.mem_append.mp hd with hd | hd
    · exact hplain d hd
    · obtain rfl : d = c := by simpa using hd
      exact hsmall

theorem Composed.append_small (h : Composed segs s) {t : List Char}
    (ht : ∀ c ∈ t, isQuote c = false ∧ IsSmall c) : Composed segs (s ++ t) := by
  induction t generalizing s with
  | nil => simpa using h
  | cons c t ih =>
    obtain ⟨hquote, hsmall⟩ := ht c List.mem_cons_self
    rw [List.append_cons]
    exact ih (h.append_plain hquote hsmall) fun d hd => ht d (List.mem_cons_of_mem c hd)

theorem Composed.append_segment (h : Composed segs s) {mark : Char} {body : List Char}
    (hmark : isQuote mark = true) (hbody : mark ∉ body) :
    Composed (segs ++ [mark :: (body ++ [mark])]) (s ++ mark :: (body ++ [mark])) := by
  obtain ⟨ls, rfl, hscans, hplain, hsegs⟩ := h
  refine ⟨ls ++ [.quoted mark body true], by simp [Lexeme.kept], ?_, ?_,
    by simp [hsegs, Lexeme.segment?, Lexeme.kept]⟩
  · intro l hl
    rcases List.mem_append.mp hl with hl | hl
    · exact hscans l hl
    · rw [List.mem_singleton.mp hl]
      exact ⟨hmark, hbody, rfl⟩
  · intro c hc
    exact hplain c (by simpa using hc)

/-- The segments of a text that is composed of segments are these, and so they are if the text goes on
    with a segment that is not closed. -/
theorem Composed.scan (h : Composed segs s) {t : List Char}
    (ht : ∀ c, .plain c ∉ parts t) :
    segments (s ++ t) = segs ++ segments t ∧ ∀ c, .plain c ∈ parts (s ++ t) → IsSmall c := by
  obtain ⟨ls, rfl, hscans, hplain, rfl⟩ := h
  rw [segments, segments, parts_kept_append hscans, List.filterMap_append]
  refine ⟨rfl, fun c hc => ?_⟩
  rcases List.mem_append.mp hc with hc | hc
  · exact hplain c hc
  · exact absurd hc (ht c)

end

/-! ## The normalising pass -/

open SqlSmell.Normal (Pass)

/-- The pass is outside quotes, and has written the given segments among small characters. -/
def Shows (p : Pass) (segs : List (List Char)) : Prop :=
  p.quote = none ∧ Composed segs p.out.reverse

section
variable {p : Pass} {segs : List (List Char)}

theorem shows_start : Shows .start [] := ⟨rfl, composed_nil⟩

/-- The text written once the space that is due is written too. -/
def spaced (p : Pass) : List Char := if p.gap then ' ' :: p.out else p.out

theorem Shows.composed_spaced (h : Shows p segs) : Composed segs (spaced p).reverse := by
  unfold spaced
  split
  · rw [List.reverse_cons]
    exact h.2.append_plain (by decide) (by decide)
  · exact h.2

theorem Shows.read_plain (h : Shows p segs) {c : Char} (hc : isQuote c = false) :
    Shows (p.read c) segs := by
  have hgap := h.composed_spaced
  obtain ⟨quote, gap, out⟩ := p
  obtain ⟨rfl, hout⟩ := h
  by_cases hblank : Text.isBlank c = true
  · simpa [Pass.read, hblank, Shows] using hout
  · have hread : Pass.read ⟨none, gap, out⟩ c =
        ⟨none, false, (Text.lowerChar c).reverse ++ spaced ⟨none, gap, out⟩⟩ := by
      simp [Pass.read, hblank, hc, spaced]
    rw [hread]
    refine ⟨rfl, ?_⟩
    rw [List.reverse_append, List.reverse_reverse]
    -- no small form brings in a quotation mark
    refine hgap.append_small fun x hx => ?_
    obtain ⟨hsmall, hquote⟩ := Text.isSmall_of_mem_lowerChar hx
    refine ⟨?_, hsmall⟩
    rw [hc] at hquote
    simpa using hquote

theorem isBlank_of_isQuote {c : Char} (h : isQuote c = true) : Text.isBlank c = false := by
  simp only [isQuote, Bool.or_eq_true, beq_iff_eq] at h
  rcases h with (rfl | rfl) | rfl <;> decide

theorem read_mark (hquote : p.quote = none) {mark : Char} (hmark : isQuote mark = true) :
    p.read mark = ⟨some mark, false, mark :: spaced p⟩ := by
  simp [Pass.read, hquote, isBlank_of_isQuote hmark, hmark, spaced]

theorem foldl_read_body {mark : Char} {body : List Char} (h : mark ∉ body) (gap : Bool)
    (out : List Char) :
    body.foldl Pass.read ⟨some mark, gap, out⟩ = ⟨some mark, gap, body.reverse ++ out⟩ := by
  induction body generalizing out with
  | nil => rfl
  | cons c body ih =>
    rw [List.mem_cons, not_or] at h
    have hread : Pass.read ⟨some mark, gap, out⟩ c = ⟨some mark, gap, c :: out⟩ := by
      simp [Pass.read, Ne.symm h.1]
    rw [List.foldl_cons, hread, ih h.2]
    simp

/-- Where a segment is not closed, it ends what is written. -/
theorem foldl_read_open (hquote : p.quote = none) {mark : Char} {body : List Char}
    (hmark : isQuote mark = true) (hbody : mark ∉ body) :
    (mark :: body).foldl Pass.read p = ⟨some mark, false, (mark :: body).reverse ++ spaced p⟩ := by
  rw [List.foldl_cons, read_mark hquote hmark, foldl_read_body hbody]
  simp

theorem foldl_read_closed (hquote : p.quote = none) {mark : Char} {body : List Char}
    (hmark : isQuote mark = true) (hbody : mark ∉ body) :
    (mark :: (body ++ [mark])).foldl Pass.read p =
      ⟨none, false, (mark :: (body ++ [mark])).reverse ++ spaced p⟩ := by
  rw [← List.cons_append, List.foldl_append, foldl_read_open hquote hmark hbody]
  simp [Pass.read]

theorem Shows.read_segment (h : Shows p segs) {mark : Char} {body : List Char}
    (hmark : isQuote mark = true) (hbody : mark ∉ body) :
    Shows ((mark :: (body ++ [mark])).foldl Pass.read p) (segs ++ [mark :: (body ++ [mark])]) := by
  rw [foldl_read_closed h.1 hmark hbody]
  refine ⟨rfl, ?_⟩
  have hcomposed := h.composed_spaced.append_segment hmark hbody
  simpa using hcomposed

end

/-! ## Lexemes through the pass -/

/-- What the lexemes of a script satisfy: a plain character is no quotation mark, and a segment does not
    hold its own mark. -/
def Lexeme.Sound : Lexeme → Prop
  | .plain c => isQuote c = false
  | .quoted mark body _ => isQuote mark = true ∧ mark ∉ body
  | _ => True

/-- Is it a segment without its end? -/
def Lexeme.isOpen : Lexeme → Bool
  | .quoted _ _ closed => !closed
  | _ => false

section
variable {p : Pass} {segs : List (List Char)} {ls : List Lexeme}

theorem Shows.read_lexeme (h : Shows p segs) {l : Lexeme} (hsound : l.Sound)
    (hopen : l.isOpen = false) :
    Shows (l.kept.foldl Pass.read p) (segs ++ l.segment?.toList) := by
  have hplain : ∀ c, isQuote c = false → Shows ([c].foldl Pass.read p) (segs ++ []) := by
    intro c hc
    rw [List.append_nil]
    exact h.read_plain hc
  have hnothing : Shows ([].foldl Pass.read p) (segs ++ []) := by
    rw [List.append_nil]
    exact h
  cases l with
  | delimiter => exact hnothing
  | lineComment body closed =>
    cases closed with
    | true => exact hplain '\n' (by decide)
    | false => exact hnothing
  | blockComment body closed =>
    cases closed with
    | true => exact hplain ' ' (by decide)
    | false => exact hnothing
  | quoted mark body closed =>
    obtain rfl : closed = true := by simpa [Lexeme.isOpen] using hopen
    exact h.read_segment hsound.1 hsound.2
  | plain c => exact hplain c hsound

theorem Shows.read_lexemes (h : Shows p segs) (hls : ∀ l ∈ ls, l.Sound ∧ l.isOpen = false) :
    Shows ((ls.flatMap Lexeme.kept).foldl Pass.read p) (segs ++ ls.filterMap Lexeme.segment?) := by
  induction ls generalizing p segs with
  | nil => simpa using h
  | cons l ls ih =>
    obtain ⟨hsound, hopen⟩ := hls l List.mem_cons_self
    have hrest := ih (h.read_lexeme hsound hopen) fun l' hl' => hls l' (List.mem_cons_of_mem l hl')
    rw [List.flatMap_cons, List.foldl_append]
    cases hl : l.segment? with
    | none => simpa [hl] using hrest
    | some seg => simpa [hl] using hrest

/-- The segments of a normal form are those of the lexemes it comes from. -/
theorem segments_normalChars (hls : ∀ l ∈ ls, l.Sound ∧ l.isOpen = false) :
    segments (normalChars (ls.flatMap Lexeme.kept)) = ls.filterMap Lexeme.segment? ∧
      ∀ c, .plain c ∈ parts (normalChars (ls.flatMap Lexeme.kept)) → IsSmall c := by
  have hshows := shows_start.read_lexemes hls
  have hscan := hshows.2.scan (t := []) (by simp [parts])
  simpa [segments, parts, normalChars] using hscan

/-- The same if a segment follows that is not closed. -/
theorem segments_normalChars_open (hls : ∀ l ∈ ls, l.Sound ∧ l.isOpen = false) {mark : Char}
    {body : List Char} (hmark : isQuote mark = true) (hbody : mark ∉ body) :
    segments (normalChars (ls.flatMap Lexeme.kept ++ mark :: body)) =
        ls.filterMap Lexeme.segment? ++ [mark :: body] ∧
      ∀ c, .plain c ∈ parts (normalChars (ls.flatMap Lexeme.kept ++ mark :: body)) → IsSmall c := by
  have hshows := shows_start.read_lexemes hls
  have hscan := hshows.composed_spaced.scan (t := mark :: body) (by simp [parts_open hmark hbody])
  have hopen : segments (mark :: body) = [mark :: body] := by
    simp [segments, parts_open hmark hbody, Lexeme.segment?, Lexeme.kept]
  rw [normalChars, List.foldl_append, foldl_read_open hshows.1 hmark hbody]
  rw [hopen] at hscan
  simpa using hscan

end

end SqlSmell.Script
