import SqlSmell.Proofs.Script.Draft
import SqlSmell.Proofs.Script.Segments
import SqlSmell.Proofs.Text.Letter
import SqlSmell.Script.Statements

/- Letter case outside quotes. Two scripts that differ only in the case of ASCII letters outside quoted
   segments are read in step: the reader goes through the same modes and lines and keeps the same
   characters up to case (`Twins`, `recased_trace`). The drafts then differ in case outside quotes only,
   have the same length in bytes and the same normal form (`Alike`), so that loading cannot tell the
   scripts apart (`load_ignores_case`). -/
namespace SqlSmell.Script

open SqlSmell.Normal (Pass)

/-! ## Marks -/

/-- The mark that ends the quoted segment the reader is in. -/
def Mode.mark? : Mode → Option Char
  | .quoted mark => some mark
  | _ => none

/-- The mark that ends the quoted segment behind a character of statement text. -/
def markAfter : Option Char → Char → Option Char
  | some mark, c => if c == mark then none else some mark
  | none, c => if isQuote c then some c else none

/-- The same behind an event. -/
def markAfterEvent (mark : Option Char) : Event → Option Char
  | .keep c => markAfter mark c
  | .cut => none

theorem markAfter_of_isBlank {c : Char} (h : Text.isBlank c = true) : markAfter none c = none := by
  cases hc : isQuote c with
  | false => simp [markAfter, hc]
  | true =>
    rw [isBlank_of_isQuote hc] at h
    contradiction

/-- The pass that normalises a text is in the segment that the text leads into. -/
theorem pass_read_quote (p : Pass) (c : Char) : (p.read c).quote = markAfter p.quote c := by
  cases hq : p.quote with
  | some mark => simp [Pass.read, hq, markAfter]
  | none =>
    cases hc : isQuote c with
    | true => simp [Pass.read, hq, markAfter, hc, isBlank_of_isQuote hc]
    | false =>
      simp only [Pass.read, hq, markAfter, hc]
      split <;> rfl

theorem readCode_mark (delimiter c : Char) :
    (readCode delimiter c).2.foldl markAfterEvent none = (readCode delimiter c).1.mark? := by
  unfold readCode
  split
  · rfl
  · split
    · rfl
    · split
      · rfl
      · split
        · next hc => simp [markAfterEvent, markAfter, Mode.mark?, hc]
        · next hc => simp [markAfterEvent, markAfter, Mode.mark?, hc]

/-- The events of a character lead from the mark of one mode to that of the next. -/
theorem read_mark? (delimiter : Char) (mode : Mode) (c : Char) :
    (mode.read delimiter c).2.foldl markAfterEvent mode.mark? = (mode.read delimiter c).1.mark? := by
  cases mode with
  | code => exact readCode_mark delimiter c
  | dash =>
    simp only [Mode.read]
    split
    · rfl
    · exact readCode_mark delimiter c
  | slash =>
    simp only [Mode.read]
    split
    · rfl
    · exact readCode_mark delimiter c
  | quoted mark =>
    simp only [Mode.read, Mode.mark?, List.foldl_cons, List.foldl_nil, markAfterEvent, markAfter]
    split <;> rfl
  | lineComment =>
    simp only [Mode.read]
    split
    · next hc => rw [eq_of_beq hc]; rfl
    · rfl
  | blockComment => simp only [Mode.read]; split <;> rfl
  | blockStar =>
    simp only [Mode.read]
    split
    · rfl
    · split <;> rfl

/-! ## Characters up to case -/

/-- Equal, or equal up to the case of a letter outside quotes. -/
def SameChar (mark : Option Char) (c d : Char) : Prop := c = d ∨ mark = none ∧ c.toLower = d.toLower

section
variable {mark : Option Char} {c d : Char}

theorem SameChar.cases (h : SameChar mark c d) :
    c = d ∨ mark = none ∧ c.isAlpha = true ∧ d.isAlpha = true ∧ c.toLower = d.toLower := by
  by_cases hcd : c = d
  · exact .inl hcd
  · obtain ⟨hmark, hlower⟩ := h.resolve_left hcd
    exact .inr ⟨hmark, Text.isAlpha_of_toLower_eq hlower hcd,
      Text.isAlpha_of_toLower_eq hlower.symm (Ne.symm hcd), hlower⟩

theorem SameChar.isBlank_eq (h : SameChar mark c d) : Text.isBlank c = Text.isBlank d := by
  obtain rfl | ⟨-, hc, hd, -⟩ := h.cases
  · rfl
  · rw [(Text.plain_of_isAlpha hc).1, (Text.plain_of_isAlpha hd).1]

theorem SameChar.utf8Size_eq (h : SameChar mark c d) : c.utf8Size = d.utf8Size := by
  obtain rfl | ⟨-, hc, hd, -⟩ := h.cases
  · rfl
  · rw [(Text.plain_of_isAlpha hc).2.2.1, (Text.plain_of_isAlpha hd).2.2.1]

theorem SameChar.lineAfter_eq (h : SameChar mark c d) (line : Nat) :
    lineAfter line c = lineAfter line d := by
  obtain rfl | ⟨-, hc, hd, -⟩ := h.cases
  · rfl
  · have hc' : c ≠ '\n' := by rintro rfl; contradiction
    have hd' : d ≠ '\n' := by rintro rfl; contradiction
    simp [lineAfter, hc', hd']

/-- The normalising pass does not see the difference. -/
theorem SameChar.read_eq {p : Pass} (h : SameChar p.quote c d) : p.read c = p.read d := by
  obtain rfl | ⟨hquote, hc, hd, hlower⟩ := h.cases
  · rfl
  · simp only [Pass.read, hquote, Text.plain_of_isAlpha hc, Text.plain_of_isAlpha hd,
      Text.lowerChar_of_isAlpha hc, Text.lowerChar_of_isAlpha hd, hlower, Bool.false_eq_true, if_false]

end

/-! ## Texts up to case -/

/-- The texts differ in the case of letters outside quotes only; the segment that they start in ends at
    the given mark. -/
inductive Alike : Option Char → List Char → List Char → Prop
  | nil (mark : Option Char) : Alike mark [] []
  | cons {mark : Option Char} {c d : Char} {s t : List Char} (first : SameChar mark c d)
      (rest : Alike (markAfter mark c) s t) : Alike mark (c :: s) (d :: t)

section
variable {mark : Option Char} {s t : List Char}

theorem Alike.concat (h : Alike mark s t) {c d : Char} (hc : SameChar (s.foldl markAfter mark) c d) :
    Alike mark (s ++ [c]) (t ++ [d]) := by
  induction h with
  | nil mark => exact .cons hc (.nil _)
  | cons first _ ih => exact .cons first (ih hc)

theorem Alike.eq_nil_iff (h : Alike mark s t) : s = [] ↔ t = [] := by
  cases h <;> simp

theorem Alike.trimEnd (h : Alike mark s t) : Alike mark (Text.trimEnd s) (Text.trimEnd t) := by
  induction h with
  | nil mark => exact .nil mark
  | cons first rest ih =>
    rw [Text.trimEnd_cons, Text.trimEnd_cons, first.isBlank_eq]
    have hempty := ih.eq_nil_iff
    split
    · next hblank => rw [if_pos ⟨hempty.mp hblank.1, hblank.2⟩]; exact .nil _
    · next hblank =>
      rw [if_neg fun hblank' => hblank ⟨hempty.mpr hblank'.1, hblank'.2⟩]
      exact .cons first ih

theorem Alike.trimStart (h : Alike none s t) : Alike none (Text.trimStart s) (Text.trimStart t) := by
  induction s generalizing t with
  | nil => cases h; exact .nil none
  | cons c s ih =>
    cases h with
    | cons first rest =>
      cases hc : Text.isBlank c with
      | true =>
        rw [markAfter_of_isBlank hc] at rest
        rw [Text.trimStart, List.dropWhile_cons_of_pos hc, Text.trimStart,
          List.dropWhile_cons_of_pos (first.isBlank_eq ▸ hc)]
        exact ih rest
      | false =>
        rw [Text.trimStart_cons hc, Text.trimStart_cons (first.isBlank_eq ▸ hc)]
        exact .cons first rest

theorem Alike.trim (h : Alike none s t) : Alike none (Text.trim s) (Text.trim t) := h.trimStart.trimEnd

theorem Alike.utf8ByteSize_eq (h : Alike mark s t) :
    (String.ofList s).utf8ByteSize = (String.ofList t).utf8ByteSize := by
  induction h with
  | nil => rfl
  | cons first _ ih =>
    rw [String.ofList_cons, String.ofList_cons, String.utf8ByteSize_append, String.utf8ByteSize_append,
      String.utf8ByteSize_singleton, String.utf8ByteSize_singleton, first.utf8Size_eq, ih]

theorem Alike.foldl_read_eq {p : Pass} (h : Alike p.quote s t) :
    s.foldl Pass.read p = t.foldl Pass.read p := by
  induction s generalizing t p with
  | nil => cases h; rfl
  | cons c s ih =>
    cases h with
    | cons first rest =>
      rw [List.foldl_cons, List.foldl_cons, ← first.read_eq]
      apply ih
      rw [pass_read_quote]
      exact rest

theorem Alike.normalChars_eq (h : Alike none s t) : normalChars s = normalChars t := by
  rw [normalChars, normalChars, Alike.foldl_read_eq (p := .start) h]

end

/-! ## Traces up to case -/

/-- The events keep the same characters up to the case of letters outside quotes, and stand on the same
    lines. -/
inductive Recased : Option Char → List (Event × Nat) → List (Event × Nat) → Prop
  | nil (mark : Option Char) : Recased mark [] []
  | keep {mark : Option Char} {c d : Char} {line : Nat} {es fs : List (Event × Nat)}
      (first : SameChar mark c d) (rest : Recased (markAfter mark c) es fs) :
      Recased mark ((.keep c, line) :: es) ((.keep d, line) :: fs)
  | cut {mark : Option Char} {line : Nat} {es fs : List (Event × Nat)} (rest : Recased none es fs) :
      Recased mark ((.cut, line) :: es) ((.cut, line) :: fs)

theorem Recased.append_left {mark : Option Char} {events : List Event} {es fs : List (Event × Nat)}
    (h : Recased (events.foldl markAfterEvent mark) es fs) (line : Nat) :
    Recased mark (events.map (·, line) ++ es) (events.map (·, line) ++ fs) := by
  induction events generalizing mark with
  | nil => exact h
  | cons e events ih =>
    cases e with
    | keep c => exact .keep (.inl rfl) (ih h)
    | cut => exact .cut (ih h)

/-- The mode behind a letter outside quotes. -/
def Mode.behindLetter : Mode → Mode
  | .lineComment => .lineComment
  | .blockComment | .blockStar => .blockComment
  | _ => .code

section
variable {delimiter : Char} {mode : Mode} (hmark : mode.mark? = none)
include hmark

/-- In code a letter is kept, behind what was held back, and in a comment it is dropped. -/
theorem read_letter {c : Char} (hc : c.isAlpha = true) (hd : c ≠ delimiter) :
    mode.read delimiter c =
      (mode.behindLetter, if mode.isCode then mode.leftover ++ [.keep c] else []) := by
  obtain ⟨-, hquote, -, hmarks⟩ := Text.plain_of_isAlpha hc
  have hdash : c ≠ '-' := by rintro rfl; contradiction
  have hslash : c ≠ '/' := by rintro rfl; contradiction
  have hstar : c ≠ '*' := by rintro rfl; contradiction
  have hnewline : c ≠ '\n' := by rintro rfl; contradiction
  have hcode : readCode delimiter c = (.code, [.keep c]) := by
    simp [readCode, hd, hdash, hslash, hquote]
  cases mode with
  | code => exact hcode
  | quoted mark => contradiction
  | _ => simp [Mode.read, readBehind, hcode, hdash, hslash, hstar, hnewline, Mode.behindLetter,
      Mode.isCode, Mode.leftover]

theorem recased_read_letter {c d : Char} (hc : c.isAlpha = true) (hcd : c ≠ delimiter)
    (hd : d.isAlpha = true) (hdd : d ≠ delimiter) (hlower : c.toLower = d.toLower)
    {es fs : List (Event × Nat)} (h : Recased none es fs) (line : Nat) :
    Recased mode.mark? ((mode.read delimiter c).2.map (·, line) ++ es)
      ((mode.read delimiter d).2.map (·, line) ++ fs) := by
  rw [read_letter hmark hc hcd, read_letter hmark hd hdd, hmark]
  cases hcode : mode.isCode with
  | false => exact h
  | true =>
    have hheld : mode.leftover.foldl markAfterEvent none = none := by
      cases mode <;> rfl
    have hkept : Recased none ((.keep c, line) :: es) ((.keep d, line) :: fs) := by
      refine .keep (.inr ⟨rfl, hlower⟩) ?_
      rwa [markAfter, if_neg (by simp [Text.plain_of_isAlpha hc])]
    simp only [if_true, List.map_append, List.append_assoc]
    refine Recased.append_left ?_ line
    rw [hheld]
    exact hkept

end

/-- The scripts differ in the case of letters outside quotes only, when read from a mode. -/
inductive Twins (delimiter : Char) : Mode → List Char → List Char → Prop
  | nil (mode : Mode) : Twins delimiter mode [] []
  | cons {mode : Mode} {c d : Char} {s t : List Char} (first : SameChar mode.mark? c d)
      (rest : Twins delimiter (mode.read delimiter c).1 s t) : Twins delimiter mode (c :: s) (d :: t)

section
variable {delimiter : Char} {mode : Mode} {s t : List Char}

theorem twins_of_positions (hlength : s.length = t.length)
    (h : ∀ i c d, s[i]? = some c → t[i]? = some d →
      SameChar (mode.after delimiter (s.take i)).mark? c d) :
    Twins delimiter mode s t := by
  induction s generalizing mode t with
  | nil =>
    obtain rfl : t = [] := List.length_eq_zero_iff.mp hlength.symm
    exact .nil mode
  | cons c s ih =>
    cases t with
    | nil => contradiction
    | cons d t =>
      refine .cons (h 0 c d rfl rfl) (ih (by simpa using hlength) ?_)
      intro i c' d' hc' hd'
      exact h (i + 1) c' d' hc' hd'

theorem Twins.foldl_lineAfter_eq (h : Twins delimiter mode s t) (line : Nat) :
    s.foldl lineAfter line = t.foldl lineAfter line := by
  induction h generalizing line with
  | nil => rfl
  | cons first _ ih => rw [List.foldl_cons, List.foldl_cons, first.lineAfter_eq, ih]

/-- Scripts up to case are read in step. -/
theorem Twins.recased_trace (h : Twins delimiter mode s t) (hdelimiter : delimiter.isAlpha = false)
    (line : Nat) :
    Recased mode.mark? (mode.trace delimiter line s) (mode.trace delimiter line t) := by
  induction h generalizing line with
  | nil mode =>
    have hleft : Recased mode.mark? (mode.leftover.map (·, line) ++ [])
        (mode.leftover.map (·, line) ++ []) :=
      Recased.append_left (.nil _) line
    simpa [Mode.trace] using hleft
  | @cons mode c d s t first rest ih =>
    have hrest := ih (lineAfter line c)
    rw [Mode.trace, Mode.trace, ← first.lineAfter_eq]
    obtain rfl | ⟨hmark, hc, hd, hlower⟩ := first.cases
    · rw [← read_mark?] at hrest
      exact hrest.append_left line
    · have hcd : c ≠ delimiter := by rintro rfl; rw [hc] at hdelimiter; contradiction
      have hdd : d ≠ delimiter := by rintro rfl; rw [hd] at hdelimiter; contradiction
      have hmode : (mode.read delimiter d).1 = (mode.read delimiter c).1 := by
        rw [read_letter hmark hc hcd, read_letter hmark hd hdd]
      have hnone : (mode.read delimiter c).1.mark? = none := by
        rw [read_letter hmark hc hcd]
        cases mode <;> rfl
      rw [hnone] at hrest
      rw [hmode]
      exact recased_read_letter hmark hc hcd hd hdd hlower hrest line

end

/-! ## Statements up to case -/

/-- The drafts are on the same line and differ in the case of letters outside quotes only; the segment
    that they end in ends at the given mark. -/
structure Draft.Twin (mark : Option Char) (d e : Draft) : Prop where
  line : d.line = e.line
  text : Alike none d.text.reverse e.text.reverse
  mark : d.text.reverse.foldl markAfter none = mark

theorem twin_empty : Draft.Twin none .empty .empty := ⟨rfl, .nil none, rfl⟩

section
variable {mark : Option Char} {d e : Draft}

theorem Draft.Twin.keep (h : Draft.Twin mark d e) {c c' : Char} (hc : SameChar mark c c') (line : Nat) :
    Draft.Twin (markAfter mark c) (d.keep c line) (e.keep c' line) where
  line := by simp only [Draft.keep, h.line, hc.isBlank_eq]
  text := by
    rw [keep_text, keep_text]
    exact h.text.concat (h.mark ▸ hc)
  mark := by rw [keep_text, List.foldl_append, h.mark]; rfl

/-- Loading does not tell the statements of such drafts apart. -/
theorem Draft.Twin.load_eq (h : Draft.Twin mark d e) (source : String) (limit line : Nat) :
    (d.statement? source line).toList.map (loadOne limit) =
      (e.statement? source line).toList.map (loadOne limit) := by
  have htext := h.text.trim
  have hloaded : ∀ n, loadOne limit ⟨source, n, String.ofList (Text.trim d.text.reverse)⟩ =
      loadOne limit ⟨source, n, String.ofList (Text.trim e.text.reverse)⟩ := by
    intro n
    simp only [loadOne, Statement.byteLength, htext.utf8ByteSize_eq, normalize, String.toList_ofList,
      htext.normalChars_eq]
  by_cases hd : Text.trim d.text.reverse = []
  · rw [statement?_of_blank hd, statement?_of_blank (htext.eq_nil_iff.mp hd)]
  · rw [statement?_of_text hd, statement?_of_text (mt htext.eq_nil_iff.mpr hd), h.line]
    simp only [Option.toList_some, List.map_cons, List.map_nil, hloaded]

theorem assemble_recased {es fs : List (Event × Nat)} (h : Recased mark es fs)
    (hd : Draft.Twin mark d e) (source : String) (limit last : Nat) :
    (assemble source last d es).map (loadOne limit) =
      (assemble source last e fs).map (loadOne limit) := by
  induction h generalizing d e with
  | nil => exact hd.load_eq source limit last
  | keep first _ ih => exact ih (hd.keep first _)
  | cut _ ih =>
    rw [assemble, assemble, List.map_append, List.map_append, hd.load_eq, ih twin_empty]

end

/-- **Loading ignores the case of letters outside quotes.** If two scripts of one length differ only in
    the case of ASCII letters, and only where the reader of the first is outside quoted segments, then
    they are loaded alike: the same statements on the same lines, or the same failure. -/
theorem load_ignores_case {source script script' : String} {delimiter : Char} {limit : Nat}
    (hdelimiter : delimiter.isAlpha = false) (hlength : script.length = script'.length)
    (hcase : ∀ i c d, script.toList[i]? = some c → script'.toList[i]? = some d → c ≠ d →
      c.toLower = d.toLower ∧
        (readerAfter source delimiter (script.toList.take i)).mode.mark? = none) :
    load source delimiter limit script = load source delimiter limit script' := by
  have htwins : Twins delimiter .code script.toList script'.toList := by
    apply twins_of_positions
    · rw [String.length_toList, String.length_toList, hlength]
    · intro i c d hc hd
      by_cases hcd : c = d
      · exact .inl hcd
      · obtain ⟨hlower, hmark⟩ := hcase i c d hc hd hcd
        rw [readerAfter_mode] at hmark
        exact .inr ⟨hmark, hlower⟩
  have hloaded : (statements source delimiter script).map (loadOne limit) =
      (statements source delimiter script').map (loadOne limit) := by
    rw [statements_eq_assemble, statements_eq_assemble, ← htwins.foldl_lineAfter_eq]
    exact assemble_recased (htwins.recased_trace hdelimiter 1) twin_empty source limit _
  calc load source delimiter limit script
      = ((statements source delimiter script).map (loadOne limit)).mapM id := by
        rw [List.mapM_map]; rfl
    _ = ((statements source delimiter script').map (loadOne limit)).mapM id := by rw [hloaded]
    _ = load source delimiter limit script' := by rw [List.mapM_map]; rfl

/-- Keywords and comments may be written in any case, and quoted text is left as it is. -/
theorem load_ignores_case_keywords :
    load "a.sql" ';' 40 "SELECT 'Ab', /* It's */ t.X FROM T;-- Don't" =
      load "a.sql" ';' 40 "Select 'Ab', /* it'S */ T.x from t;-- dON't" := by
  have hcase : ∀ i < 43,
      let c := ("SELECT 'Ab', /* It's */ t.X FROM T;-- Don't".toList[i]?).getD ' '
      let d := ("Select 'Ab', /* it'S */ T.x from t;-- dON't".toList[i]?).getD ' '
      c ≠ d → c.toLower = d.toLower ∧ (readerAfter "a.sql" ';'
        ("SELECT 'Ab', /* It's */ t.X FROM T;-- Don't".toList.take i)).mode.mark? = none := by
    decide +kernel
  refine load_ignores_case (by decide) (by decide) fun i c d hc hd => ?_
  have hplace := hcase i (List.getElem?_eq_some_iff.mp hc).1
  rw [hc, hd] at hplace
  exact hplace

end SqlSmell.Script
