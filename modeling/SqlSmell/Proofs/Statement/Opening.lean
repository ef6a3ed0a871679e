import SqlSmell.Proofs.Statement.NormalForm
import SqlSmell.Statement

/- The words that open a table definition, before and after normalising. A statement is taken for a table
   definition if its normal form holds the two words with one space between them; in the text as it was written
   these are the words in any case, with any blanks between them, outside quotes, or the exact words inside
   one quoted segment (`isCreation_normalize_iff`). A phrase in the normal form comes from one segment or from
   parts one behind the other (`infix_kept_iff`), each of its letters from one ASCII letter
   (`prefix_letter_iff`), and its space from a run of blanks (`prefix_space_iff`): nothing is brought together
   that was apart, and no character beyond ASCII can stand in for a letter. -/
namespace SqlSmell.Script

/-! ## Letters -/

/-- A letter that is the small form of ASCII letters only. -/
def OwnLetter (x : Char) : Prop := x.isAlpha = true ∧ x ≠ 'i' ∧ x ≠ 'k'

instance (x : Char) : Decidable (OwnLetter x) :=
  inferInstanceAs (Decidable (x.isAlpha = true ∧ x ≠ 'i' ∧ x ≠ 'k'))

section
variable {c x : Char} (h : OwnLetter x)
include h

theorem OwnLetter.toLower_eq (hx : x ∈ Text.lowerChar c) : c.toLower = x := by
  have hascii := Text.toNat_lt_of_mem_lowerChar hx (Text.toNat_lt_of_isAlpha h.1) h.2.1 h.2.2
  rw [Text.lowerChar, if_pos hascii] at hx
  exact (List.mem_singleton.mp hx).symm

theorem OwnLetter.lowerChar_eq (hc : c.toLower = x) : Text.lowerChar c = [x] := by
  have hascii : c.toNat < 128 := by
    cases halpha : c.isAlpha with
    | true => exact Text.toNat_lt_of_isAlpha halpha
    | false =>
      rw [Text.toLower_of_not_isAlpha halpha] at hc
      rw [hc]
      exact Text.toNat_lt_of_isAlpha h.1
  rw [Text.lowerChar, if_pos hascii, hc]

theorem OwnLetter.small_eq {l : Lexeme} (hl : .plain x ∈ l.small) : l.small = [.plain x] := by
  cases l with
  | plain c =>
    obtain ⟨y, hy, hyx⟩ := List.mem_map.mp hl
    obtain rfl := Lexeme.plain.inj hyx
    rw [Lexeme.small, h.lowerChar_eq (h.toLower_eq hy)]
    rfl
  | _ => cases List.mem_singleton.mp hl

theorem OwnLetter.isBlank_eq (hc : c.toLower = x) : Text.isBlank c = false := by
  rw [← Text.isBlank_toLower, hc]
  exact (Text.plain_of_isAlpha h.1).1

theorem OwnLetter.ne_space : Lexeme.plain x ≠ space := by
  intro hspace
  obtain rfl := Lexeme.plain.inj hspace
  exact absurd h.1 (by decide)

end

/-! ## Words in a normal form -/

/-- Behind a gap a normal form goes on with a space. -/
theorem head_gap {l : Lexeme} {ls rest : List Lexeme} (h : normalParts true true ls = l :: rest) :
    l = space := by
  induction ls with
  | nil => cases h
  | cons l' ls ih =>
    cases hblank : l'.isBlank with
    | true =>
      rw [normalParts_blank hblank] at h
      exact ih h
    | false =>
      rw [normalParts_solid hblank] at h
      exact (List.cons.inj h).1.symm

/-- A letter of the normal form comes from one character. -/
theorem prefix_letter_iff {x : Char} (hx : OwnLetter x) (more ls : List Lexeme) :
    .plain x :: more <+: normalParts true false ls ↔
      ∃ c rest, ls = .plain c :: rest ∧ c.toLower = x ∧ more <+: normalParts true false rest := by
  refine ⟨?_, ?_⟩
  · intro h
    cases ls with
    | nil => simp [normalParts] at h
    | cons l ls =>
      cases hblank : l.isBlank with
      | true =>
        rw [normalParts_blank hblank] at h
        obtain ⟨t, ht⟩ := h
        exact absurd (head_gap ht.symm) hx.ne_space
      | false =>
        rw [normalParts_solid hblank] at h
        cases l with
        | plain c =>
          obtain ⟨y, ys, hlower⟩ := List.exists_cons_of_ne_nil (Text.lowerChar_ne_nil c)
          have hhead : .plain x :: more <+: (Text.lowerChar c).map .plain ++ normalParts true false ls := h
          have hmem : x ∈ Text.lowerChar c := by
            rw [hlower] at hhead ⊢
            obtain rfl := Lexeme.plain.inj (List.cons_prefix_cons.mp hhead).1
            exact List.mem_cons_self
          have hc := hx.toLower_eq hmem
          rw [hx.lowerChar_eq hc] at hhead
          exact ⟨c, ls, rfl, hc, (List.cons_prefix_cons.mp hhead).2⟩
        | _ => cases (List.cons_prefix_cons.mp h).1
  · intro h
    obtain ⟨c, rest, rfl, hc, hmore⟩ := h
    rw [normalParts_solid (l := .plain c) (hx.isBlank_eq hc), Lexeme.small, hx.lowerChar_eq hc]
    exact List.cons_prefix_cons.mpr ⟨rfl, hmore⟩

/-- A word of the normal form comes from the word in some case. -/
theorem prefix_word_iff {w : List Char} (hw : ∀ x ∈ w, OwnLetter x) (more ls : List Lexeme) :
    w.map .plain ++ more <+: normalParts true false ls ↔
      ∃ (a : List Char) (rest : List Lexeme), ls = a.map .plain ++ rest ∧ a.map Char.toLower = w ∧
        more <+: normalParts true false rest := by
  induction w generalizing ls with
  | nil =>
    refine ⟨?_, ?_⟩
    · intro h
      exact ⟨[], ls, rfl, rfl, h⟩
    · intro h
      obtain ⟨a, rest, rfl, ha, hmore⟩ := h
      obtain rfl := List.map_eq_nil_iff.mp ha
      exact hmore
  | cons x w ih =>
    have hrest := ih fun y hy => hw y (List.mem_cons_of_mem x hy)
    rw [List.map_cons, List.cons_append, prefix_letter_iff (hw x List.mem_cons_self)]
    refine ⟨?_, ?_⟩
    · intro h
      obtain ⟨c, behind, rfl, hc, hmore⟩ := h
      obtain ⟨a, rest, rfl, ha, hmore⟩ := (hrest behind).mp hmore
      exact ⟨c :: a, rest, rfl, by rw [List.map_cons, hc, ha], hmore⟩
    · intro h
      obtain ⟨a, rest, rfl, ha, hmore⟩ := h
      obtain ⟨c, a, rfl, hc, ha⟩ := List.map_eq_cons_iff.mp ha
      exact ⟨c, a.map .plain ++ rest, rfl, hc, (hrest _).mpr ⟨a, rest, rfl, ha, hmore⟩⟩

section
variable {l : Lexeme} (hl : l ≠ space)
include hl

/-- In a gap, the blanks up to the next part leave one space. -/
theorem prefix_gap_iff (more ls : List Lexeme) :
    space :: l :: more <+: normalParts true true ls ↔
      ∃ (w : List Char) (rest : List Lexeme), ls = w.map .plain ++ rest ∧ (∀ c ∈ w, Text.isBlank c = true) ∧
        l :: more <+: normalParts true false rest := by
  induction ls with
  | nil =>
    refine ⟨by simp [normalParts], ?_⟩
    intro h
    obtain ⟨w, rest, hls, -, hmore⟩ := h
    obtain ⟨-, rfl⟩ := List.append_eq_nil_iff.mp hls.symm
    simp [normalParts] at hmore
  | cons l' ls ih =>
    cases hblank : l'.isBlank with
    | true =>
      obtain ⟨d, rfl, hd⟩ := plain_of_isBlank hblank
      rw [normalParts_blank hblank, ih]
      refine ⟨?_, ?_⟩
      · intro h
        obtain ⟨w, rest, rfl, hw, hmore⟩ := h
        exact ⟨d :: w, rest, rfl, List.forall_mem_cons.mpr ⟨hd, hw⟩, hmore⟩
      · intro h
        obtain ⟨w, rest, hls, hw, hmore⟩ := h
        cases w with
        | nil =>
          -- the blank would have to go before the part as a space
          obtain rfl : .plain d :: ls = rest := hls
          rw [normalParts_blank hblank] at hmore
          obtain ⟨t, ht⟩ := hmore
          exact absurd (head_gap ht.symm) hl
        | cons c w =>
          obtain ⟨-, rfl⟩ := List.cons.inj hls
          exact ⟨w, rest, rfl, fun c' hc' => hw c' (List.mem_cons_of_mem c hc'), hmore⟩
    | false =>
      have hgap : normalParts true true (l' :: ls) = space :: normalParts true false (l' :: ls) := by
        rw [normalParts_solid hblank, normalParts_solid hblank]
        rfl
      rw [hgap, List.cons_prefix_cons]
      refine ⟨?_, ?_⟩
      · intro h
        exact ⟨[], l' :: ls, rfl, by simp, h.2⟩
      · intro h
        obtain ⟨w, rest, hls, hw, hmore⟩ := h
        cases w with
        | nil =>
          obtain rfl : l' :: ls = rest := hls
          exact ⟨rfl, hmore⟩
        | cons c w =>
          obtain ⟨rfl, -⟩ := List.cons.inj hls
          rw [Lexeme.isBlank, hw c List.mem_cons_self] at hblank
          cases hblank

/-- A space of the normal form comes from one blank or more. -/
theorem prefix_space_iff (more ls : List Lexeme) :
    space :: l :: more <+: normalParts true false ls ↔
      ∃ (w : List Char) (rest : List Lexeme), ls = w.map .plain ++ rest ∧
        (w ≠ [] ∧ ∀ c ∈ w, Text.isBlank c = true) ∧ l :: more <+: normalParts true false rest := by
  refine ⟨?_, ?_⟩
  · intro h
    cases ls with
    | nil => simp [normalParts] at h
    | cons l' ls =>
      cases hblank : l'.isBlank with
      | true =>
        obtain ⟨d, rfl, hd⟩ := plain_of_isBlank hblank
        rw [normalParts_blank hblank] at h
        obtain ⟨w, rest, rfl, hw, hmore⟩ := (prefix_gap_iff hl more ls).mp h
        exact ⟨d :: w, rest, rfl, ⟨by simp, List.forall_mem_cons.mpr ⟨hd, hw⟩⟩, hmore⟩
      | false =>
        rw [normalParts_solid hblank] at h
        obtain ⟨t, ht⟩ := h
        have hhead : (l'.small ++ normalParts true false ls).head? = some space :=
          (congrArg List.head? ht).symm
        exact absurd hhead (head?_solid hblank _)
  · intro h
    obtain ⟨w, rest, rfl, ⟨hne, hw⟩, hmore⟩ := h
    obtain ⟨d, w, rfl⟩ := List.exists_cons_of_ne_nil hne
    have hd : (Lexeme.plain d).isBlank = true := hw d List.mem_cons_self
    rw [List.map_cons, List.cons_append, normalParts_blank hd]
    exact (prefix_gap_iff hl more _).mpr ⟨w, rest, rfl, fun c hc => hw c (List.mem_cons_of_mem d hc), hmore⟩

end

/-! ## Two words with a space between them -/

/-- The two words, each letter in any case, with one blank or more between them. -/
def SpellsApart (first second t : List Char) : Prop :=
  ∃ a w b, t = a ++ w ++ b ∧ a.map Char.toLower = first ∧
    (w ≠ [] ∧ ∀ c ∈ w, Text.isBlank c = true) ∧ b.map Char.toLower = second

/-- What starts with a part that does not occur in `us` starts behind `us`. -/
theorem infix_append_of_notMem {l : Lexeme} {more us vs : List Lexeme} (h : l ∉ us) :
    l :: more <:+: us ++ vs ↔ l :: more <:+: vs := by
  induction us with
  | nil => exact Iff.rfl
  | cons u us ih =>
    rw [List.mem_cons, not_or] at h
    rw [List.cons_append, List.infix_cons_iff, ih h.2, List.cons_prefix_cons]
    simp [h.1]

section
variable {x : Char} {first second : List Char} (hfirst : ∀ y ∈ x :: first, OwnLetter y)
  (hsecond : ∀ y ∈ second, OwnLetter y) (hne : second ≠ [])
include hfirst hsecond hne

theorem prefix_phrase_iff (ls : List Lexeme) :
    (x :: first ++ ' ' :: second).map .plain <+: normalParts true false ls ↔
      ∃ t, SpellsApart (x :: first) second t ∧ t.map .plain <+: ls := by
  obtain ⟨y, ys, rfl⟩ := List.exists_cons_of_ne_nil hne
  have hy : Lexeme.plain y ≠ space := (hsecond y List.mem_cons_self).ne_space
  have hphrase : (x :: first ++ ' ' :: y :: ys).map Lexeme.plain =
      (x :: first).map .plain ++ space :: .plain y :: ys.map .plain := by simp [space]
  have hword : .plain y :: ys.map Lexeme.plain = (y :: ys).map .plain ++ [] := by simp
  rw [hphrase, prefix_word_iff hfirst]
  refine ⟨?_, ?_⟩
  · intro h
    obtain ⟨a, rest, rfl, ha, h⟩ := h
    obtain ⟨w, rest, rfl, hw, h⟩ := (prefix_space_iff hy _ rest).mp h
    rw [hword, prefix_word_iff hsecond] at h
    obtain ⟨b, rest, rfl, hb, -⟩ := h
    exact ⟨a ++ w ++ b, ⟨a, w, b, rfl, ha, hw, hb⟩, rest, by simp⟩
  · intro h
    obtain ⟨_, ⟨a, w, b, rfl, ha, hw, hb⟩, rest, rfl⟩ := h
    refine ⟨a, w.map .plain ++ (b.map .plain ++ rest), by simp, ha, ?_⟩
    refine (prefix_space_iff hy _ _).mpr ⟨w, b.map .plain ++ rest, rfl, hw, ?_⟩
    rw [hword, prefix_word_iff hsecond]
    exact ⟨b, rest, rfl, hb, List.nil_prefix⟩

/-- A phrase of the normal form comes from the two words in some case and a run of blanks. -/
theorem infix_phrase_iff (written gap : Bool) (ls : List Lexeme) :
    (x :: first ++ ' ' :: second).map Lexeme.plain <:+: normalParts written gap ls ↔
      ∃ t : List Char, SpellsApart (x :: first) second t ∧ t.map Lexeme.plain <:+: ls := by
  induction ls generalizing written gap with
  | nil =>
    refine ⟨by simp [normalParts], ?_⟩
    intro h
    obtain ⟨t, ⟨a, w, b, rfl, -, ⟨hw, -⟩, -⟩, ht⟩ := h
    simp [hw] at ht
  | cons l ls ih =>
    have hx : OwnLetter x := hfirst x List.mem_cons_self
    -- on either side the phrase stands at the start, or further on
    have hcases : (∃ t, SpellsApart (x :: first) second t ∧ t.map .plain <:+: l :: ls) ↔
        (x :: first ++ ' ' :: second).map .plain <+: normalParts true false (l :: ls) ∨
          ∃ t, SpellsApart (x :: first) second t ∧ t.map .plain <:+: ls := by
      rw [prefix_phrase_iff hfirst hsecond hne]
      simp only [List.infix_cons_iff, and_or_left, exists_or]
    rw [hcases]
    cases hblank : l.isBlank with
    | true =>
      have hstart : ¬ (x :: first ++ ' ' :: second).map .plain <+: normalParts true false (l :: ls) := by
        intro h
        rw [normalParts_blank hblank] at h
        obtain ⟨t, ht⟩ := h
        exact hx.ne_space (head_gap ht.symm)
      rw [normalParts_blank hblank, ih, or_iff_right hstart]
    | false =>
      have hgap : Lexeme.plain x ∉ (bif gap then [space] else []) := by
        cases gap with
        | true => simpa using hx.ne_space
        | false => simp
      have hsolid : normalParts true false (l :: ls) = l.small ++ normalParts true false ls :=
        normalParts_solid hblank
      rw [normalParts_solid hblank, hsolid, ← ih true false]
      refine (infix_append_of_notMem hgap).trans ?_
      by_cases hmem : Lexeme.plain x ∈ l.small
      · rw [hx.small_eq hmem]
        exact List.infix_cons_iff
      · have hstart : ¬ (x :: first ++ ' ' :: second).map .plain <+: l.small ++ normalParts true false ls := by
          intro h
          obtain ⟨l', rest, hsmall⟩ := List.exists_cons_of_ne_nil (small_ne_nil l)
          rw [hsmall] at h hmem
          exact hmem (by rw [← (List.cons_prefix_cons.mp h).1]; exact List.mem_cons_self)
        rw [or_iff_right hstart]
        exact infix_append_of_notMem hmem

end

/-! ## From the text to its parts -/

section
variable {w : List Char} {ls : List Lexeme}

theorem prefix_append_mark_iff {mark : Char} (hmark : mark ∉ w) (u v : List Char) :
    w <+: u ++ mark :: v ↔ w <+: u := by
  induction w generalizing u with
  | nil => simp
  | cons c w ih =>
    rw [List.mem_cons, not_or] at hmark
    cases u with
    | nil => simp [Ne.symm hmark.1]
    | cons d u => rw [List.cons_append, List.cons_prefix_cons, List.cons_prefix_cons, ih hmark.2]

/-- What holds no mark stands on one side of it. -/
theorem infix_append_mark_iff (hne : w ≠ []) {mark : Char} (hmark : mark ∉ w) (u v : List Char) :
    w <:+: u ++ mark :: v ↔ w <:+: u ∨ w <:+: v := by
  induction u with
  | nil =>
    have hstart := prefix_append_mark_iff hmark [] v
    rw [List.nil_append] at hstart ⊢
    rw [List.infix_cons_iff, hstart]
    simp [hne]
  | cons c u ih =>
    rw [List.cons_append, List.infix_cons_iff, ih, List.infix_cons_iff, ← List.cons_append,
      prefix_append_mark_iff hmark, or_assoc]

theorem infix_quoted_cons_iff (hne : w ≠ []) (mark : Char) (body : List Char) (closed : Bool) :
    w.map .plain <:+: .quoted mark body closed :: ls ↔ w.map .plain <:+: ls := by
  obtain ⟨c, w, rfl⟩ := List.exists_cons_of_ne_nil hne
  have hc : .plain c ∉ [Lexeme.quoted mark body closed] := by simp
  exact infix_append_of_notMem hc

variable (hw : ∀ c ∈ w, isQuote c = false)
include hw

theorem mark_notMem {mark : Char} (hmark : isQuote mark = true) : mark ∉ w := by
  intro h
  rw [hw mark h] at hmark
  cases hmark

theorem prefix_kept_iff (h : Legible ls) : w <+: ls.flatMap Lexeme.kept ↔ w.map .plain <+: ls := by
  induction w generalizing ls with
  | nil => simp
  | cons c w ih =>
    have hrest : ∀ {ls}, Legible ls → (w <+: ls.flatMap Lexeme.kept ↔ w.map .plain <+: ls) :=
      fun hls => ih (fun d hd => hw d (List.mem_cons_of_mem c hd)) hls
    have hquote : ∀ mark, isQuote mark = true → c ≠ mark := by
      intro mark hmark hcm
      apply mark_notMem hw hmark
      rw [hcm]
      exact List.mem_cons_self
    cases h with
    | nil => simp
    | @cons l ls hl hls =>
      cases l with
      | plain d =>
        rw [List.flatMap_cons, List.map_cons, List.cons_prefix_cons, ← hrest hls, Lexeme.plain.injEq]
        exact List.cons_prefix_cons
      | quoted mark body closed => simp [Lexeme.kept, hquote mark hl.1]
      | _ => exact hl.elim
    | unclosed hmark hbody => simp [Lexeme.kept, hquote _ hmark]

theorem infix_mark_cons_iff (hne : w ≠ []) {mark : Char} (hmark : isQuote mark = true) (s : List Char) :
    w <:+: mark :: s ↔ w <:+: s := by
  have hsides := infix_append_mark_iff hne (mark_notMem hw hmark) [] s
  simpa [hne] using hsides

/-- A text without quotation marks stands outside quotes or inside one segment. -/
theorem infix_kept_iff (hne : w ≠ []) (h : Legible ls) :
    w <:+: ls.flatMap Lexeme.kept ↔
      w.map Lexeme.plain <:+: ls ∨ ∃ mark body closed, Lexeme.quoted mark body closed ∈ ls ∧ w <:+: body := by
  induction h with
  | nil => simp [hne]
  | @cons l ls hl hls ih =>
    cases l with
    | plain c =>
      have hstart := prefix_kept_iff hw (.cons hl hls)
      have htext : (Lexeme.plain c :: ls).flatMap Lexeme.kept = c :: ls.flatMap Lexeme.kept := rfl
      rw [htext] at hstart ⊢
      rw [List.infix_cons_iff, hstart, ih, List.infix_cons_iff, or_assoc]
      simp
    | quoted mark body closed =>
      obtain ⟨hmark, hbody, rfl⟩ := hl
      have htext : (Lexeme.quoted mark body true :: ls).flatMap Lexeme.kept =
          mark :: (body ++ mark :: ls.flatMap Lexeme.kept) := by simp [Lexeme.kept]
      rw [htext, infix_mark_cons_iff hw hne hmark, infix_append_mark_iff hne (mark_notMem hw hmark), ih,
        infix_quoted_cons_iff hne]
      refine ⟨?_, ?_⟩
      · intro h
        rcases h with h | h | ⟨m, b, k, hmem, h⟩
        · exact .inr ⟨mark, body, true, List.mem_cons_self, h⟩
        · exact .inl h
        · exact .inr ⟨m, b, k, List.mem_cons_of_mem _ hmem, h⟩
      · intro h
        rcases h with h | ⟨m, b, k, hmem, h⟩
        · exact .inr (.inl h)
        · rcases List.mem_cons.mp hmem with heq | hmem
          · obtain ⟨rfl, rfl, rfl⟩ := Lexeme.quoted.inj heq
            exact .inl h
          · exact .inr (.inr ⟨m, b, k, hmem, h⟩)
    | _ => exact hl.elim
  | @unclosed mark body hmark hbody =>
    have htext : [Lexeme.quoted mark body false].flatMap Lexeme.kept = mark :: body := by
      simp [Lexeme.kept]
    rw [htext, infix_mark_cons_iff hw hne hmark, infix_quoted_cons_iff hne]
    simp [hne]

end

/-! ## Table definitions -/

/-- Segments are kept as they are, and none is added. -/
theorem quoted_mem_normalParts {written gap : Bool} {mark : Char} {body : List Char} {closed : Bool}
    {ls : List Lexeme} :
    .quoted mark body closed ∈ normalParts written gap ls ↔ .quoted mark body closed ∈ ls := by
  induction ls generalizing written gap with
  | nil => simp [normalParts]
  | cons l ls ih =>
    have hsmall : .quoted mark body closed ∈ l.small ↔ .quoted mark body closed = l := by
      cases l <;> simp [Lexeme.small]
    cases hblank : l.isBlank with
    | true =>
      obtain ⟨c, rfl, -⟩ := plain_of_isBlank hblank
      rw [normalParts_blank hblank, ih]
      simp
    | false =>
      rw [normalParts_solid hblank, List.mem_append, List.mem_append, hsmall, ih, List.mem_cons]
      cases gap <;> simp [space]

/-- **What opens a table definition.** The normal form of a text is one exactly if the text holds the two
    words outside its quoted segments, in any case of ASCII letters and with one blank or more between
    them, or the words as they are, with one space, inside one quoted segment. -/
theorem isCreation_normalize_iff (s : String) :
    Creation.isCreation (normalize s) = true ↔
      (∃ t, SpellsApart "create".toList "table".toList t ∧ t.map .plain <:+: parts s.toList) ∨
        ∃ mark body closed, .quoted mark body closed ∈ parts s.toList ∧
          "create table".toList <:+: body := by
  have hlegible : Legible (normalParts false false (parts s.toList)) :=
    (legible_parts s.toList).normalParts false false
  have hplain : ("create table".toList.all fun c => !isQuote c) = true := by decide
  have hfirst : ("create".toList.all fun y => decide (OwnLetter y)) = true := by decide
  have hsecond : ("table".toList.all fun y => decide (OwnLetter y)) = true := by decide
  simp only [List.all_eq_true, Bool.not_eq_true', decide_eq_true_eq] at hplain hfirst hsecond
  rw [Creation.isCreation, Text.occurs_iff, normalize, String.toList_ofList, normalChars_eq]
  refine (infix_kept_iff hplain (by decide) hlegible).trans (or_congr ?_ ?_)
  · exact infix_phrase_iff hfirst hsecond (by decide) false false (parts s.toList)
  · simp only [quoted_mem_normalParts]

end SqlSmell.Script
