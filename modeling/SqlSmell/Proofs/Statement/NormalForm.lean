import SqlSmell.Proofs.Script.Segments

/- Normal forms. A text is normal if, its quoted segments set aside, it is in small letters, with single
   spaces in between and none at either end (`IsNormal`). The pass that normalises a text works on its parts
   one by one (`normalChars_eq`), and what it writes is read back as the parts that it has written
   (`parts_normalChars`): a second pass meets the same segments and the same spaces. So the pass leads
   to normal texts and leaves them alone (`normalize_projects`). -/
namespace SqlSmell.Script

open SqlSmell.Normal (Pass)
open Text (Span)

/-! ## Parts of normal forms -/

/-- The space between two parts. -/
def space : Lexeme := .plain ' '

/-- Is it a blank outside quotes? -/
def Lexeme.isBlank : Lexeme → Bool
  | .plain c => Text.isBlank c
  | _ => false

/-- The part in small letters, which can be two characters for one. A segment is kept as it is. -/
def Lexeme.small : Lexeme → List Lexeme
  | .plain c => (Text.lowerChar c).map .plain
  | l => [l]

/-- The parts of the normal form of a text. `written` says that something has been written before these
    parts, and `gap` that blanks have been passed since. -/
def normalParts : (written gap : Bool) → List Lexeme → List Lexeme
  | _, _, [] => []
  | written, gap, l :: ls =>
    if l.isBlank then normalParts written written ls
    else (bif gap then [space] else []) ++ (l.small ++ normalParts true false ls)

/-- Parts of a normal form: small letters, spaces for blanks, and no space at the start, at the end or
    directly before another one. -/
structure NormalForm (ls : List Lexeme) : Prop where
  small : ∀ c, .plain c ∈ ls → Text.lowerChar c = [c]
  blank : ∀ c, .plain c ∈ ls → Text.isBlank c = true → c = ' '
  first : ls.head? ≠ some space
  last : ls.getLast? ≠ some space
  single : ¬ [space, space] <:+: ls

/-- The text is in normal form: its characters outside quoted segments are small, the only blanks among
    them are spaces, and these stand one by one, neither first nor last. -/
def IsNormal (s : List Char) : Prop := NormalForm (parts s)

section
variable {written gap : Bool} {l : Lexeme} {ls : List Lexeme}

theorem normalParts_blank (h : l.isBlank = true) :
    normalParts written gap (l :: ls) = normalParts written written ls :=
  if_pos h

theorem normalParts_solid (h : l.isBlank = false) :
    normalParts written gap (l :: ls) =
      (bif gap then [space] else []) ++ (l.small ++ normalParts true false ls) :=
  if_neg (by simp [h])

theorem small_ne_nil (l : Lexeme) : l.small ≠ [] := by
  cases l with
  | plain c => simpa [Lexeme.small] using Text.lowerChar_ne_nil c
  | _ => simp [Lexeme.small]

theorem plain_of_isBlank (h : l.isBlank = true) : ∃ c, l = .plain c ∧ Text.isBlank c = true := by
  cases l with
  | plain c => exact ⟨c, rfl, h⟩
  | _ => cases h

/-- A part that is not blank has no blank in its small form. -/
theorem isBlank_of_mem_small (h : l.isBlank = false) {l' : Lexeme} (hl' : l' ∈ l.small) :
    l'.isBlank = false := by
  cases l with
  | plain c =>
    obtain ⟨x, hx, rfl⟩ := List.mem_map.mp hl'
    exact Text.isBlank_of_mem_lowerChar h hx
  | _ =>
    rw [List.mem_singleton.mp hl']
    rfl

theorem space_notMem_small (h : l.isBlank = false) : space ∉ l.small := by
  intro hspace
  have hblank : space.isBlank = false := isBlank_of_mem_small h hspace
  cases hblank

end

/-! ## The pass, part by part -/

theorem spaced_reverse (p : Pass) :
    (spaced p).reverse = p.out.reverse ++ (bif p.gap then [space] else []).flatMap Lexeme.kept := by
  cases hgap : p.gap <;> simp [spaced, hgap, space, Lexeme.kept]

/-- What the pass adds to what it has written. -/
theorem foldl_read_out (s : List Char) (p : Pass) (hquote : p.quote = none) :
    (s.foldl Pass.read p).out.reverse =
      p.out.reverse ++ (normalParts (!p.out.isEmpty) p.gap (parts s)).flatMap Lexeme.kept := by
  fun_induction parts s generalizing p with
  | case1 => simp [normalParts]
  | case2 mark s hmark ih =>
    have htext := Span.upTo_text [mark] s
    have hbody := Span.mark_notMem_body mark s
    rw [normalParts_solid rfl]
    cases hclosed : (Span.upTo [mark] s).closed with
    | true =>
      rw [hclosed, cond_true] at htext
      have hs : mark :: s =
          (mark :: ((Span.upTo [mark] s).body ++ [mark])) ++ (Span.upTo [mark] s).rest := by
        rw [List.cons_append, htext]
      rw [hs, List.foldl_append, foldl_read_closed hquote hmark hbody, ih _ rfl, List.reverse_append,
        spaced_reverse]
      simp [Lexeme.small, Lexeme.kept]
    | false =>
      -- nothing is left behind a segment that is not closed
      have hrest := Span.upTo_rest_of_open hclosed
      rw [hclosed, hrest, cond_false, List.append_nil, List.append_nil] at htext
      have hread := foldl_read_open hquote hmark hbody
      rw [htext] at hread
      rw [hread, List.reverse_append, spaced_reverse, hrest, htext]
      simp [Lexeme.small, Lexeme.kept, parts, normalParts]
  | case3 c s hc ih =>
    rw [List.foldl_cons]
    cases hblank : Text.isBlank c with
    | true =>
      have hread : p.read c = { p with gap := !p.out.isEmpty } := by simp [Pass.read, hquote, hblank]
      rw [normalParts_blank (l := .plain c) hblank, hread]
      exact ih _ hquote
    | false =>
      have hread : p.read c = ⟨none, false, (Text.lowerChar c).reverse ++ spaced p⟩ := by
        simp [Pass.read, hquote, hblank, hc, spaced]
      have hkept : ((Text.lowerChar c).map Lexeme.plain).flatMap Lexeme.kept = Text.lowerChar c := by
        rw [List.flatMap_map]
        exact List.flatMap_singleton' _
      have hwritten : ((Text.lowerChar c).reverse ++ spaced p).isEmpty = false :=
        List.isEmpty_eq_false_iff.mpr (by simp [Text.lowerChar_ne_nil])
      rw [normalParts_solid (l := .plain c) hblank, hread, ih _ rfl, hwritten, List.reverse_append,
        spaced_reverse]
      simp [Lexeme.small, hkept]

/-- The normal form of a text is made of the normal forms of its parts. -/
theorem normalChars_eq (s : List Char) :
    normalChars s = (normalParts false false (parts s)).flatMap Lexeme.kept :=
  foldl_read_out s .start rfl

/-! ## Reading a normal form back -/

/-- Parts that a text can have: characters that are no quotation marks, and segments, of which only one at
    the end can lack its end. -/
inductive Legible : List Lexeme → Prop
  | nil : Legible []
  | cons {l : Lexeme} {ls : List Lexeme} : l.Scans → Legible ls → Legible (l :: ls)
  | unclosed {mark : Char} {body : List Char} :
      isQuote mark = true → mark ∉ body → Legible [.quoted mark body false]

theorem legible_parts (s : List Char) : Legible (parts s) := by
  fun_induction parts s with
  | case1 => exact .nil
  | case2 mark s hmark ih =>
    have hbody := Span.mark_notMem_body mark s
    cases hclosed : (Span.upTo [mark] s).closed with
    | true => exact .cons ⟨hmark, hbody, rfl⟩ ih
    | false =>
      rw [Span.upTo_rest_of_open hclosed, parts]
      exact .unclosed hmark hbody
  | case3 c s hc ih => exact .cons (by simpa [Lexeme.Scans] using hc) ih

theorem Legible.parts_eq {ls : List Lexeme} (h : Legible ls) : parts (ls.flatMap Lexeme.kept) = ls := by
  induction h with
  | nil => rw [List.flatMap_nil, parts]
  | @cons l ls hl _ ih =>
    have hread := parts_kept_append (List.forall_mem_singleton.mpr hl) (ls.flatMap Lexeme.kept)
    rw [ih] at hread
    simpa using hread
  | unclosed hmark hbody => simpa [Lexeme.kept] using parts_open hmark hbody

theorem Legible.append {ls more : List Lexeme} (hls : ∀ l ∈ ls, l.Scans) (h : Legible more) :
    Legible (ls ++ more) := by
  induction ls with
  | nil => exact h
  | cons l ls ih =>
    exact .cons (hls l List.mem_cons_self) (ih fun l' hl' => hls l' (List.mem_cons_of_mem l hl'))

theorem scans_of_mem_small {l : Lexeme} (h : l.Scans) {l' : Lexeme} (hl' : l' ∈ l.small) : l'.Scans := by
  cases l with
  | plain c =>
    obtain ⟨x, hx, rfl⟩ := List.mem_map.mp hl'
    have hquote := (Text.isSmall_of_mem_lowerChar hx).2
    rw [show isQuote c = false from h] at hquote
    simpa [Lexeme.Scans] using hquote
  | _ =>
    rw [List.mem_singleton.mp hl']
    exact h

theorem Legible.normalParts {ls : List Lexeme} (h : Legible ls) (written gap : Bool) :
    Legible (normalParts written gap ls) := by
  have hspace : ∀ gap : Bool, ∀ l ∈ (bif gap then [space] else []), l.Scans := by
    intro gap l hl
    cases gap with
    | true =>
      rw [List.mem_singleton.mp hl]
      show isQuote ' ' = false
      decide
    | false => cases hl
  induction h generalizing written gap with
  | nil => exact .nil
  | @cons l ls hl _ ih =>
    cases hblank : l.isBlank with
    | true =>
      rw [normalParts_blank hblank]
      exact ih written written
    | false =>
      rw [normalParts_solid hblank]
      exact .append (hspace gap) (.append (fun l' hl' => scans_of_mem_small hl hl') (ih true false))
  | unclosed hmark hbody =>
    rw [normalParts_solid rfl]
    exact .append (hspace gap) (.unclosed hmark hbody)

/-- The parts of a normal form are those that the pass has written. -/
theorem parts_normalChars (s : List Char) :
    parts (normalChars s) = normalParts false false (parts s) := by
  rw [normalChars_eq]
  exact ((legible_parts s).normalParts false false).parts_eq

/-! ## Normal parts -/

section
variable {written gap : Bool} {ls : List Lexeme}

theorem plain_of_mem_normalParts {c : Char} (h : .plain c ∈ normalParts written gap ls) :
    Text.lowerChar c = [c] ∧ (Text.isBlank c = true → c = ' ') := by
  fun_induction normalParts written gap ls with
  | case1 => cases h
  | case2 written gap l ls hblank ih => exact ih h
  | case3 written gap l ls hblank ih =>
    rcases List.mem_append.mp h with h | h
    · cases gap with
      | true =>
        obtain rfl := Lexeme.plain.inj (List.mem_singleton.mp h)
        exact ⟨by decide, fun _ => rfl⟩
      | false => cases h
    · rcases List.mem_append.mp h with h | h
      · have hsolid : Text.isBlank c = false := isBlank_of_mem_small (by simpa using hblank) h
        refine ⟨?_, by simp [hsolid]⟩
        cases l with
        | plain d =>
          obtain ⟨x, hx, hxc⟩ := List.mem_map.mp h
          obtain rfl := Lexeme.plain.inj hxc
          exact (Text.isSmall_of_mem_lowerChar hx).1
        | _ => cases List.mem_singleton.mp h
      · exact ih h

theorem head?_solid {l : Lexeme} (h : l.isBlank = false) (ls : List Lexeme) :
    (l.small ++ ls).head? ≠ some space := by
  obtain ⟨l', rest, hsmall⟩ := List.exists_cons_of_ne_nil (small_ne_nil l)
  intro hhead
  rw [hsmall] at hhead
  apply space_notMem_small h
  rw [hsmall, ← Option.some.inj hhead]
  exact List.mem_cons_self

theorem head?_normalParts (ls : List Lexeme) : (normalParts false false ls).head? ≠ some space := by
  induction ls with
  | nil => simp [normalParts]
  | cons l ls ih =>
    cases hblank : l.isBlank with
    | true =>
      rw [normalParts_blank hblank]
      exact ih
    | false =>
      rw [normalParts_solid hblank]
      exact head?_solid hblank _

/-- Behind a space there is something that is no space. -/
theorem behind_space {us vs : List Lexeme} (h : normalParts written gap ls = us ++ space :: vs) :
    ∃ l rest, vs = l :: rest ∧ l ≠ space := by
  induction ls generalizing written gap us with
  | nil => simp [normalParts] at h
  | cons l ls ih =>
    cases hblank : l.isBlank with
    | true =>
      rw [normalParts_blank hblank] at h
      exact ih h
    | false =>
      rw [normalParts_solid hblank] at h
      -- a space behind the small form of the part was written later
      have hlater : ∀ us, l.small ++ normalParts true false ls = us ++ space :: vs →
          ∃ l rest, vs = l :: rest ∧ l ≠ space := by
        intro us h
        rcases List.append_eq_append_iff.mp h with ⟨more, -, hmore⟩ | ⟨more, hmore, hrest⟩
        · exact ih hmore
        · cases more with
          | nil =>
            have hfirst : normalParts true false ls = [] ++ space :: vs := hrest.symm
            exact ih hfirst
          | cons l' more =>
            have hspace : space ∈ l.small := by
              obtain ⟨rfl, -⟩ := List.cons.inj hrest
              rw [hmore]
              simp
            exact absurd hspace (space_notMem_small hblank)
      cases gap with
      | false => exact hlater us h
      | true =>
        cases us with
        | nil =>
          obtain ⟨l', rest, hsmall⟩ := List.exists_cons_of_ne_nil (small_ne_nil l)
          obtain rfl := (List.cons.inj h).2
          refine ⟨l', rest ++ normalParts true false ls, by rw [hsmall]; rfl, ?_⟩
          intro hspace
          exact head?_solid hblank (normalParts true false ls) (by rw [hsmall, hspace]; rfl)
        | cons l' us => exact hlater us (List.cons.inj h).2

theorem normalForm_normalParts (ls : List Lexeme) : NormalForm (normalParts false false ls) where
  small _ h := (plain_of_mem_normalParts h).1
  blank _ h := (plain_of_mem_normalParts h).2
  first := head?_normalParts ls
  last := by
    intro hlast
    obtain ⟨us, hus⟩ := List.getLast?_eq_some_iff.mp hlast
    obtain ⟨l, rest, hvs, -⟩ := behind_space hus
    cases hvs
  single := by
    intro hdouble
    obtain ⟨us, vs, hus⟩ := hdouble
    rw [List.append_assoc] at hus
    obtain ⟨l, rest, hvs, hne⟩ := behind_space hus.symm
    exact hne (List.cons.inj hvs).1.symm

/-- The parts of a normal form are left as they are, one after the other: each space finds something written
    before it and something to be written behind it. -/
theorem normalParts_of_normal (hsmall : ∀ c, .plain c ∈ ls → Text.lowerChar c = [c])
    (hblank : ∀ c, .plain c ∈ ls → Text.isBlank c = true → c = ' ')
    (hlast : ls.getLast? ≠ some space) (hsingle : ¬ [space, space] <:+: ls)
    (hfirst : ls.head? = some space → written = true) : normalParts written false ls = ls := by
  induction ls generalizing written with
  | nil => rfl
  | cons l ls ih =>
    have hkept : l.small = [l] := by
      cases l with
      | plain c => simp [Lexeme.small, hsmall c List.mem_cons_self]
      | _ => rfl
    have hrest : normalParts true false ls = ls := by
      apply ih
      · exact fun c hc => hsmall c (List.mem_cons_of_mem l hc)
      · exact fun c hc => hblank c (List.mem_cons_of_mem l hc)
      · intro hls
        apply hlast
        rw [List.getLast?_cons, hls]
        rfl
      · exact fun h => hsingle (h.trans (List.suffix_cons l ls).isInfix)
      · exact fun _ => rfl
    cases hl : l.isBlank with
    | false =>
      rw [normalParts_solid hl, hkept, hrest]
      rfl
    | true =>
      obtain ⟨c, rfl, hc⟩ := plain_of_isBlank hl
      obtain rfl := hblank c List.mem_cons_self hc
      obtain rfl := hfirst rfl
      cases ls with
      | nil => exact absurd rfl hlast
      | cons l ls =>
        have hl : l.isBlank = false := by
          cases hl : l.isBlank with
          | false => rfl
          | true =>
            obtain ⟨d, rfl, hd⟩ := plain_of_isBlank hl
            obtain rfl := hblank d (by simp) hd
            exact absurd (List.prefix_append [space, space] ls).isInfix hsingle
        rw [normalParts_solid hl] at hrest
        rw [normalParts_blank (by decide), normalParts_solid hl]
        exact congrArg (space :: ·) hrest

theorem NormalForm.normalParts_eq (h : NormalForm ls) : normalParts false false ls = ls :=
  normalParts_of_normal h.small h.blank h.last h.single fun hfirst => absurd hfirst h.first

end

/-! ## Texts -/

theorem isNormal_normalChars (s : List Char) : IsNormal (normalChars s) := by
  rw [IsNormal, parts_normalChars]
  exact normalForm_normalParts (parts s)

theorem IsNormal.normalChars_eq_self {s : List Char} (h : IsNormal s) : normalChars s = s := by
  rw [normalChars_eq, h.normalParts_eq, parts_kept]

/-- **Normalising is a projection onto the normal texts.** What it gives is normal, it leaves alone the
    texts that are normal and no others, and so a second pass changes nothing. -/
theorem normalize_projects (s : String) :
    IsNormal (normalize s).toList ∧ (IsNormal s.toList ↔ normalize s = s) ∧
      normalize (normalize s) = normalize s := by
  have hnormal : ∀ t : String, IsNormal (normalize t).toList := by
    intro t
    rw [normalize, String.toList_ofList]
    exact isNormal_normalChars t.toList
  have hfixed : ∀ t : String, IsNormal t.toList → normalize t = t := by
    intro t ht
    rw [normalize, ht.normalChars_eq_self, String.ofList_toList]
  refine ⟨hnormal s, ⟨hfixed s, ?_⟩, hfixed _ (hnormal s)⟩
  intro hs
  rw [← hs]
  exact hnormal s

end SqlSmell.Script
