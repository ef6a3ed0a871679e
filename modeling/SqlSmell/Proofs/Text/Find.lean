import SqlSmell.Text.Basic

/- Plain search, said in terms of concatenation: a text starts with another one if it is that text
   followed by a rest, and holds it if it is an infix; the first place where it does is the one with nothing
   earlier (`after?_eq_some_iff`). `Span.upTo` cuts a text at the first place where a given one
   starts. -/
namespace SqlSmell.Text

theorem afterStart?_eq_some_iff {needle s rest : List Char} :
    afterStart? needle s = some rest ↔ s = needle ++ rest := by
  fun_induction afterStart? needle s with
  | case1 s => simp [eq_comm]
  | case2 => simp
  | case3 n needle c s heq ih => simp [ih, eq_of_beq heq]
  | case4 n needle c s hne =>
    have hne : c ≠ n := fun h => hne (by simp [h])
    simp [hne]

theorem afterStart?_append (needle rest : List Char) :
    afterStart? needle (needle ++ rest) = some rest :=
  afterStart?_eq_some_iff.mpr rfl

theorem afterStart?_eq_none_iff {needle s : List Char} :
    afterStart? needle s = none ↔ ¬ needle <+: s := by
  rw [Option.eq_none_iff_forall_ne_some]
  constructor
  · rintro h ⟨rest, rfl⟩
    exact h rest (afterStart?_append needle rest)
  · intro h rest hrest
    exact h ⟨rest, (afterStart?_eq_some_iff.mp hrest).symm⟩

theorem occurs_iff (needle s : List Char) : occurs needle s = true ↔ needle <:+: s := by
  unfold occurs
  fun_induction after? needle s with
  | case1 =>
    rw [Option.isSome_iff_exists]
    simp only [afterStart?_eq_some_iff, List.infix_nil]
    constructor
    · rintro ⟨rest, h⟩
      exact (List.append_eq_nil_iff.mp h.symm).1
    · rintro rfl
      exact ⟨[], rfl⟩
  | case2 c s rest h =>
    have hstart := afterStart?_eq_some_iff.mp h
    simp only [Option.isSome_some, true_iff]
    exact ⟨[], rest, by simp [hstart]⟩
  | case3 c s h ih =>
    rw [ih, List.infix_cons_iff]
    simp [afterStart?_eq_none_iff.mp h]

/-! ## First occurrences -/

/-- The text `front ++ needle ++ rest` holds the needle at no earlier place. -/
def IsFirst (needle front rest : List Char) : Prop :=
  ∀ front' rest', front ++ needle ++ rest = front' ++ needle ++ rest' → front.length ≤ front'.length

theorem after?_eq_some_iff {needle s rest : List Char} :
    after? needle s = some rest ↔ ∃ front, s = front ++ needle ++ rest ∧ IsFirst needle front rest := by
  fun_induction after? needle s with
  | case1 =>
    rw [afterStart?_eq_some_iff]
    refine ⟨fun h => ⟨[], h, fun _ _ _ => Nat.zero_le _⟩, ?_⟩
    intro h
    obtain ⟨front, hs, -⟩ := h
    obtain ⟨hfront, hrest⟩ := List.append_eq_nil_iff.mp hs.symm
    obtain ⟨-, hneedle⟩ := List.append_eq_nil_iff.mp hfront
    rw [hneedle, hrest]
    rfl
  | case2 c s found h =>
    have hstart := afterStart?_eq_some_iff.mp h
    refine ⟨?_, ?_⟩
    · intro hfound
      obtain rfl := Option.some.inj hfound
      exact ⟨[], hstart, fun _ _ _ => Nat.zero_le _⟩
    · intro hcut
      obtain ⟨front, hs, hfirst⟩ := hcut
      -- the needle stands at the very start, so nothing can come in front of the first one
      have hlength := hfirst [] found (hs.symm.trans hstart)
      obtain rfl := List.length_eq_zero_iff.mp (Nat.le_zero.mp hlength)
      exact congrArg some (List.append_cancel_left (hstart.symm.trans hs))
  | case3 c s h ih =>
    have hnot := afterStart?_eq_none_iff.mp h
    rw [ih]
    refine ⟨?_, ?_⟩
    · intro hcut
      obtain ⟨front, hs, hfirst⟩ := hcut
      refine ⟨c :: front, by simp [hs], ?_⟩
      intro front' rest' heq
      cases front' with
      | nil => exact absurd ⟨rest', by simpa [hs] using heq.symm⟩ hnot
      | cons c' front' => exact Nat.succ_le_succ (hfirst front' rest' (List.cons.inj heq).2)
    · intro hcut
      obtain ⟨front, hs, hfirst⟩ := hcut
      cases front with
      | nil => exact absurd ⟨rest, hs.symm⟩ hnot
      | cons c' front =>
        obtain ⟨rfl, htail⟩ := List.cons.inj hs
        refine ⟨front, htail, fun front' rest' heq => ?_⟩
        exact Nat.le_of_succ_le_succ (hfirst (c :: front') rest' (congrArg (c :: ·) heq))

/-- What stands behind the needle does not matter. -/
theorem IsFirst.with_rest {needle front rest : List Char} (h : IsFirst needle front rest) (other : List Char) :
    IsFirst needle front other := by
  intro front' rest' heq
  apply Nat.le_of_not_lt
  intro hlt
  -- the earlier needle would end before the first one does, so it would stand there whatever comes behind
  have hprefix : front' ++ needle <+: front ++ needle := by
    have hin : front' ++ needle <+: front ++ needle ++ other := ⟨rest', heq.symm⟩
    apply List.prefix_of_prefix_length_le hin (List.prefix_append _ _)
    rw [List.length_append, List.length_append]
    omega
  obtain ⟨between, hbetween⟩ := hprefix
  have hearlier := h front' (between ++ rest) (by rw [← hbetween, List.append_assoc])
  omega

/-! ## Spans -/

/-- A text cut at the first place where something starts. -/
structure Span where
  body : List Char
  /-- Was the end met, or did the text run out? -/
  closed : Bool
  /-- The text behind the end. -/
  rest : List Char

/-- The span with one more character in front. -/
def Span.cons (c : Char) (span : Span) : Span := { span with body := c :: span.body }

@[simp] theorem Span.cons_body (c : Char) (span : Span) : (span.cons c).body = c :: span.body := rfl

@[simp] theorem Span.cons_closed (c : Char) (span : Span) : (span.cons c).closed = span.closed := rfl

@[simp] theorem Span.cons_rest (c : Char) (span : Span) : (span.cons c).rest = span.rest := rfl

/-- The span up to the first occurrence of `stop`. -/
def Span.upTo (stop : List Char) : List Char → Span
  | [] => ⟨[], false, []⟩
  | c :: s =>
    match afterStart? stop (c :: s) with
    | some rest => ⟨[], true, rest⟩
    | none => (upTo stop s).cons c

theorem Span.upTo_of_start {stop s rest : List Char} {c : Char} (h : c :: s = stop ++ rest) :
    upTo stop (c :: s) = ⟨[], true, rest⟩ := by
  rw [upTo, h, afterStart?_append]

theorem Span.upTo_of_not_start {stop s : List Char} {c : Char} (h : ¬ stop <+: c :: s) :
    upTo stop (c :: s) = (upTo stop s).cons c := by
  rw [upTo, afterStart?_eq_none_iff.mpr h]

theorem Span.upTo_mark (mark : Char) (s : List Char) : upTo [mark] (mark :: s) = ⟨[], true, s⟩ :=
  upTo_of_start rfl

theorem Span.upTo_of_ne_mark {mark c : Char} (h : c ≠ mark) (s : List Char) :
    upTo [mark] (c :: s) = (upTo [mark] s).cons c :=
  upTo_of_not_start (by simpa using Ne.symm h)

/-- A span and its end make up the text. -/
theorem Span.upTo_text (stop s : List Char) :
    (upTo stop s).body ++ (bif (upTo stop s).closed then stop else []) ++ (upTo stop s).rest = s := by
  induction s with
  | nil => rfl
  | cons c s ih =>
    by_cases h : stop <+: c :: s
    · obtain ⟨rest, hrest⟩ := h
      rw [upTo_of_start hrest.symm]
      exact hrest
    · rw [upTo_of_not_start h]
      exact congrArg (c :: ·) ih

theorem Span.upTo_rest_length (stop s : List Char) : (upTo stop s).rest.length ≤ s.length := by
  have htext := congrArg List.length (upTo_text stop s)
  rw [List.length_append] at htext
  omega

/-- A span that is not closed has nothing behind it. -/
theorem Span.upTo_rest_of_open {stop s : List Char} (h : (upTo stop s).closed = false) :
    (upTo stop s).rest = [] := by
  induction s with
  | nil => rfl
  | cons c s ih =>
    by_cases hstart : stop <+: c :: s
    · obtain ⟨rest, hrest⟩ := hstart
      simp [upTo_of_start hrest.symm] at h
    · rw [upTo_of_not_start hstart] at h ⊢
      exact ih h

theorem Span.mark_notMem_body (mark : Char) (s : List Char) : mark ∉ (upTo [mark] s).body := by
  induction s with
  | nil => exact List.not_mem_nil
  | cons c s ih =>
    by_cases h : c = mark
    · subst h
      rw [upTo_mark]
      exact List.not_mem_nil
    · rw [upTo_of_ne_mark h, cons_body, List.mem_cons]
      exact not_or.mpr ⟨Ne.symm h, ih⟩

theorem Span.upTo_body_mark {mark : Char} {body : List Char} (h : mark ∉ body) (rest : List Char) :
    upTo [mark] (body ++ mark :: rest) = ⟨body, true, rest⟩ := by
  induction body with
  | nil => exact upTo_mark mark rest
  | cons c body ih =>
    rw [List.mem_cons, not_or] at h
    rw [List.cons_append, upTo_of_ne_mark (Ne.symm h.1), ih h.2]
    rfl

theorem Span.upTo_of_notMem {mark : Char} {body : List Char} (h : mark ∉ body) :
    upTo [mark] body = ⟨body, false, []⟩ := by
  induction body with
  | nil => rfl
  | cons c body ih =>
    rw [List.mem_cons, not_or] at h
    rw [upTo_of_ne_mark (Ne.symm h.1), ih h.2]
    rfl

end SqlSmell.Text
