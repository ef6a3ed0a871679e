import Mathlib.Logic.Relation
import SqlSmell.Proofs.Pattern.Search

/- The walk over successive matches of any pattern. At each position the walk knows the preferred match, if
   there is one; it passes that match as a whole, or one character where no match takes any. What it
   reports are the matches where it comes to stand, empty ones directly behind another match apart, and the
   search tests the text behind these and no other (`isFoundWith_iff_reports`). Each reported match is an
   occurrence of the pattern (`Program.Reports.occurs`), but not the other way round: an occurrence is
   sure to be reported only if it is the preferred match from its start and no earlier one reaches into it
   (`Program.Exposed.reports`). -/
namespace SqlSmell.Pattern

/-! ## Positions -/

/-- The place at a position of a text. -/
def placeAt (text : List Char) (i : Nat) : Place := ⟨(text.take i).getLast?, text.drop i⟩

/-- The pattern matches from position `i` up to position `j`. -/
def Occurs (r : Regex) (text : List Char) (i j : Nat) : Prop :=
  i ≤ j ∧ j ≤ text.length ∧ Matches r (placeAt text i) (placeAt text j)

theorem placeAt_append (u t : List Char) : placeAt (u ++ t) u.length = ⟨u.getLast?, t⟩ := by
  simp [placeAt]

/-- A text read from a position on leads to a later position. -/
theorem behind_placeAt {text w rest : List Char} {i : Nat} (hi : i ≤ text.length)
    (h : text.drop i = w ++ rest) :
    i + w.length ≤ text.length ∧ (placeAt text i).behind w rest = placeAt text (i + w.length) := by
  obtain ⟨u, rfl, rfl⟩ : ∃ u, text = (u ++ w) ++ rest ∧ u.length = i := by
    refine ⟨text.take i, ?_, by simp [hi]⟩
    rw [List.append_assoc, ← h, List.take_append_drop]
  constructor
  · simp
  · rw [← List.length_append, placeAt_append, List.append_assoc, placeAt_append, Place.behind,
      List.getLast?_append]

theorem placeAt_succ {text : List Char} {i : Nat} (hi : i < text.length) :
    ∃ c, (placeAt text i).text = c :: text.drop (i + 1) ∧
      placeAt text (i + 1) = ⟨some c, text.drop (i + 1)⟩ := by
  have hdrop : text.drop i = [text[i]] ++ text.drop (i + 1) := List.drop_eq_getElem_cons hi
  exact ⟨text[i], hdrop, (behind_placeAt hi.le hdrop).2.symm⟩

namespace Program

section
variable {p : Program}

/-! ## The preferred match -/

/-- A run gives the match it had, or one that the program accepts. -/
theorem run_sound {starts : List Nat} {before : Option Char} {taken : Nat} {best : Option Match}
    {text : List Char} {m : Match} (h : p.run starts before taken best text = some m) :
    best = some m ∨ ∃ w, text = w ++ m.rest ∧ m.length = taken + w.length ∧
      ∃ start ∈ starts, p.Accepts start ⟨before, text⟩ ((⟨before, text⟩ : Place).behind w m.rest) := by
  induction text generalizing starts before taken best with
  | nil =>
    rw [run] at h
    split at h
    · next hany =>
      obtain rfl := Option.some.inj h
      exact .inr ⟨[], rfl, rfl, accepts_of_any (x := ⟨before, []⟩) hany⟩
    · exact .inl h
  | cons c text ih =>
    rw [run_cons] at h
    rcases ih h with hbest | ⟨w, htext, hlength, next, hnext, haccepts⟩
    · split at hbest
      · next hany =>
        obtain rfl := Option.some.inj hbest
        exact .inr ⟨[], rfl, rfl, accepts_of_any (x := ⟨before, c :: text⟩) hany⟩
      · exact .inl hbest
    · have hsub : next ∈ p.consume c (p.reach ⟨before, some c⟩ starts) := by
        obtain ⟨q, hq, hs⟩ := mem_consume_iff.mp hnext
        exact mem_consume_iff.mpr ⟨q, (List.takeWhile_sublist _).subset hq, hs⟩
      refine .inr ⟨c :: w, by rw [htext, List.cons_append], by rw [List.length_cons]; omega, ?_⟩
      rw [Place.behind_cons, ← htext]
      exact accepts_of_consume hsub haccepts

/-- The preferred match from a position of a text. -/
def matchAt? (p : Program) (text : List Char) (i : Nat) : Option Match :=
  p.matchHere? (placeAt text i).before (placeAt text i).text

theorem matchAt?_sound {text : List Char} {i : Nat} {m : Match} (hi : i ≤ text.length)
    (h : p.matchAt? text i = some m) :
    i + m.length ≤ text.length ∧ m.rest = text.drop (i + m.length) ∧
      p.Accepts 0 (placeAt text i) (placeAt text (i + m.length)) := by
  rcases run_sound h with hbest | ⟨w, htext, hlength, start, hstart, haccepts⟩
  · contradiction
  · obtain rfl := List.mem_singleton.mp hstart
    rw [Nat.zero_add] at hlength
    obtain ⟨hle, hplace⟩ := behind_placeAt hi htext
    rw [hlength]
    refine ⟨hle, ?_, ?_⟩
    · exact congrArg Place.text hplace
    · rw [← hplace]
      exact haccepts

/-- The preferred match from position `i` on ends at `j`. -/
def Prefers (p : Program) (text : List Char) (i j : Nat) : Prop :=
  ∃ m, p.matchAt? text i = some m ∧ j = i + m.length

section
variable {text : List Char} {i j : Nat}

theorem prefers_iff_of_some {m : Match} (h : p.matchAt? text i = some m) :
    p.Prefers text i j ↔ j = i + m.length := by
  simp [Prefers, h]

theorem not_prefers_of_none (h : p.matchAt? text i = none) : ¬ p.Prefers text i j := by
  simp [Prefers, h]

theorem Prefers.unique {k : Nat} (h : p.Prefers text i j) (h' : p.Prefers text i k) : j = k := by
  obtain ⟨m, hm, hj⟩ := h
  rw [hj, (prefers_iff_of_some hm).mp h']

theorem Prefers.bounds (h : p.Prefers text i j) (hi : i ≤ text.length) : i ≤ j ∧ j ≤ text.length := by
  obtain ⟨m, hm, hj⟩ := h
  have hle := (matchAt?_sound hi hm).1
  omega

end

/-! ## The walk -/

/-- One step of the walk. A state is a position, and whether an empty match counts there. A character is
    passed where no match starts that takes one; any other match is passed as a whole. -/
inductive Stride (p : Program) (text : List Char) : Nat × Bool → Nat × Bool → Prop
  | pass {i : Nat} {fresh : Bool} (hi : i < text.length) (h : ∀ j, p.Prefers text i j → j = i) :
      Stride p text (i, fresh) (i + 1, true)
  | leap {i j : Nat} {fresh : Bool} (h : p.Prefers text i j) (hj : i < j) :
      Stride p text (i, fresh) (j, false)

/-- The walk over the whole text comes to a position. -/
def Stands (p : Program) (text : List Char) (i : Nat) (fresh : Bool) : Prop :=
  Relation.ReflTransGen (p.Stride text) (0, true) (i, fresh)

/-- The walk reports the match between two positions. -/
def Reports (p : Program) (text : List Char) (i j : Nat) : Prop :=
  p.Prefers text i j ∧ ∃ fresh, p.Stands text i fresh ∧ (i < j ∨ fresh = true)

/-- The walk from a state on finds the test true behind a match. -/
def finds (p : Program) (test : List Char → Bool) (text : List Char) (state : Nat × Bool) : Bool :=
  p.anyBehind test 0 state.2 (placeAt text state.1).before (placeAt text state.1).text

section
variable {test : List Char → Bool} {text : List Char} {i j : Nat} {fresh : Bool} {state : Nat × Bool}

/-- Passing the rest of a match leads behind it. -/
theorem anyBehind_skip {n : Nat} (h : i + n ≤ text.length) :
    p.anyBehind test n (n != 0) (placeAt text i).before (placeAt text i).text =
      p.finds test text (i + n, false) := by
  induction n generalizing i with
  | zero => rfl
  | succ n ih =>
    obtain ⟨c, hi, hnext⟩ := placeAt_succ (show i < text.length by omega)
    rw [hi, anyBehind, Nat.add_comm n, ← Nat.add_assoc, ← ih (by omega), hnext]

theorem stride_of_empty (h : ∀ j, p.Prefers text i j → j = i) :
    p.Stride text (i, fresh) state ↔ i < text.length ∧ state = (i + 1, true) := by
  constructor
  · intro hstride
    cases hstride with
    | pass hi _ => exact ⟨hi, rfl⟩
    | leap hprefers hj => exact absurd (h _ hprefers) hj.ne'
  · intro ⟨hi, hstate⟩
    rw [hstate]
    exact .pass hi h

theorem stride_of_nonempty (h : p.Prefers text i j) (hj : i < j) :
    p.Stride text (i, fresh) state ↔ state = (j, false) := by
  constructor
  · intro hstride
    cases hstride with
    | pass _ hempty => exact absurd (hempty j h) hj.ne'
    | leap hprefers _ => rw [h.unique hprefers]
  · intro hstate
    rw [hstate]
    exact .leap h hj

theorem finds_end (hend : i = text.length) :
    p.finds test text (i, fresh) = true ↔ p.Prefers text i i ∧ fresh = true ∧ test [] = true := by
  have hdrop : (placeAt text i).text = [] := by simp [placeAt, hend]
  rw [finds]
  simp only [hdrop]
  cases hm : p.matchAt? text i with
  | none =>
    have hnone : p.matchHere? (placeAt text i).before [] = none := by rwa [matchAt?, hdrop] at hm
    simp [anyBehind, hnone, not_prefers_of_none hm]
  | some m =>
    have hsome : p.matchHere? (placeAt text i).before [] = some m := by rwa [matchAt?, hdrop] at hm
    have hle := (matchAt?_sound hend.le hm).1
    simp [anyBehind, hsome, prefers_iff_of_some hm, show m.length = 0 by omega]

/-- The walk finds the test true behind a match where it stands, or further on. -/
theorem finds_iff (hi : i ≤ text.length) :
    p.finds test text (i, fresh) = true ↔
      (∃ j, p.Prefers text i j ∧ (i < j ∨ fresh = true) ∧ test (text.drop j) = true) ∨
        ∃ state, p.Stride text (i, fresh) state ∧ p.finds test text state = true := by
  rcases Nat.lt_or_eq_of_le hi with hlt | hend
  · obtain ⟨c, htext, hnext⟩ := placeAt_succ hlt
    have hpass : p.anyBehind test 0 true (some c) (text.drop (i + 1)) =
        p.finds test text (i + 1, true) := by rw [finds, hnext]
    rw [finds, htext, anyBehind, ← htext, hpass]
    cases hm : p.matchHere? (placeAt text i).before (placeAt text i).text with
    | none =>
      have hm : p.matchAt? text i = none := hm
      have hnone : ∀ j, ¬ p.Prefers text i j := fun j => not_prefers_of_none hm
      simp [stride_of_empty (fun j hj => absurd hj (hnone j)), hnone, hlt]
    | some m =>
      have hm : p.matchAt? text i = some m := hm
      obtain ⟨hle, hrest, -⟩ := matchAt?_sound hi hm
      cases hlength : m.length with
      | zero =>
        have hempty : ∀ j, p.Prefers text i j ↔ j = i := by simp [prefers_iff_of_some hm, hlength]
        simp [stride_of_empty (fun j => (hempty j).mp), hempty, hlt, hlength, placeAt]
      | succ n =>
        have hprefers : p.Prefers text i (i + m.length) := ⟨m, hm, rfl⟩
        have hskip : p.anyBehind test n (n != 0) (placeAt text (i + 1)).before
            (placeAt text (i + 1)).text = p.finds test text (i + 1 + n, false) :=
          anyBehind_skip (by omega)
        rw [hnext] at hskip
        simp [stride_of_nonempty hprefers (by omega), prefers_iff_of_some hm, hskip, hrest, hlength,
          Nat.add_assoc, Nat.add_comm 1]
  · have hempty : ∀ j, p.Prefers text i j → j = i := by
      intro j hj
      have hbounds := hj.bounds hi
      omega
    have hlast : ¬ i < text.length := by omega
    rw [finds_end hend]
    simp only [stride_of_empty hempty, hlast, false_and, exists_false, or_false]
    constructor
    · intro ⟨hprefers, hfresh, htest⟩
      exact ⟨i, hprefers, .inr hfresh, by rwa [hend, List.drop_length]⟩
    · intro ⟨j, hprefers, hcounts, htest⟩
      obtain rfl := hempty j hprefers
      rw [hend, List.drop_length] at htest
      exact ⟨hprefers, hcounts.resolve_left (lt_irrefl j), htest⟩

theorem Stride.bounds {next : Nat × Bool} (h : p.Stride text state next)
    (hstate : state.1 ≤ text.length) : state.1 < next.1 ∧ next.1 ≤ text.length := by
  cases h with
  | pass hlt _ => exact ⟨Nat.lt_succ_self _, hlt⟩
  | leap hprefers hlt => exact ⟨hlt, (hprefers.bounds hstate).2⟩

theorem finds_of_steps {goal : Nat × Bool} (hsteps : Relation.ReflTransGen (p.Stride text) state goal)
    (hstate : state.1 ≤ text.length) (h : p.finds test text goal = true) :
    p.finds test text state = true := by
  induction hsteps using Relation.ReflTransGen.head_induction_on with
  | refl => exact h
  | head hstride _ ih =>
    exact (finds_iff hstate).mpr (.inr ⟨_, hstride, ih (hstride.bounds hstate).2⟩)

/-- What is found from a state is found behind a match that counts, where the walk comes to stand. -/
theorem exists_of_finds (hstate : state.1 ≤ text.length) (h : p.finds test text state = true) :
    ∃ i fresh j, Relation.ReflTransGen (p.Stride text) state (i, fresh) ∧ p.Prefers text i j ∧
      (i < j ∨ fresh = true) ∧ test (text.drop j) = true := by
  -- every stride goes forward
  induction hn : text.length - state.1 using Nat.strong_induction_on generalizing state with
  | _ n ih =>
    rcases (finds_iff hstate).mp h with ⟨j, hprefers, hj⟩ | ⟨next, hstride, hfinds⟩
    · exact ⟨state.1, state.2, j, .refl, hprefers, hj⟩
    · obtain ⟨hlt, hle⟩ := hstride.bounds hstate
      obtain ⟨i, fresh, j, hsteps, hj⟩ := ih (text.length - next.1) (by omega) hle hfinds rfl
      exact ⟨i, fresh, j, hsteps.head hstride, hj⟩

theorem steps_le (h : Relation.ReflTransGen (p.Stride text) (0, true) state) :
    state.1 ≤ text.length := by
  induction h with
  | refl => exact Nat.zero_le _
  | tail _ hstride ih => exact (hstride.bounds ih).2

/-- The search tests the text behind the reported matches, and behind no other. -/
theorem isFoundWith_iff_reports :
    p.isFoundWith test text = true ↔ ∃ i j, p.Reports text i j ∧ test (text.drop j) = true := by
  have hfinds : p.isFoundWith test text = p.finds test text (0, true) := rfl
  rw [hfinds]
  constructor
  · intro h
    obtain ⟨i, fresh, j, hsteps, hprefers, hcounts, htest⟩ := exists_of_finds (Nat.zero_le _) h
    exact ⟨i, j, ⟨hprefers, fresh, hsteps, hcounts⟩, htest⟩
  · intro ⟨i, j, ⟨hprefers, fresh, hsteps, hcounts⟩, htest⟩
    exact finds_of_steps hsteps (Nat.zero_le _)
      ((finds_iff (steps_le hsteps)).mpr (.inl ⟨j, hprefers, hcounts, htest⟩))

/-! ## What the walk steps over -/

/-- The walk comes to every position that is not inside a match it passes. -/
theorem stands_or_inside (hi : i ≤ text.length) :
    (∃ fresh, p.Stands text i fresh) ∨
      ∃ k l fresh, p.Stands text k fresh ∧ p.Prefers text k l ∧ k < i ∧ i < l := by
  induction i with
  | zero => exact .inl ⟨true, .refl⟩
  | succ i ih =>
    -- the match from `k` up to `l` is passed, and `l` is not before `i + 1`
    have hover : ∀ {k l : Nat} {fresh : Bool}, p.Stands text k fresh → p.Prefers text k l → k < i + 1 →
        i < l → (∃ fresh, p.Stands text (i + 1) fresh) ∨
          ∃ k l fresh, p.Stands text k fresh ∧ p.Prefers text k l ∧ k < i + 1 ∧ i + 1 < l := by
      intro k l fresh hstands hprefers hk hl
      rcases Nat.lt_or_eq_of_le hl with hin | hend
      · exact .inr ⟨k, l, fresh, hstands, hprefers, hk, hin⟩
      · refine .inl ⟨false, ?_⟩
        rw [show i + 1 = l from hend]
        exact Relation.ReflTransGen.tail hstands (.leap hprefers (by omega))
    rcases ih (by omega) with ⟨fresh, hstands⟩ | ⟨k, l, fresh, hstands, hprefers, hk, hl⟩
    · by_cases hempty : ∀ j, p.Prefers text i j → j = i
      · exact .inl ⟨true, Relation.ReflTransGen.tail hstands (.pass hi hempty)⟩
      · push Not at hempty
        obtain ⟨j, hprefers, hne⟩ := hempty
        have hj := hprefers.bounds (show i ≤ text.length by omega)
        exact hover hstands hprefers (by omega) (by omega)
    · exact hover hstands hprefers (by omega) hl

/-- Where an empty match does not count, another match ends. -/
theorem Stands.behind_match (h : p.Stands text i false) :
    ∃ k fresh, p.Stands text k fresh ∧ p.Prefers text k i ∧ k < i := by
  rcases Relation.ReflTransGen.cases_tail h with heq | ⟨⟨k, fresh⟩, hstands, hstride⟩
  · cases heq
  · cases hstride with
    | leap hprefers hlt => exact ⟨k, fresh, hstands, hprefers, hlt⟩

/-- The match is the preferred one from its start, and no earlier preferred match reaches into it or, if it
    is empty, up to it. -/
def Exposed (p : Program) (text : List Char) (i j : Nat) : Prop :=
  p.Prefers text i j ∧ ∀ k l, k < i → p.Prefers text k l → l ≤ i ∧ (i = j → l < i)

/-- The walk misses no exposed match. -/
theorem Exposed.reports (h : p.Exposed text i j) (hi : i ≤ text.length) : p.Reports text i j := by
  obtain ⟨hprefers, hearlier⟩ := h
  refine ⟨hprefers, ?_⟩
  rcases stands_or_inside hi with ⟨fresh, hstands⟩ | ⟨k, l, fresh, -, hover, hk, hl⟩
  · refine ⟨fresh, hstands, ?_⟩
    cases fresh with
    | true => exact .inr rfl
    | false =>
      obtain ⟨k, -, -, hover, hk⟩ := hstands.behind_match
      have hempty := (hearlier k i hk hover).2
      have hle := (hprefers.bounds hi).1
      exact .inl (by omega)
  · have hle := (hearlier k l hk hover).1
    omega

end

end

end Program

/-! ## Occurrences -/

section
variable {r : Regex} {text : List Char} {i j : Nat}

theorem Program.Prefers.occurs (h : r.program.Prefers text i j) (hi : i ≤ text.length) :
    Occurs r text i j := by
  obtain ⟨m, hm, rfl⟩ := h
  obtain ⟨hle, -, haccepts⟩ := Program.matchAt?_sound hi hm
  exact ⟨Nat.le_add_right i m.length, hle, (accepts_program_iff _ _ _).mp haccepts⟩

theorem Program.Reports.occurs (h : r.program.Reports text i j) : Occurs r text i j := by
  obtain ⟨hprefers, fresh, hstands, -⟩ := h
  exact hprefers.occurs (Program.steps_le hstands)

/-- What a pattern takes is a text, and it leads behind that text. -/
theorem Matches.exists_behind {x y : Place} (h : Matches r x y) :
    ∃ w, x.text = w ++ y.text ∧ y = x.behind w y.text := by
  have hstay : ∀ x : Place, ∃ w, x.text = w ++ x.text ∧ x = x.behind w x.text :=
    fun x => ⟨[], rfl, rfl⟩
  have htrans : ∀ {x y z : Place}, (∃ w, x.text = w ++ y.text ∧ y = x.behind w y.text) →
      (∃ w, y.text = w ++ z.text ∧ z = y.behind w z.text) →
      ∃ w, x.text = w ++ z.text ∧ z = x.behind w z.text := by
    intro x y z ⟨w, hw, hy⟩ ⟨v, hv, hz⟩
    refine ⟨w ++ v, by rw [hw, hv, List.append_assoc], ?_⟩
    have hbefore : y.before = w.getLast?.or x.before := congrArg Place.before hy
    rw [hz, Place.behind, hbefore, Place.behind, List.getLast?_append, Option.or_assoc]
  induction h with
  | set hc b t => exact ⟨[_], rfl, rfl⟩
  | cat _ _ ih ih' => exact htrans ih ih'
  | altFirst _ ih => exact ih
  | altSecond _ ih => exact ih
  | timesMore _ _ ih ih' => exact htrans ih ih'
  | upToMore _ _ ih ih' => exact htrans ih ih'
  | starMore _ _ ih ih' => exact htrans ih ih'
  | plus _ _ ih ih' => exact htrans ih ih'
  | _ => exact hstay _

/-- A match from a position on leads to a position. -/
theorem Matches.exists_occurs {y : Place} (h : Matches r (placeAt text i) y) (hi : i ≤ text.length) :
    ∃ j, Occurs r text i j ∧ y = placeAt text j := by
  obtain ⟨w, htext, hy⟩ := h.exists_behind
  obtain ⟨hle, hplace⟩ := behind_placeAt hi htext
  rw [← hy] at hplace
  exact ⟨i + w.length, ⟨Nat.le_add_right i w.length, hle, hplace ▸ h⟩, hplace⟩

end

end SqlSmell.Pattern
