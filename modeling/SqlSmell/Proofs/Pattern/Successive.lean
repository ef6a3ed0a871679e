import Mathlib.Data.List.DropRight
import SqlSmell.Pattern.Matcher
import SqlSmell.Proofs.Pattern.Phrase
import SqlSmell.Proofs.Pattern.Walk
import SqlSmell.Proofs.Text.Find

/- Patterns that the walk over successive matches misses nothing of. If a pattern never matches from inside
   one of its own matches (`Separate`), all its matches are exposed (`Separate.exposed`), and the walk tests
   the text behind every match of the whole text (`isFoundWith_iff`).
   A keyword that does not overlap itself, followed by blanks, is such a pattern
   (`keyword_separate`); its matches are found exactly, together with where they end
   (`matchHere?_keyword_iff`), by following the one instruction that is alive at each character. -/
namespace SqlSmell.Pattern

namespace Program

/-! ## Tests behind every match -/

/-- No match is empty, and none starts inside another one. -/
structure Separate (p : Program) : Prop where
  nothing : ∀ before, p.matchHere? before [] = none
  nonempty : ∀ before text m, p.matchHere? before text = some m → 0 < m.length
  apart : ∀ before u t m, p.matchHere? before (u ++ t) = some m → u ≠ [] → u.length < m.length →
    ∀ before', p.matchHere? before' t = none

section
variable {p : Program} {text : List Char} {i j : Nat}

/-- No match of such a program reaches into another one. -/
theorem Separate.exposed (hp : p.Separate) (hi : i ≤ text.length) (h : p.Prefers text i j) :
    p.Exposed text i j := by
  refine ⟨h, fun k l hk hover => ?_⟩
  obtain ⟨m, hm, hj⟩ := h
  obtain ⟨m', hm', hl⟩ := hover
  have hpos := hp.nonempty _ _ _ hm
  refine ⟨?_, by omega⟩
  by_contra hlong
  have hsplit : text.drop k = (text.drop k).take (i - k) ++ text.drop i := by
    conv => lhs; rw [← List.take_append_drop (i - k) (text.drop k)]
    rw [List.drop_drop, Nat.add_sub_cancel' hk.le]
  have hlength : ((text.drop k).take (i - k)).length = i - k := by
    rw [List.length_take, List.length_drop]
    omega
  have hnone := hp.apart (placeAt text k).before _ (text.drop i) m' (by rwa [← hsplit])
    (List.ne_nil_of_length_pos (by omega)) (by omega) (placeAt text i).before
  have hsome : p.matchHere? (placeAt text i).before (text.drop i) = some m := hm
  rw [hnone] at hsome
  contradiction

theorem isFoundWith_iff (hp : p.Separate) (test : List Char → Bool) (text : List Char) :
    p.isFoundWith test text = true ↔
      ∃ u t m, text = u ++ t ∧ p.matchHere? u.getLast? t = some m ∧ test m.rest = true := by
  rw [isFoundWith_iff_reports]
  constructor
  · intro ⟨i, j, ⟨⟨m, hm, hj⟩, fresh, hstands, _⟩, htest⟩
    have hrest := (matchAt?_sound (steps_le hstands) hm).2.1
    exact ⟨text.take i, text.drop i, m, (List.take_append_drop i text).symm, hm, by rwa [hrest, ← hj]⟩
  · intro ⟨u, t, m, htext, hm, htest⟩
    subst htext
    have hi : u.length ≤ (u ++ t).length := by simp
    have hat : p.matchAt? (u ++ t) u.length = some m := by rwa [matchAt?, placeAt_append]
    have hrest := (matchAt?_sound hi hat).2.1
    exact ⟨u.length, u.length + m.length, (hp.exposed hi ⟨m, hat, rfl⟩).reports hi, by rwa [← hrest]⟩

end

/-! ## Programs with one instruction alive -/

section
variable {p : Program} {pc : Nat}

theorem successors_of_isReady {around : Around} (h : p.isReady pc = true) :
    p.successors around pc = [] := by
  unfold isReady at h
  unfold successors
  split at h <;> simp_all

theorem follow_of_isReady {around : Around} {front : Front} (fuel : Nat)
    (hready : p.isReady pc = true) (hnew : pc ∉ front.seen) :
    follow p around (fuel + 1) pc front = ⟨pc :: front.seen, pc :: front.ready⟩ := by
  rw [follow_succ, if_neg (by simpa using hnew), successors_of_isReady hready]
  simp [Front.meet, hready]

theorem reach_of_isReady (around : Around) (h : p.isReady pc = true) : p.reach around [pc] = [pc] := by
  simp [reach, follow_of_isReady p.size h, Front.empty]

/-- A fork between two instructions that take a character or accept reaches these two. -/
theorem reach_fork {first second : Nat} (around : Around) (h : p[pc]? = some (.fork first second))
    (hfirst : p.isReady first = true) (hsecond : p.isReady second = true) (hne : second ≠ first) :
    p.reach around [pc] = [first, second] := by
  have hpc : p.isReady pc = false := by simp [isReady, h]
  have hsize : pc < p.size := (Array.getElem?_eq_some_iff.mp h).1
  -- the fork itself takes a unit of fuel, its branches the next one
  obtain ⟨fuel, hfuel⟩ := Nat.exists_eq_succ_of_ne_zero (Nat.ne_zero_of_lt hsize)
  have hfirst' : first ≠ pc := by
    rintro rfl
    simp [hpc] at hfirst
  have hsecond' : second ≠ pc := by
    rintro rfl
    simp [hpc] at hsecond
  have hsuccessors : p.successors around pc = [first, second] := by simp [successors, h]
  rw [reach, List.foldl_cons, List.foldl_nil, follow_succ, if_neg (by simp [Front.empty]),
    hsuccessors, hfuel, List.foldl_cons, List.foldl_cons, List.foldl_nil,
    follow_of_isReady fuel hfirst (by simp [Front.meet, Front.empty, hfirst']),
    follow_of_isReady fuel hsecond (by simp [Front.meet, Front.empty, hsecond', hne])]
  simp [Front.meet, Front.empty, hpc]

section
variable {s : CharSet} {next : Nat} (h : p[pc]? = some (.consume s next)) (before : Option Char)
  (taken : Nat) (best : Option Match)

include h

theorem run_consume_nil : p.run [pc] before taken best [] = best := by
  have hready : p.isReady pc = true := by simp [isReady, h]
  simp [run, reach_of_isReady _ hready, accepts, h]

/-- A run that stands at one instruction takes the character or ends. -/
theorem run_consume_cons (c : Char) (text : List Char) :
    p.run [pc] before taken best (c :: text) =
      bif s.contains c then p.run [next] (some c) (taken + 1) best text else best := by
  have hready : p.isReady pc = true := by simp [isReady, h]
  cases hc : s.contains c <;>
    simp [run, reach_of_isReady _ hready, accepts, consume, h, hc]

end

/-- Behind a first blank, a run of blanks is taken to its end. -/
theorem run_blanks {next : Nat} (hconsume : p[pc]? = some (.consume .blank (pc + 1)))
    (hfork : p[pc + 1]? = some (.fork pc next)) (haccept : p[next]? = some .accept)
    (before : Option Char) (taken : Nat) (best : Option Match) (text : List Char) :
    p.run [pc + 1] before taken best text =
      some ⟨taken + (text.takeWhile Text.isBlank).length, Text.trimStart text⟩ := by
  have hne : next ≠ pc := by
    rintro rfl
    simp [hconsume] at haccept
  have hreach : ∀ around, p.reach around [pc + 1] = [pc, next] := fun around =>
    reach_fork around hfork (by simp [isReady, hconsume]) (by simp [isReady, haccept]) hne
  have hpc : p.accepts pc = false := by simp [accepts, hconsume]
  have hnext : p.accepts next = true := by simp [accepts, haccept]
  induction text generalizing before taken best with
  | nil => simp [run, hreach, hpc, hnext, Text.trimStart]
  | cons c text ih =>
    rw [run_cons]
    simp only [hreach, List.any_cons, List.any_nil, hpc, hnext, Bool.or_false, Bool.false_or, if_true,
      List.takeWhile_cons, Bool.not_false, Bool.not_true, Bool.false_eq_true, if_false]
    cases hc : Text.isBlank c with
    | true =>
      have hstep : p.consume c [pc] = [pc + 1] := by simp [consume, hconsume, CharSet.contains, hc]
      -- the match found before the blank is replaced by a longer one
      rw [hstep, ih]
      simp [Text.trimStart, hc]
      omega
    | false =>
      have hstep : p.consume c [pc] = [] := by simp [consume, hconsume, CharSet.contains, hc]
      rw [hstep, run_nil_starts]
      simp [Text.trimStart, hc]

end

end Program

/-! ## A keyword followed by blanks -/

/-- The code of a word: one instruction for each character. -/
def wordCode : (w : List Char) → (start : Nat) → List Instr
  | [], _ => []
  | c :: w, start => .consume (.one c) (start + 1) :: wordCode w (start + 1)

theorem wordCode_length (w : List Char) (start : Nat) : (wordCode w start).length = w.length := by
  induction w generalizing start with
  | nil => rfl
  | cons c w ih => simp [wordCode, ih]

theorem ofItems_cons (r : Regex) {items : List Regex} (h : items ≠ []) :
    Regex.ofItems (r :: items) = .cat r (Regex.ofItems items) := by
  obtain ⟨last, rest, hrest⟩ := List.exists_cons_of_ne_nil (by simpa using h : items.reverse ≠ [])
  simp [Regex.ofItems, Regex.ofReversedItems, hrest]

theorem code_word (w : List Char) (r : Regex) (start next : Nat) :
    (Regex.ofItems (word w ++ [r])).code start next =
      wordCode w start ++ r.code (start + w.length) next := by
  induction w generalizing start with
  | nil => rfl
  | cons c w ih =>
    have hcons : word (c :: w) ++ [r] = .set (.one c) :: (word w ++ [r]) := rfl
    rw [hcons, ofItems_cons _ (by simp), Regex.code, Regex.code, ih]
    simp [wordCode, Regex.size, Nat.add_assoc, Nat.add_comm 1]

/-- A run that stands before the code of a word passes it together with the word. -/
theorem Program.run_word {p : Program} {w : List Char} {start : Nat}
    (h : p.Holds start (wordCode w start)) (before : Option Char) (taken : Nat)
    (best : Option Program.Match) (text : List Char) :
    p.run [start] before taken best text =
      (Text.afterStart? w text).elim best fun rest =>
        p.run [start + w.length] (w.getLast?.or before) (taken + w.length) best rest := by
  induction w generalizing start before taken text with
  | nil => rfl
  | cons c w ih =>
    have hconsume := h.head
    cases text with
    | nil => exact run_consume_nil hconsume before taken best
    | cons d text =>
      rw [run_consume_cons hconsume, Text.afterStart?]
      by_cases hd : d = c
      · have hcontains : (CharSet.one c).contains d = true := contains_one.mpr hd
        rw [hcontains, cond_true, ih h.tail, if_pos (by simp [hd]), hd]
        simp only [getLast?_cons_or, List.length_cons, Nat.add_assoc, Nat.add_comm 1]
      · have hcontains : (CharSet.one c).contains d = false := by
          simpa [hd] using contains_one (c := c) (d := d)
        rw [hcontains, cond_false, if_neg (by simpa using Ne.symm hd)]
        rfl

/-- A word and one or more blanks behind it. -/
def keyword (w : List Char) : Regex := Regex.ofItems (word w ++ [blankRun])

section
variable {w text : List Char}

/-- A run of the keyword's program: the word, and all the blanks behind it. -/
theorem matchHere?_keyword (before : Option Char) :
    (keyword w).program.matchHere? before text =
      (Text.afterStart? w text).bind fun rest =>
        bif (rest.takeWhile Text.isBlank).isEmpty then none
        else some ⟨w.length + (rest.takeWhile Text.isBlank).length, Text.trimStart rest⟩ := by
  obtain ⟨hcode, haccept⟩ := program_holds (keyword w)
  have hsplit : (keyword w).program.Holds 0
      (wordCode w 0 ++ blankRun.code (0 + w.length) (keyword w).size) := by
    rw [← code_word]
    exact hcode
  have hblanks := hsplit.right
  rw [wordCode_length, Nat.zero_add] at hblanks
  have hconsume := hblanks.head
  have hfork := hblanks.tail.head
  rw [Program.matchHere?, Program.run_word hsplit.left, Nat.zero_add]
  cases Text.afterStart? w text with
  | none => rfl
  | some rest =>
    cases rest with
    | nil => exact Program.run_consume_nil hconsume _ _ _
    | cons c rest =>
      refine (Program.run_consume_cons hconsume _ _ _ c rest).trans ?_
      cases hc : Text.isBlank c with
      | false => simp [CharSet.contains, hc]
      | true =>
        rw [CharSet.contains, hc, cond_true]
        refine (Program.run_blanks hconsume hfork haccept _ _ _ rest).trans ?_
        simp [Text.trimStart, hc, Nat.add_assoc, Nat.add_comm 1]

theorem matchHere?_keyword_iff {before : Option Char} {m : Program.Match} :
    (keyword w).program.matchHere? before text = some m ↔
      ∃ blanks, text = w ++ blanks ++ m.rest ∧ blanks ≠ [] ∧ (∀ c ∈ blanks, Text.isBlank c = true) ∧
        Text.trimStart m.rest = m.rest ∧ m.length = w.length + blanks.length := by
  rw [matchHere?_keyword, Option.bind_eq_some_iff]
  constructor
  · rintro ⟨rest, hrest, hm⟩
    cases hblanks : (rest.takeWhile Text.isBlank).isEmpty with
    | true => simp [hblanks] at hm
    | false =>
      rw [hblanks, cond_false] at hm
      obtain rfl := Option.some.inj hm
      refine ⟨rest.takeWhile Text.isBlank, ?_, by simpa using hblanks,
        fun c hc => List.mem_takeWhile_imp hc, List.dropWhile_idempotent _ _, rfl⟩
      rw [List.append_assoc, Text.trimStart, List.takeWhile_append_dropWhile]
      exact Text.afterStart?_eq_some_iff.mp hrest
  · rintro ⟨blanks, rfl, hne, hblanks, hrest, hlength⟩
    -- no blank is left behind the match, so the run of blanks is a longest one
    have hfirst : m.rest.takeWhile Text.isBlank = [] := by
      have hparts := List.takeWhile_append_dropWhile (p := Text.isBlank) (l := m.rest)
      rw [← Text.trimStart, hrest] at hparts
      simpa using hparts
    refine ⟨blanks ++ m.rest, by rw [List.append_assoc, Text.afterStart?_append], ?_⟩
    have htake : (blanks ++ m.rest).takeWhile Text.isBlank = blanks := by
      rw [List.takeWhile_append_of_pos hblanks, hfirst, List.append_nil]
    have hdrop : Text.trimStart (blanks ++ m.rest) = m.rest := by
      rw [Text.trimStart, List.dropWhile_append_of_pos hblanks]
      exact hrest
    rw [htake, hdrop, ← hlength, List.isEmpty_eq_false_iff.mpr hne]
    rfl

/-- An occurrence with no blank behind it is the preferred one. -/
theorem prefers_of_occurs_keyword {i j : Nat} (h : Occurs (keyword w) text i j)
    (hsolid : Text.trimStart (text.drop j) = text.drop j) : (keyword w).program.Prefers text i j := by
  obtain ⟨hij, hj, hmatches⟩ := h
  obtain ⟨t, ht, _, hrun, rfl⟩ := matchesAll_word.mp (matches_ofItems_iff.mp hmatches)
  obtain ⟨blanks, rest, hrest, hne, hblanks, hplace⟩ := matches_plus_set_iff.mp hrun
  obtain rfl : text.drop j = rest := congrArg Place.text hplace
  have ht : text.drop i = w ++ t := ht
  have hrest : t = blanks ++ text.drop j := hrest
  rw [hrest, ← List.append_assoc] at ht
  refine ⟨⟨w.length + blanks.length, text.drop j⟩,
    matchHere?_keyword_iff.mpr ⟨blanks, ht, hne, hblanks, hsolid, rfl⟩, ?_⟩
  have hlength := congrArg List.length ht
  simp only [List.length_append, List.length_drop] at hlength
  show j = i + (w.length + blanks.length)
  omega

/-- No end of the word is a beginning of it, and it starts with no blank. -/
structure Unbordered (w : List Char) : Prop where
  solid : ∃ c v, w = c :: v ∧ Text.isBlank c = false
  borderless : ∀ k < w.length, 0 < k → ¬ w.drop k <+: w

theorem references_unbordered : Unbordered "references".toList where
  solid := ⟨'r', "eferences".toList, rfl, by decide⟩
  borderless := by decide

theorem Unbordered.not_prefix_of_blanks (h : Unbordered w) {blanks : List Char} (hne : blanks ≠ [])
    (hblanks : ∀ c ∈ blanks, Text.isBlank c = true) (s : List Char) : ¬ w <+: blanks ++ s := by
  obtain ⟨c, v, rfl, hc⟩ := h.solid
  obtain ⟨d, blanks, rfl⟩ := List.exists_cons_of_ne_nil hne
  intro hw
  obtain rfl := (List.cons_prefix_cons.mp hw).1
  rw [hblanks c List.mem_cons_self] at hc
  contradiction

/-- Matches of an unbordered keyword do not overlap: inside the word a second one would be a border, and
    none starts with a blank. -/
theorem keyword_separate (hw : Unbordered w) : (keyword w).program.Separate where
  nothing before := by
    obtain ⟨c, v, rfl, -⟩ := hw.solid
    rw [matchHere?_keyword, Text.afterStart?]
    rfl
  nonempty before text m hm := by
    obtain ⟨blanks, -, hne, -, -, hlength⟩ := matchHere?_keyword_iff.mp hm
    have := List.length_pos_of_ne_nil hne
    omega
  apart before u t m hm hu hshort before' := by
    obtain ⟨blanks, htext, hne, hblanks, -, hlength⟩ := matchHere?_keyword_iff.mp hm
    have hnot : ¬ w <+: t := by
      rw [List.append_assoc] at htext
      rcases List.append_eq_append_iff.mp htext with ⟨v, hsplit, rfl⟩ | ⟨passed, rfl, hpassed⟩
      · -- the second match would start inside the word, or directly behind it
        by_cases hv : v = []
        · rw [hv]
          exact hw.not_prefix_of_blanks hne hblanks m.rest
        · have hborder : ¬ v <+: w := by
            have hdrop := hw.borderless u.length (by simp [hsplit, List.length_pos_iff, hv])
              (List.length_pos_of_ne_nil hu)
            rwa [hsplit, List.drop_left, ← hsplit] at hdrop
          intro hprefix
          exact hborder (List.prefix_of_prefix_length_le (List.prefix_append v _) hprefix
            (by simp [hsplit]))
      · -- the second match would start with one of the blanks
        rw [hlength, List.length_append, Nat.add_lt_add_iff_left] at hshort
        rcases List.append_eq_append_iff.mp hpassed with ⟨more, rfl, -⟩ | ⟨more, rfl, rfl⟩
        · rw [List.length_append] at hshort
          omega
        · have hmore : more ≠ [] := by
            rintro rfl
            simp at hshort
          exact hw.not_prefix_of_blanks hmore
            (fun c hc => hblanks c (List.mem_append_right passed hc)) m.rest
    rw [matchHere?_keyword, Text.afterStart?_eq_none_iff.mpr hnot]
    rfl

end

end SqlSmell.Pattern

namespace SqlSmell.Matcher

theorem startsWithToken_iff (token text : List Char) :
    startsWithToken token text = true ↔
      ∃ v, text = token ++ v ∧ (v = [] ∨ ∃ c v', v = c :: v' ∧
        (Text.isBlank c = true ∨ c = '(' ∨ c = ')' ∨ c = ',' ∨ c = ';')) := by
  unfold startsWithToken
  cases h : Text.afterStart? token text with
  | none =>
    constructor
    · simp
    · rintro ⟨v, rfl, -⟩
      simp [Text.afterStart?_append] at h
  | some v =>
    obtain rfl := Text.afterStart?_eq_some_iff.mp h
    cases v with
    | nil => simp
    | cons c v => simp [endsToken, or_assoc]

end SqlSmell.Matcher
