import Mathlib.Data.Finset.Card
import Mathlib.Data.List.TakeWhile
import Mathlib.Logic.Relation
import SqlSmell.Proofs.Pattern.Machine

/- The search for a match. `follow` is a depth-first walk over the instructions that take no character;
   with enough fuel it meets exactly those that can be reached (`mem_reach_iff`), whatever loops the
   program has. A run over the text then finds a match exactly if some instruction it starts from
   can accept (`run_isSome_iff`), although it drops what is less preferred than a match. Together with the
   code of patterns this settles the search: a pattern is found in a text exactly if it matches from
   some place of it (`isFound_program_iff`). -/
namespace SqlSmell.Pattern

namespace Program

/-! ## The walk without characters -/

/-- The numbers that may follow an instruction without a character being taken. -/
def successors (p : Program) (around : Around) (pc : Nat) : List Nat :=
  match (p[pc]? : Option Instr) with
  | some (.require a next) => if a.holds around then [next] else []
  | some (.fork first second) => [first, second]
  | some (.jump next) => [next]
  | _ => []

/-- Does the instruction take a character or accept? -/
def isReady (p : Program) (pc : Nat) : Bool :=
  match (p[pc]? : Option Instr) with
  | some .accept => true
  | some (.consume _ _) => true
  | _ => false

/-- The front with one more number met. -/
def Front.meet (p : Program) (front : Front) (pc : Nat) : Front where
  seen := pc :: front.seen
  ready := if p.isReady pc then pc :: front.ready else front.ready

/-- The second instruction is reached from the first without a character being taken. -/
def Free (p : Program) (around : Around) : Nat → Nat → Prop :=
  Relation.ReflTransGen fun pc next => next ∈ p.successors around pc

section
variable {p : Program} {around : Around}

theorem follow_succ (fuel pc : Nat) (front : Front) :
    follow p around (fuel + 1) pc front =
      if front.seen.contains pc then front
      else (p.successors around pc).foldl (fun front next => follow p around fuel next front)
        (front.meet p pc) := by
  rw [follow]
  split
  · rfl
  · cases h : (p[pc]? : Option Instr) with
    | none => simp [successors, Front.meet, isReady, h]
    | some i =>
      cases i with
      | require a next =>
        cases ha : a.holds around <;> simp [successors, Front.meet, isReady, h, ha]
      | _ => simp [successors, Front.meet, isReady, h]

/-- What a walk from some numbers does to the front: it meets them and what is reached from them,
    and leaves no successor of a number it has met unmet. -/
structure Visit (p : Program) (around : Around) (starts : List Nat) (f g : Front) : Prop where
  mono : ∀ pc ∈ f.seen, pc ∈ g.seen
  starts_seen : ∀ pc ∈ starts, pc ∈ g.seen
  closed : ∀ pc ∈ g.seen, pc ∈ f.seen ∨ ∀ next ∈ p.successors around pc, next ∈ g.seen
  reached : ∀ pc ∈ g.seen, pc ∈ f.seen ∨ ∃ start ∈ starts, p.Free around start pc
  ready : (∀ pc, pc ∈ f.ready ↔ pc ∈ f.seen ∧ p.isReady pc = true) →
    ∀ pc, pc ∈ g.ready ↔ pc ∈ g.seen ∧ p.isReady pc = true

theorem Visit.refl (f : Front) {starts : List Nat} (h : ∀ pc ∈ starts, pc ∈ f.seen) :
    Visit p around starts f f where
  mono _ hpc := hpc
  starts_seen := h
  closed _ hpc := .inl hpc
  reached _ hpc := .inl hpc
  ready h := h

theorem Visit.trans {starts more : List Nat} {f g h : Front} (hfg : Visit p around starts f g)
    (hgh : Visit p around more g h) : Visit p around (starts ++ more) f h where
  mono pc hpc := hgh.mono pc (hfg.mono pc hpc)
  starts_seen pc hpc := by
    rcases List.mem_append.mp hpc with hpc | hpc
    · exact hgh.mono pc (hfg.starts_seen pc hpc)
    · exact hgh.starts_seen pc hpc
  closed pc hpc := by
    rcases hgh.closed pc hpc with hpc | hnext
    · rcases hfg.closed pc hpc with hpc | hnext
      · exact .inl hpc
      · exact .inr fun next hn => hgh.mono next (hnext next hn)
    · exact .inr hnext
  reached pc hpc := by
    rcases hgh.reached pc hpc with hpc | ⟨start, hstart, hfree⟩
    · rcases hfg.reached pc hpc with hpc | ⟨start, hstart, hfree⟩
      · exact .inl hpc
      · exact .inr ⟨start, List.mem_append_left more hstart, hfree⟩
    · exact .inr ⟨start, List.mem_append_right starts hstart, hfree⟩
  ready hf := hgh.ready (hfg.ready hf)

/-- Meeting a number and then walking from its successors is a walk from that number. -/
theorem Visit.meet {pc : Nat} {f g : Front}
    (h : Visit p around (p.successors around pc) (f.meet p pc) g) : Visit p around [pc] f g where
  mono q hq := h.mono q (List.mem_cons_of_mem pc hq)
  starts_seen q hq := by
    rw [List.mem_singleton.mp hq]
    exact h.mono pc List.mem_cons_self
  closed q hq := by
    rcases h.closed q hq with hq | hnext
    · rcases List.mem_cons.mp hq with rfl | hq
      · exact .inr h.starts_seen
      · exact .inl hq
    · exact .inr hnext
  reached q hq := by
    rcases h.reached q hq with hq | ⟨start, hstart, hfree⟩
    · rcases List.mem_cons.mp hq with rfl | hq
      · exact .inr ⟨q, List.mem_singleton_self q, .refl⟩
      · exact .inl hq
    · exact .inr ⟨pc, List.mem_singleton_self pc, hfree.head hstart⟩
  ready hf := by
    refine h.ready fun q => ?_
    cases hpc : p.isReady pc with
    | true =>
      simp only [Front.meet, hpc, if_true, List.mem_cons, hf q]
      constructor
      · rintro (rfl | ⟨hq, hready⟩)
        · exact ⟨.inl rfl, hpc⟩
        · exact ⟨.inr hq, hready⟩
      · rintro ⟨rfl | hq, hready⟩
        · exact .inl rfl
        · exact .inr ⟨hq, hready⟩
    | false =>
      simp only [Front.meet, hpc, Bool.false_eq_true, if_false, List.mem_cons, hf q]
      constructor
      · rintro ⟨hq, hready⟩
        exact ⟨.inr hq, hready⟩
      · rintro ⟨rfl | hq, hready⟩
        · rw [hpc] at hready
          contradiction
        · exact ⟨hq, hready⟩

/-- The numbers of instructions that have not been met. -/
def unmet (p : Program) (front : Front) : Finset Nat :=
  (Finset.range p.size).filter (· ∉ front.seen)

theorem Visit.unmet_subset {starts : List Nat} {f g : Front} (h : Visit p around starts f g) :
    p.unmet g ⊆ p.unmet f := by
  intro pc hpc
  simp only [unmet, Finset.mem_filter] at hpc ⊢
  exact ⟨hpc.1, fun hseen => hpc.2 (h.mono pc hseen)⟩

theorem unmet_meet_lt {pc : Nat} {front : Front} (hpc : pc < p.size) (hnew : pc ∉ front.seen) :
    (p.unmet (front.meet p pc)).card < (p.unmet front).card := by
  apply Finset.card_lt_card
  refine ⟨fun q hq => ?_, fun hsub => ?_⟩
  · simp only [unmet, Finset.mem_filter, Front.meet, List.mem_cons, not_or] at hq ⊢
    exact ⟨hq.1, hq.2.2⟩
  · have hmem : pc ∈ p.unmet (front.meet p pc) :=
      hsub (by simp [unmet, hpc, hnew])
    simp [unmet, Front.meet] at hmem

theorem successors_of_size_le {pc : Nat} (h : p.size ≤ pc) : p.successors around pc = [] := by
  simp [successors, Array.getElem?_eq_none h]

/-- Several walks with enough fuel are one walk from all the numbers. -/
theorem visit_foldl {fuel : Nat}
    (hfollow : ∀ pc front, (p.unmet front).card < fuel →
      Visit p around [pc] front (follow p around fuel pc front))
    (starts : List Nat) (front : Front) (hfuel : (p.unmet front).card < fuel) :
    Visit p around starts front
      (starts.foldl (fun front pc => follow p around fuel pc front) front) := by
  induction starts generalizing front with
  | nil => exact .refl front (by simp)
  | cons pc starts ih =>
    have hpc := hfollow pc front hfuel
    have hless := Finset.card_le_card hpc.unmet_subset
    exact hpc.trans (ih _ (by omega))

/-- With more fuel than there are unmet instructions, the walk is complete. -/
theorem visit_follow (fuel : Nat) : ∀ pc front, (p.unmet front).card < fuel →
    Visit p around [pc] front (follow p around fuel pc front) := by
  induction fuel with
  | zero => intro pc front hfuel; omega
  | succ fuel ih =>
    intro pc front hfuel
    rw [follow_succ]
    split
    · next hseen => exact .refl front (by simpa using hseen)
    · next hnew =>
      have hnew : pc ∉ front.seen := by simpa using hnew
      apply Visit.meet
      -- a number beyond the program is met for nothing, but has no successors to spend fuel on
      by_cases hpc : pc < p.size
      · have hless := unmet_meet_lt hpc hnew
        exact visit_foldl ih _ _ (by omega)
      · rw [successors_of_size_le (Nat.le_of_not_lt hpc)]
        exact .refl _ (by simp)

theorem unmet_card_le (front : Front) : (p.unmet front).card ≤ p.size := by
  have hle := Finset.card_le_card (Finset.filter_subset (· ∉ front.seen) (Finset.range p.size))
  rwa [Finset.card_range] at hle

/-- A walk from the empty front meets exactly the numbers that are reached. -/
theorem Visit.mem_seen_iff {starts : List Nat} {g : Front} (h : Visit p around starts .empty g)
    (pc : Nat) : pc ∈ g.seen ↔ ∃ start ∈ starts, p.Free around start pc := by
  constructor
  · intro hpc
    rcases h.reached pc hpc with hpc | hreached
    · simp [Front.empty] at hpc
    · exact hreached
  · rintro ⟨start, hstart, hfree⟩
    induction hfree with
    | refl => exact h.starts_seen start hstart
    | tail _ hnext ih =>
      rcases h.closed _ ih with hpc | hclosed
      · simp [Front.empty] at hpc
      · exact hclosed _ hnext

/-- The walk finds exactly the instructions that take a character or accept and are reached. -/
theorem mem_reach_iff (starts : List Nat) (pc : Nat) :
    pc ∈ p.reach around starts ↔
      p.isReady pc = true ∧ ∃ start ∈ starts, p.Free around start pc := by
  have hvisit : Visit p around starts .empty
      (starts.foldl (fun front pc => follow p around (p.size + 1) pc front) .empty) :=
    visit_foldl (visit_follow (p.size + 1)) starts .empty
      (Nat.lt_succ_of_le (unmet_card_le .empty))
  rw [reach, List.mem_reverse, hvisit.ready (by simp [Front.empty]) pc, hvisit.mem_seen_iff,
    and_comm]

end

/-! ## Runs over the text -/

section
variable {p : Program} {x y : Place}

/-- A step either stays at its place or takes a character. -/
theorem step_iff {pc pc' : Nat} : p.Step pc x pc' y ↔
    (pc' ∈ p.successors x.around pc ∧ y = x) ∨
      ∃ s, p[pc]? = some (.consume s pc') ∧ Matches (.set s) x y := by
  unfold Step successors
  cases (p[pc]? : Option Instr) with
  | none => simp
  | some i =>
    cases i with
    | accept => simp
    | consume s next => simp [eq_comm, and_comm]
    | require a next =>
      cases ha : a.holds x.around <;> simp [matches_anchor_iff, ha]
    | fork first second => simp
    | jump next => simp

theorem leads_of_free {pc pc' : Nat} (h : p.Free x.around pc pc') : p.Leads pc x pc' x := by
  induction h with
  | refl => exact .refl p pc x
  | tail _ hnext ih => exact ih.trans (.one (step_iff.mpr (.inl ⟨hnext, rfl⟩)))

/-- Acceptance begins with a walk that takes no character; at its end the program accepts, or
    takes a character and goes on. -/
theorem accepts_iff {pc : Nat} : p.Accepts pc x y ↔
    ∃ q, p.Free x.around pc q ∧
      ((p[q]? = some .accept ∧ y = x) ∨
        ∃ s next z, p[q]? = some (.consume s next) ∧ Matches (.set s) x z ∧
          p.Accepts next z y) := by
  constructor
  · rintro ⟨goal, hgoal, n, hsteps⟩
    induction hsteps with
    | stop pc x => exact ⟨pc, .refl, .inl ⟨hgoal, rfl⟩⟩
    | more hstep hsteps ih =>
      rcases step_iff.mp hstep with ⟨hnext, rfl⟩ | ⟨s, hs, hmatch⟩
      · obtain ⟨q, hfree, hq⟩ := ih hgoal
        exact ⟨q, hfree.head hnext, hq⟩
      · exact ⟨_, .refl, .inr ⟨s, _, _, hs, hmatch, _, hgoal, _, hsteps⟩⟩
  · rintro ⟨q, hfree, ⟨haccept, rfl⟩ | ⟨s, next, z, hs, hmatch, goal, hgoal, hleads⟩⟩
    · exact ⟨q, haccept, leads_of_free hfree⟩
    · exact ⟨goal, hgoal, (leads_of_free hfree).trans
        (hleads.head (step_iff.mpr (.inr ⟨s, hs, hmatch⟩)))⟩

theorem reach_any_accepts (starts : List Nat) (x : Place) :
    (p.reach x.around starts).any p.accepts = true ↔
      ∃ start ∈ starts, ∃ q, p.Free x.around start q ∧ p[q]? = some .accept := by
  simp only [List.any_eq_true, mem_reach_iff, accepts, beq_iff_eq]
  constructor
  · rintro ⟨q, ⟨_, start, hstart, hfree⟩, haccept⟩
    exact ⟨start, hstart, q, hfree, haccept⟩
  · rintro ⟨start, hstart, q, hfree, haccept⟩
    exact ⟨q, ⟨by simp [isReady, haccept], start, hstart, hfree⟩, haccept⟩

/-- A run that accepts where it stands does so from one of its starts. -/
theorem accepts_of_any {starts : List Nat} {x : Place}
    (h : (p.reach x.around starts).any p.accepts = true) :
    ∃ start ∈ starts, p.Accepts start x x := by
  obtain ⟨start, hstart, q, hfree, haccept⟩ := (reach_any_accepts starts x).mp h
  exact ⟨start, hstart, accepts_iff.mpr ⟨q, hfree, .inl ⟨haccept, rfl⟩⟩⟩

theorem mem_consume_iff {c : Char} {ready : List Nat} {next : Nat} :
    next ∈ p.consume c ready ↔
      ∃ q ∈ ready, ∃ s, p[q]? = some (.consume s next) ∧ s.contains c = true := by
  simp only [consume, List.mem_filterMap]
  refine exists_congr fun q => and_congr_right fun _ => ?_
  cases (p[q]? : Option Instr) with
  | none => simp
  | some i =>
    cases i with
    | consume s n => by_cases hc : s.contains c = true <;> simp [hc]
    | _ => simp

theorem run_nil_starts (before : Option Char) (taken : Nat) (best : Option Match)
    (text : List Char) : p.run [] before taken best text = best := by
  cases text with
  | nil => simp [run, reach, Front.empty]
  | cons c text => simp [run, reach, Front.empty, consume]

theorem run_cons (starts : List Nat) (before : Option Char) (taken : Nat) (best : Option Match)
    (c : Char) (text : List Char) :
    p.run starts before taken best (c :: text) =
      p.run (p.consume c ((p.reach ⟨before, some c⟩ starts).takeWhile fun pc => !p.accepts pc))
        (some c) (taken + 1)
        (if (p.reach ⟨before, some c⟩ starts).any p.accepts then some ⟨taken, c :: text⟩ else best)
        text := by
  rw [run]
  split
  · next h => rw [h, run_nil_starts]
  · rfl

/-- What accepts behind the next character accepts before it. -/
theorem accepts_of_consume {starts : List Nat} {before : Option Char} {c : Char} {text : List Char}
    {next : Nat} {y : Place} (h : next ∈ p.consume c (p.reach ⟨before, some c⟩ starts))
    (hy : p.Accepts next ⟨some c, text⟩ y) :
    ∃ start ∈ starts, p.Accepts start ⟨before, c :: text⟩ y := by
  obtain ⟨q, hq, s, hs, hc⟩ := mem_consume_iff.mp h
  obtain ⟨-, start, hstart, hfree⟩ := (mem_reach_iff starts q).mp hq
  exact ⟨start, hstart,
    accepts_iff.mpr ⟨q, hfree, .inr ⟨s, next, _, hs, .set hc before text, hy⟩⟩⟩

/-- Where nothing accepts at once, acceptance goes through the next character. -/
theorem accepts_cons_iff {starts : List Nat} {before : Option Char} {c : Char} {text : List Char}
    (h : (p.reach ⟨before, some c⟩ starts).any p.accepts = false) :
    (∃ start ∈ starts, ∃ y, p.Accepts start ⟨before, c :: text⟩ y) ↔
      ∃ next ∈ p.consume c (p.reach ⟨before, some c⟩ starts), ∃ y,
        p.Accepts next ⟨some c, text⟩ y := by
  constructor
  · rintro ⟨start, hstart, y, hy⟩
    obtain ⟨q, hfree, ⟨haccept, -⟩ | ⟨s, next, z, hs, hmatch, hy⟩⟩ := accepts_iff.mp hy
    · have hany := (reach_any_accepts starts ⟨before, c :: text⟩).mpr
        ⟨start, hstart, q, hfree, haccept⟩
      rw [show (⟨before, c :: text⟩ : Place).around = ⟨before, some c⟩ from rfl, h] at hany
      contradiction
    · obtain ⟨_, _, ⟨⟩, hc, rfl⟩ := matches_set_iff.mp hmatch
      refine ⟨next, mem_consume_iff.mpr ⟨q, ?_, s, hs, hc⟩, y, hy⟩
      exact (mem_reach_iff starts q).mpr ⟨by simp [isReady, hs], start, hstart, hfree⟩
  · rintro ⟨next, hnext, y, hy⟩
    obtain ⟨start, hstart, hy⟩ := accepts_of_consume hnext hy
    exact ⟨start, hstart, y, hy⟩

/-- A run gives a match exactly if it had one or can come to accept. What it drops at a match is
    dropped for that match. -/
theorem run_isSome_iff (starts : List Nat) (before : Option Char) (taken : Nat)
    (best : Option Match) (text : List Char) :
    (p.run starts before taken best text).isSome = true ↔
      best.isSome = true ∨ ∃ start ∈ starts, ∃ y, p.Accepts start ⟨before, text⟩ y := by
  induction text generalizing starts before taken best with
  | nil =>
    have hany := reach_any_accepts (p := p) starts ⟨before, []⟩
    rw [run]
    split
    · next h =>
      obtain ⟨start, hstart, haccepts⟩ := accepts_of_any (x := ⟨before, []⟩) h
      simp only [Option.isSome_some, true_iff]
      exact .inr ⟨start, hstart, _, haccepts⟩
    · next h =>
      refine ⟨.inl, ?_⟩
      rintro (hbest | ⟨start, hstart, y, hy⟩)
      · exact hbest
      · obtain ⟨q, hfree, ⟨haccept, -⟩ | ⟨s, next, z, -, hmatch, -⟩⟩ := accepts_iff.mp hy
        · exact absurd (hany.mpr ⟨start, hstart, q, hfree, haccept⟩) h
        · obtain ⟨_, _, ⟨⟩, -⟩ := matches_set_iff.mp hmatch
  | cons c text ih =>
    rw [run_cons, ih]
    cases h : (p.reach ⟨before, some c⟩ starts).any p.accepts with
    | true =>
      -- there is a match already, whatever becomes of the rest
      obtain ⟨start, hstart, haccepts⟩ := accepts_of_any (x := ⟨before, c :: text⟩) h
      simp only [if_true, Option.isSome_some, true_or, true_iff]
      exact .inr ⟨start, hstart, _, haccepts⟩
    | false =>
      -- nothing accepts, so nothing is dropped
      have hall : (p.reach ⟨before, some c⟩ starts).takeWhile (fun pc => !p.accepts pc) =
          p.reach ⟨before, some c⟩ starts := by
        rw [List.takeWhile_eq_self_iff]
        intro q hq
        simpa using List.any_eq_false.mp h q hq
      rw [hall, accepts_cons_iff h]
      rfl

theorem matchHere?_isSome_iff (before : Option Char) (text : List Char) :
    (p.matchHere? before text).isSome = true ↔ ∃ y, p.Accepts 0 ⟨before, text⟩ y := by
  rw [matchHere?, run_isSome_iff]
  simp

theorem foundFrom_iff (x : Place) :
    p.foundFrom x.before x.text = true ↔
      ∃ u t y, x.text = u ++ t ∧ p.Accepts 0 (x.behind u t) y := by
  obtain ⟨before, text⟩ := x
  induction text generalizing before with
  | nil =>
    rw [foundFrom, matchHere?_isSome_iff]
    constructor
    · rintro ⟨y, hy⟩
      exact ⟨[], [], y, rfl, hy⟩
    · rintro ⟨u, t, y, htext, hy⟩
      obtain ⟨rfl, rfl⟩ := List.append_eq_nil_iff.mp htext.symm
      exact ⟨y, hy⟩
  | cons c text ih =>
    rw [foundFrom, Bool.or_eq_true, matchHere?_isSome_iff, ih]
    constructor
    · rintro (⟨y, hy⟩ | ⟨u, t, y, htext, hy⟩)
      · exact ⟨[], c :: text, y, rfl, hy⟩
      · have htext : text = u ++ t := htext
        subst htext
        exact ⟨c :: u, t, y, rfl, by rwa [Place.behind_cons]⟩
    · rintro ⟨u, t, y, htext, hy⟩
      cases u with
      | nil =>
        have htext : c :: text = t := htext
        subst htext
        exact .inl ⟨y, hy⟩
      | cons d u =>
        obtain ⟨rfl, rfl⟩ := List.cons.inj htext
        rw [Place.behind_cons] at hy
        exact .inr ⟨u, t, y, rfl, hy⟩

end

end Program

/-- A pattern is found in a text exactly if it matches from some place of it. -/
theorem isFound_program_iff (r : Regex) (text : List Char) :
    r.program.isFound text = true ↔ ∃ u t y, text = u ++ t ∧ Matches r ⟨u.getLast?, t⟩ y := by
  rw [Program.isFound, Program.foundFrom_iff ⟨none, text⟩]
  simp only [accepts_program_iff, Place.behind, Option.or_none]

end SqlSmell.Pattern
