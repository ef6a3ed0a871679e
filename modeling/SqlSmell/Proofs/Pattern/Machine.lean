import SqlSmell.Proofs.Pattern.Matches

/- Runs of a compiled pattern. A program stands at an instruction and a place; `Step` is what one
   instruction can do there and `Steps` counts them. The code of a pattern leads from its first
   instruction to the one behind it exactly along the matches of the pattern: along every match
   (`steps_of_matches`) and along nothing else (`matches_of_steps`). So a program accepts where its
   pattern matches (`accepts_program_iff`). -/
namespace SqlSmell.Pattern

namespace Program

/-- What one instruction can do. -/
def Step (p : Program) (pc : Nat) (x : Place) (pc' : Nat) (x' : Place) : Prop :=
  match (p[pc]? : Option Instr) with
  | some (.consume s next) => pc' = next ∧ Matches (.set s) x x'
  | some (.require a next) => pc' = next ∧ Matches (.anchor a) x x'
  | some (.fork first second) => (pc' = first ∨ pc' = second) ∧ x' = x
  | some (.jump next) => pc' = next ∧ x' = x
  | some .accept => False
  | none => False

/-- The given number of steps. -/
inductive Steps (p : Program) : Nat → Nat → Place → Nat → Place → Prop
  | stop (pc : Nat) (x : Place) : Steps p 0 pc x pc x
  | more {n pc pc' pc'' : Nat} {x x' x'' : Place} :
      p.Step pc x pc' x' → Steps p n pc' x' pc'' x'' → Steps p (n + 1) pc x pc'' x''

/-- Some number of steps. -/
def Leads (p : Program) (pc : Nat) (x : Place) (pc' : Nat) (x' : Place) : Prop :=
  ∃ n, p.Steps n pc x pc' x'

section
variable {p : Program} {pc pc' pc'' : Nat} {x x' x'' : Place}

theorem Leads.refl (p : Program) (pc : Nat) (x : Place) : p.Leads pc x pc x := ⟨0, .stop pc x⟩

theorem Leads.head (h : p.Step pc x pc' x') (hs : p.Leads pc' x' pc'' x'') :
    p.Leads pc x pc'' x'' := by
  obtain ⟨n, hn⟩ := hs
  exact ⟨n + 1, .more h hn⟩

theorem Leads.trans (h : p.Leads pc x pc' x') (hs : p.Leads pc' x' pc'' x'') :
    p.Leads pc x pc'' x'' := by
  obtain ⟨n, hn⟩ := h
  induction hn with
  | stop => exact hs
  | more hstep _ ih => exact (ih hs).head hstep

theorem Leads.one (h : p.Step pc x pc' x') : p.Leads pc x pc' x' := (Leads.refl p pc' x').head h

/-- A run that ends elsewhere makes a first step. -/
theorem Steps.first {n : Nat} (h : p.Steps n pc x pc' x') (hne : pc' ≠ pc) :
    ∃ m q y, n = m + 1 ∧ p.Step pc x q y ∧ p.Steps m q y pc' x' := by
  cases h with
  | stop => contradiction
  | more hstep h => exact ⟨_, _, _, rfl, hstep, h⟩

theorem step_choose {greedy : Bool} {again next : Nat}
    (h : p[pc]? = some (Instr.choose greedy again next)) :
    p.Step pc x pc' x' ↔ (pc' = again ∨ pc' = next) ∧ x' = x := by
  cases greedy with
  | true => simp [Step, h, Instr.choose]
  | false => simp [Step, h, Instr.choose, or_comm]

end

/-! ## Code in a program -/

/-- The program holds the code from number `start` on. -/
def Holds (p : Program) (start : Nat) (code : List Instr) : Prop := code <+: p.toList.drop start

section
variable {p : Program} {start : Nat} {code more : List Instr} {i : Instr}

theorem Holds.left (h : p.Holds start (code ++ more)) : p.Holds start code :=
  (List.prefix_append code more).trans h

theorem Holds.right (h : p.Holds start (code ++ more)) : p.Holds (start + code.length) more := by
  obtain ⟨rest, hrest⟩ := h
  refine ⟨rest, ?_⟩
  rw [← List.drop_drop, ← hrest, List.append_assoc, List.drop_left]

theorem Holds.head (h : p.Holds start (i :: code)) : p[start]? = some i := by
  obtain ⟨rest, hrest⟩ := h
  have hfirst : (p.toList.drop start)[0]? = some i := by rw [← hrest]; rfl
  rw [List.getElem?_drop] at hfirst
  simpa using hfirst

theorem Holds.tail (h : p.Holds start (i :: code)) : p.Holds (start + 1) code := by
  have hcons : p.Holds start ([i] ++ code) := h
  exact hcons.right

end

end Program

/-! ## The length of code -/

theorem codeTimes_length {copy : Nat → Nat → List Instr} {length : Nat}
    (h : ∀ start next, (copy start next).length = length) (count start next : Nat) :
    (codeTimes copy length count start next).length = count * length + 1 := by
  induction count generalizing start with
  | zero => simp [codeTimes]
  | succ count ih => simp [codeTimes, h, ih, Nat.succ_mul]; omega

theorem codeUpTo_length {copy : Nat → Nat → List Instr} {length : Nat} {greedy : Bool}
    (h : ∀ start next, (copy start next).length = length) (count start next : Nat) :
    (codeUpTo copy length greedy count start next).length = count * (length + 1) + 1 := by
  induction count generalizing start with
  | zero => simp [codeUpTo]
  | succ count ih => simp [codeUpTo, h, ih, Nat.succ_mul]; omega

theorem code_length (r : Regex) (start next : Nat) : (r.code start next).length = r.size := by
  induction r generalizing start next with
  | empty | set | anchor => rfl
  | cat r s ihr ihs => simp [Regex.code, Regex.size, ihr, ihs]
  | alt r s ihr ihs => simp [Regex.code, Regex.size, ihr, ihs]
  | times r count ih => exact codeTimes_length ih count start next
  | upTo r count greedy ih => exact codeUpTo_length ih count start next
  | star r greedy ih =>
    cases h : r.consumes <;> simp [Regex.code, Regex.size, ih, h]
  | plus r greedy ih => simp [Regex.code, Regex.size, ih]

/-! ## Code follows every match -/

section
variable {p : Program} {r : Regex} {x y : Place}

/-- What the code of a pattern has to do: lead along every match. -/
def Follows (p : Program) (r : Regex) : Prop :=
  ∀ start next x y, p.Holds start (r.code start next) → Matches r x y → p.Leads start x next y

theorem follows_times (hr : Follows p r) {count start next : Nat}
    (hcode : p.Holds start (codeTimes r.code r.size count start next))
    (h : Matches (.times r count) x y) : p.Leads start x next y := by
  induction count generalizing start x with
  | zero =>
    cases h with
    | timesZero => exact .one (by simp [Program.Step, hcode.head])
  | succ count ih =>
    cases h with
    | timesMore hfirst hmore =>
      have hrest := hcode.right
      rw [code_length] at hrest
      exact (hr _ _ _ _ hcode.left hfirst).trans (ih hrest hmore)

theorem follows_upTo (hr : Follows p r) {count start next : Nat} {greedy : Bool}
    (hcode : p.Holds start (codeUpTo r.code r.size greedy count start next))
    (h : Matches (.upTo r count greedy) x y) : p.Leads start x next y := by
  induction count generalizing start x with
  | zero =>
    cases h with
    | upToStop => exact .one (by simp [Program.Step, hcode.head])
  | succ count ih =>
    have hchoose := hcode.head
    cases h with
    | upToStop => exact .one ((Program.step_choose hchoose).mpr ⟨.inr rfl, rfl⟩)
    | upToMore hfirst hmore =>
      have hrest := hcode.tail.right
      rw [code_length] at hrest
      refine .head ((Program.step_choose hchoose).mpr ⟨.inl rfl, rfl⟩) ?_
      exact (hr _ _ _ _ hcode.tail.left hfirst).trans (ih hrest hmore)

/-- A choice at the end of the loop's body follows any number of rounds. -/
theorem follows_loop {body again next : Nat} {greedy : Bool}
    (hbody : ∀ x y, Matches r x y → p.Leads body x again y)
    (hagain : p[again]? = some (.choose greedy body next))
    (h : Matches (.star r greedy) x y) : p.Leads again x next y := by
  generalize hs : Regex.star r greedy = s at h
  induction h with
  | starStop _ _ x => exact .one ((Program.step_choose hagain).mpr ⟨.inr rfl, rfl⟩)
  | starMore hfirst _ _ ih =>
    obtain ⟨rfl, rfl⟩ := Regex.star.inj hs
    refine .head ((Program.step_choose hagain).mpr ⟨.inl rfl, rfl⟩) ?_
    exact (hbody _ _ hfirst).trans (ih rfl)
  | _ => cases hs

theorem follows_star (hr : Follows p r) {start next : Nat} {greedy : Bool}
    (hcode : p.Holds start ((Regex.star r greedy).code start next))
    (h : Matches (.star r greedy) x y) : p.Leads start x next y := by
  rw [Regex.code] at hcode
  split at hcode
  · exact follows_loop (fun x y hm => hr _ _ x y hcode.tail hm) hcode.head h
  · -- the choice behind the body is the one before it once more
    have hagain := hcode.tail.right.head
    rw [code_length] at hagain
    cases h with
    | starStop => exact .one ((Program.step_choose hcode.head).mpr ⟨.inr rfl, rfl⟩)
    | starMore hfirst hmore =>
      refine .head ((Program.step_choose hcode.head).mpr ⟨.inl rfl, rfl⟩) ?_
      exact (hr _ _ _ _ hcode.tail.left hfirst).trans
        (follows_loop (fun x y hm => hr _ _ x y hcode.tail.left hm) hagain hmore)

theorem follows_plus (hr : Follows p r) {start next : Nat} {greedy : Bool}
    (hcode : p.Holds start ((Regex.plus r greedy).code start next))
    (h : Matches (.plus r greedy) x y) : p.Leads start x next y := by
  have hagain := hcode.right.head
  rw [code_length] at hagain
  cases h with
  | plus hfirst hmore =>
    exact (hr _ _ _ _ hcode.left hfirst).trans
      (follows_loop (fun x y hm => hr _ _ x y hcode.left hm) hagain hmore)

/-- The code of a pattern leads along every match. -/
theorem steps_of_matches (p : Program) (r : Regex) : Follows p r := by
  induction r with
  | empty =>
    intro start next x y hcode h
    cases h with
    | empty => exact .one (by simp [Program.Step, hcode.head])
  | set s =>
    intro start next x y hcode h
    exact .one (by simpa [Program.Step, hcode.head] using h)
  | anchor a =>
    intro start next x y hcode h
    exact .one (by simpa [Program.Step, hcode.head] using h)
  | cat r s ihr ihs =>
    intro start next x y hcode h
    obtain ⟨z, hr, hs⟩ := matches_cat_iff.mp h
    have hsecond := hcode.right
    rw [code_length] at hsecond
    exact (ihr _ _ _ _ hcode.left hr).trans (ihs _ _ _ _ hsecond hs)
  | alt r s ihr ihs =>
    intro start next x y hcode h
    have hsecond := hcode.tail.right
    rw [code_length] at hsecond
    rcases matches_alt_iff.mp h with hr | hs
    · exact .head (by simp [Program.Step, hcode.head])
        (ihr _ _ _ _ hcode.tail.left hr)
    · exact .head (by simp [Program.Step, hcode.head])
        (ihs _ _ _ _ hsecond hs)
  | times r count ih => exact fun _ _ _ _ => follows_times ih
  | upTo r count greedy ih => exact fun _ _ _ _ => follows_upTo ih
  | star r greedy ih => exact fun _ _ _ _ => follows_star ih
  | plus r greedy ih => exact fun _ _ _ _ => follows_plus ih

end

/-! ## Code follows nothing else -/

section
variable {p : Program} {r : Regex} {x z : Place} {n target : Nat}

/-- The number is not one of `size` from `start` on. -/
def Outside (start size target : Nat) : Prop := target < start ∨ start + size ≤ target

theorem Outside.within {start size a k : Nat} (h : Outside start size target)
    (ha : start ≤ a) (hk : a + k ≤ start + size) : Outside a k target := by
  unfold Outside at *
  omega

theorem Outside.ne {start size a : Nat} (h : Outside start size target)
    (ha : start ≤ a) (hk : a < start + size) : target ≠ a := by
  unfold Outside at h
  omega

/-- What the code of a pattern may do: a run that leaves it has matched the pattern and goes on
    behind it, with fewer steps left. -/
def Leaves (p : Program) (r : Regex) : Prop :=
  ∀ start next n x target z, p.Holds start (r.code start next) → Outside start r.size target →
    p.Steps n start x target z → ∃ y m, m < n ∧ Matches r x y ∧ p.Steps m next y target z

theorem leaves_times (hr : Leaves p r) {count start next : Nat}
    (hcode : p.Holds start (codeTimes r.code r.size count start next))
    (hout : Outside start (count * r.size + 1) target) (h : p.Steps n start x target z) :
    ∃ y m, m < n ∧ Matches (.times r count) x y ∧ p.Steps m next y target z := by
  induction count generalizing start n x with
  | zero =>
    obtain ⟨m, q, y, rfl, hstep, hsteps⟩ := h.first (hout.ne (by omega) (by omega))
    simp only [Program.Step, hcode.head] at hstep
    obtain ⟨rfl, rfl⟩ := hstep
    exact ⟨_, m, by omega, .timesZero r _, hsteps⟩
  | succ count ih =>
    rw [Nat.succ_mul] at hout
    have hrest := hcode.right
    rw [code_length] at hrest
    obtain ⟨y, m, hm, hfirst, hsteps⟩ :=
      hr _ _ _ _ _ _ hcode.left (hout.within (by omega) (by omega)) h
    obtain ⟨u, k, hk, hmore, hsteps⟩ := ih hrest (hout.within (by omega) (by omega)) hsteps
    exact ⟨u, k, by omega, .timesMore hfirst hmore, hsteps⟩

theorem leaves_upTo (hr : Leaves p r) {count start next : Nat} {greedy : Bool}
    (hcode : p.Holds start (codeUpTo r.code r.size greedy count start next))
    (hout : Outside start (count * (r.size + 1) + 1) target) (h : p.Steps n start x target z) :
    ∃ y m, m < n ∧ Matches (.upTo r count greedy) x y ∧ p.Steps m next y target z := by
  induction count generalizing start n x with
  | zero =>
    obtain ⟨m, q, y, rfl, hstep, hsteps⟩ := h.first (hout.ne (by omega) (by omega))
    simp only [Program.Step, hcode.head] at hstep
    obtain ⟨rfl, rfl⟩ := hstep
    exact ⟨_, m, by omega, .upToStop r 0 greedy _, hsteps⟩
  | succ count ih =>
    rw [Nat.succ_mul] at hout
    have hrest := hcode.tail.right
    rw [code_length] at hrest
    obtain ⟨m, q, y, rfl, hstep, hsteps⟩ := h.first (hout.ne (by omega) (by omega))
    obtain ⟨rfl | rfl, rfl⟩ := (Program.step_choose hcode.head).mp hstep
    · obtain ⟨y, k, hk, hfirst, hsteps⟩ :=
        hr _ _ _ _ _ _ hcode.tail.left (hout.within (by omega) (by omega)) hsteps
      obtain ⟨u, l, hl, hmore, hsteps⟩ := ih hrest (hout.within (by omega) (by omega)) hsteps
      exact ⟨u, l, by omega, .upToMore hfirst hmore, hsteps⟩
    · exact ⟨_, m, by omega, .upToStop r _ greedy _, hsteps⟩

/-- A run that leaves a loop has made some rounds. By induction on the steps left, since a round
    may match the empty text. -/
theorem leaves_loop {body again next : Nat} {greedy : Bool}
    (hbody : ∀ n x, p.Steps n body x target z →
      ∃ y m, m < n ∧ Matches r x y ∧ p.Steps m again y target z)
    (hagain : p[again]? = some (.choose greedy body next)) (hne : target ≠ again)
    (h : p.Steps n again x target z) :
    ∃ y m, m < n ∧ Matches (.star r greedy) x y ∧ p.Steps m next y target z := by
  induction n using Nat.strongRecOn generalizing x with
  | ind n ih =>
    obtain ⟨m, q, y, rfl, hstep, hsteps⟩ := h.first hne
    obtain ⟨rfl | rfl, rfl⟩ := (Program.step_choose hagain).mp hstep
    · obtain ⟨y, k, hk, hfirst, hsteps⟩ := hbody m _ hsteps
      obtain ⟨u, l, hl, hmore, hsteps⟩ := ih k (by omega) hsteps
      exact ⟨u, l, by omega, .starMore hfirst hmore, hsteps⟩
    · exact ⟨_, m, by omega, .starStop r greedy _, hsteps⟩

theorem leaves_star (hr : Leaves p r) {start next : Nat} {greedy : Bool}
    (hcode : p.Holds start ((Regex.star r greedy).code start next))
    (hout : Outside start (Regex.star r greedy).size target) (h : p.Steps n start x target z) :
    ∃ y m, m < n ∧ Matches (.star r greedy) x y ∧ p.Steps m next y target z := by
  rw [Regex.code] at hcode
  rw [Regex.size] at hout
  split at hcode
  · next hconsumes =>
    rw [if_pos hconsumes] at hout
    refine leaves_loop ?_ hcode.head (hout.ne (by omega) (by omega)) h
    intro n x hsteps
    exact hr _ _ _ _ _ _ hcode.tail (hout.within (by omega) (by omega)) hsteps
  · next hconsumes =>
    rw [if_neg hconsumes] at hout
    -- here the loop turns at the choice behind the body, and the first one is only an entrance
    have hagain := hcode.tail.right.head
    rw [code_length] at hagain
    have hbody : ∀ n x, p.Steps n (start + 1) x target z →
        ∃ y m, m < n ∧ Matches r x y ∧ p.Steps m (start + 1 + r.size) y target z :=
      fun n x hsteps =>
        hr _ _ _ _ _ _ hcode.tail.left (hout.within (by omega) (by omega)) hsteps
    obtain ⟨m, q, y, rfl, hstep, hsteps⟩ := h.first (hout.ne (by omega) (by omega))
    obtain ⟨rfl | rfl, rfl⟩ := (Program.step_choose hcode.head).mp hstep
    · obtain ⟨y, k, hk, hfirst, hsteps⟩ := hbody m _ hsteps
      obtain ⟨u, l, hl, hmore, hsteps⟩ :=
        leaves_loop hbody hagain (hout.ne (by omega) (by omega)) hsteps
      exact ⟨u, l, by omega, .starMore hfirst hmore, hsteps⟩
    · exact ⟨_, m, by omega, .starStop r greedy _, hsteps⟩

theorem leaves_plus (hr : Leaves p r) {start next : Nat} {greedy : Bool}
    (hcode : p.Holds start ((Regex.plus r greedy).code start next))
    (hout : Outside start (Regex.plus r greedy).size target) (h : p.Steps n start x target z) :
    ∃ y m, m < n ∧ Matches (.plus r greedy) x y ∧ p.Steps m next y target z := by
  rw [Regex.size] at hout
  have hagain := hcode.right.head
  rw [code_length] at hagain
  have hbody : ∀ n x, p.Steps n start x target z →
      ∃ y m, m < n ∧ Matches r x y ∧ p.Steps m (start + r.size) y target z :=
    fun n x hsteps => hr _ _ _ _ _ _ hcode.left (hout.within (by omega) (by omega)) hsteps
  obtain ⟨y, k, hk, hfirst, hsteps⟩ := hbody n x h
  obtain ⟨u, l, hl, hmore, hsteps⟩ :=
    leaves_loop hbody hagain (hout.ne (by omega) (by omega)) hsteps
  exact ⟨u, l, by omega, .plus hfirst hmore, hsteps⟩

/-- A run leaves the code of a pattern only along a match. -/
theorem matches_of_steps (p : Program) (r : Regex) : Leaves p r := by
  induction r with
  | empty =>
    intro start next n x target z hcode hout h
    obtain ⟨m, q, y, rfl, hstep, hsteps⟩ := h.first (hout.ne (by omega) (by simp [Regex.size]))
    simp only [Program.Step, hcode.head] at hstep
    obtain ⟨rfl, rfl⟩ := hstep
    exact ⟨_, m, by omega, .empty _, hsteps⟩
  | set s =>
    intro start next n x target z hcode hout h
    obtain ⟨m, q, y, rfl, hstep, hsteps⟩ := h.first (hout.ne (by omega) (by simp [Regex.size]))
    simp only [Program.Step, hcode.head] at hstep
    obtain ⟨rfl, hmatch⟩ := hstep
    exact ⟨y, m, by omega, hmatch, hsteps⟩
  | anchor a =>
    intro start next n x target z hcode hout h
    obtain ⟨m, q, y, rfl, hstep, hsteps⟩ := h.first (hout.ne (by omega) (by simp [Regex.size]))
    simp only [Program.Step, hcode.head] at hstep
    obtain ⟨rfl, hmatch⟩ := hstep
    exact ⟨y, m, by omega, hmatch, hsteps⟩
  | cat r s ihr ihs =>
    intro start next n x target z hcode hout h
    rw [Regex.size] at hout
    have hsecond := hcode.right
    rw [code_length] at hsecond
    obtain ⟨y, m, hm, hr, hsteps⟩ :=
      ihr _ _ _ _ _ _ hcode.left (hout.within (by omega) (by omega)) h
    obtain ⟨u, k, hk, hs, hsteps⟩ :=
      ihs _ _ _ _ _ _ hsecond (hout.within (by omega) (by omega)) hsteps
    exact ⟨u, k, by omega, .cat hr hs, hsteps⟩
  | alt r s ihr ihs =>
    intro start next n x target z hcode hout h
    rw [Regex.size] at hout
    have hsecond := hcode.tail.right
    rw [code_length] at hsecond
    obtain ⟨m, q, y, rfl, hstep, hsteps⟩ := h.first (hout.ne (by omega) (by omega))
    simp only [Program.Step, hcode.head] at hstep
    obtain ⟨rfl | rfl, rfl⟩ := hstep
    · obtain ⟨u, k, hk, hr, hsteps⟩ :=
        ihr _ _ _ _ _ _ hcode.tail.left (hout.within (by omega) (by omega)) hsteps
      exact ⟨u, k, by omega, .altFirst hr, hsteps⟩
    · obtain ⟨u, k, hk, hs, hsteps⟩ :=
        ihs _ _ _ _ _ _ hsecond (hout.within (by omega) (by omega)) hsteps
      exact ⟨u, k, by omega, .altSecond hs, hsteps⟩
  | times r count ih =>
    intro start next n x target z hcode hout h
    exact leaves_times ih hcode hout h
  | upTo r count greedy ih =>
    intro start next n x target z hcode hout h
    exact leaves_upTo ih hcode hout h
  | star r greedy ih =>
    intro start next n x target z hcode hout h
    exact leaves_star ih hcode hout h
  | plus r greedy ih =>
    intro start next n x target z hcode hout h
    exact leaves_plus ih hcode hout h

end

/-! ## Acceptance -/

/-- The program can get from an instruction and a place to acceptance at another place. -/
def Program.Accepts (p : Program) (pc : Nat) (x y : Place) : Prop :=
  ∃ goal, p[goal]? = some .accept ∧ p.Leads pc x goal y

theorem accept_notMem_codeTimes {copy : Nat → Nat → List Instr} {length : Nat}
    (h : ∀ start next, Instr.accept ∉ copy start next) (count start next : Nat) :
    Instr.accept ∉ codeTimes copy length count start next := by
  induction count generalizing start with
  | zero => simp [codeTimes]
  | succ count ih => simp [codeTimes, h, ih]

theorem accept_ne_choose (greedy : Bool) (again next : Nat) :
    Instr.accept ≠ .choose greedy again next := by
  cases greedy <;> simp [Instr.choose]

theorem accept_notMem_codeUpTo {copy : Nat → Nat → List Instr} {length : Nat} {greedy : Bool}
    (h : ∀ start next, Instr.accept ∉ copy start next) (count start next : Nat) :
    Instr.accept ∉ codeUpTo copy length greedy count start next := by
  induction count generalizing start with
  | zero => simp [codeUpTo]
  | succ count ih => simp [codeUpTo, h, ih, accept_ne_choose]

theorem accept_notMem_code (r : Regex) (start next : Nat) : Instr.accept ∉ r.code start next := by
  induction r generalizing start next with
  | empty | set | anchor => simp [Regex.code]
  | cat r s ihr ihs => simp [Regex.code, ihr, ihs]
  | alt r s ihr ihs => simp [Regex.code, ihr, ihs]
  | times r count ih => exact accept_notMem_codeTimes ih count start next
  | upTo r count greedy ih => exact accept_notMem_codeUpTo ih count start next
  | star r greedy ih =>
    cases h : r.consumes <;> simp [Regex.code, ih, h, accept_ne_choose]
  | plus r greedy ih => simp [Regex.code, ih, accept_ne_choose]

theorem program_holds (r : Regex) :
    r.program.Holds 0 (r.code 0 r.size) ∧ r.program[r.size]? = some .accept := by
  have hall : r.program.Holds 0 (r.code 0 r.size ++ [.accept]) := by
    simp [Program.Holds, Regex.program]
  refine ⟨hall.left, ?_⟩
  have haccept := hall.right.head
  rwa [code_length, Nat.zero_add] at haccept

theorem accept_outside {r : Regex} {goal : Nat} (h : r.program[goal]? = some .accept) :
    Outside 0 r.size goal := by
  refine .inr (Nat.le_of_not_lt fun hlt => ?_)
  have hcode : (r.code 0 r.size ++ [Instr.accept])[goal]? = some .accept := by
    simpa [Regex.program] using h
  rw [List.getElem?_append_left (by rw [code_length]; omega)] at hcode
  exact accept_notMem_code r 0 r.size (List.mem_of_getElem? hcode)

/-- A program accepts exactly along the matches of its pattern. -/
theorem accepts_program_iff (r : Regex) (x y : Place) :
    r.program.Accepts 0 x y ↔ Matches r x y := by
  obtain ⟨hcode, haccept⟩ := program_holds r
  -- acceptance stands behind the code and goes nowhere
  constructor
  · rintro ⟨goal, hgoal, n, hsteps⟩
    obtain ⟨u, m, _, hmatch, hsteps⟩ :=
      matches_of_steps r.program r 0 r.size n x goal y hcode (accept_outside hgoal) hsteps
    cases hsteps with
    | stop => exact hmatch
    | more hstep => simp [Program.Step, haccept] at hstep
  · intro h
    exact ⟨r.size, haccept, steps_of_matches r.program r 0 r.size x y hcode h⟩

end SqlSmell.Pattern
