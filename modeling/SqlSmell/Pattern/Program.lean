import SqlSmell.Pattern.Regex

/- Compiled patterns. A pattern becomes a program of numbered instructions: the code of a pattern
   that starts at `start` takes the numbers from `start` on and leaves to `next`. A fork prefers its
   first branch, so the order in which instructions are met is the order of preference. -/
namespace SqlSmell.Pattern

/-- An instruction names the numbers of those that may follow it. -/
inductive Instr
  /-- The whole pattern has matched. -/
  | accept
  /-- Takes one character of the set. -/
  | consume (s : CharSet) (next : Nat)
  /-- Goes on where the condition holds. -/
  | require (a : Anchor) (next : Nat)
  /-- Goes on at both places, `first` preferred. -/
  | fork (first second : Nat)
  | jump (next : Nat)
deriving DecidableEq, Inhabited

/-- The instructions by their numbers. -/
abbrev Program := Array Instr

namespace Instr

/-- Tries another round at `again` or goes on at `next`. -/
def choose (greedy : Bool) (again next : Nat) : Instr :=
  if greedy then fork again next else fork next again

end Instr

/-- `count` copies one behind the other, and a jump to `next`. `copy start next` is the code of one
    copy, of the given length. -/
def codeTimes (copy : Nat → Nat → List Instr) (length : Nat) : (count start next : Nat) → List Instr
  | 0, _, next => [.jump next]
  | count + 1, start, next =>
    copy start (start + length) ++ codeTimes copy length count (start + length) next

/-- `count` copies, each behind a choice to leave to `next`, and a jump to `next`. -/
def codeUpTo (copy : Nat → Nat → List Instr) (length : Nat) (greedy : Bool) :
    (count start next : Nat) → List Instr
  | 0, _, next => [.jump next]
  | count + 1, start, next =>
    .choose greedy (start + 1) next ::
      (copy (start + 1) (start + 1 + length) ++
        codeUpTo copy length greedy count (start + 1 + length) next)

/-- The code of a pattern that starts at number `start` and leaves to `next`. A repeated pattern
    that may match the empty text gets its own choice behind each round, so that an empty round
    leads out of the loop in the right order of preference. -/
def Regex.code : Regex → (start next : Nat) → List Instr
  | .empty, _, next => [.jump next]
  | .set s, _, next => [.consume s next]
  | .anchor a, _, next => [.require a next]
  | .cat r s, start, next => r.code start (start + r.size) ++ s.code (start + r.size) next
  | .alt r s, start, next =>
    .fork (start + 1) (start + 1 + r.size) ::
      (r.code (start + 1) next ++ s.code (start + 1 + r.size) next)
  | .times r count, start, next => codeTimes r.code r.size count start next
  | .upTo r count greedy, start, next => codeUpTo r.code r.size greedy count start next
  | .star r greedy, start, next =>
    if r.consumes then .choose greedy (start + 1) next :: r.code (start + 1) start
    else
      .choose greedy (start + 1) next ::
        (r.code (start + 1) (start + 1 + r.size) ++ [.choose greedy (start + 1) next])
  | .plus r greedy, start, next => r.code start (start + r.size) ++ [.choose greedy start next]

/-- The program of a pattern: its code, followed by acceptance. -/
def Regex.program (r : Regex) : Program := (r.code 0 r.size ++ [Instr.accept]).toArray

namespace Program

/-- The instructions met at one position of a text. -/
structure Front where
  /-- The numbers of all instructions met. -/
  seen : List Nat
  /-- The numbers of those that take a character or accept, least preferred first. -/
  ready : List Nat

/-- Nothing met yet. -/
def Front.empty : Front := ⟨[], []⟩

/-- Follows the instructions from number `pc` that take no character, first branches first. Each
    instruction is met once, so the program's size bounds the depth. -/
def follow (p : Program) (around : Around) : (fuel pc : Nat) → Front → Front
  | 0, _, front => front
  | fuel + 1, pc, front =>
    if front.seen.contains pc then front
    else
      let front := { front with seen := pc :: front.seen }
      match p[pc]? with
      | none => front
      | some .accept => { front with ready := pc :: front.ready }
      | some (.consume _ _) => { front with ready := pc :: front.ready }
      | some (.require a next) => if a.holds around then follow p around fuel next front else front
      | some (.fork first second) =>
        follow p around fuel second (follow p around fuel first front)
      | some (.jump next) => follow p around fuel next front

/-- The instructions that take a character or accept and are reached from the given ones, in order
    of preference. -/
def reach (p : Program) (around : Around) (starts : List Nat) : List Nat :=
  (starts.foldl (fun front pc => follow p around (p.size + 1) pc front) .empty).ready.reverse

/-- Does the instruction accept? -/
def accepts (p : Program) (pc : Nat) : Bool := p[pc]? == some .accept

/-- The instructions that follow on a character. -/
def consume (p : Program) (c : Char) (ready : List Nat) : List Nat :=
  ready.filterMap fun pc =>
    match (p[pc]? : Option Instr) with
    | some (.consume s next) => if s.contains c then some next else none
    | _ => none

/-- A match that starts at the place where the search stands. -/
structure Match where
  /-- The number of characters matched. -/
  length : Nat
  /-- The text behind the match. -/
  rest : List Char

/-- Runs the program from the given instructions. `taken` characters have been matched, `before` is
    the last of them, or what stands before the match, and `best` is the preferred match so far; a
    match found later comes from a more preferred instruction, and replaces it. -/
def run (p : Program) (starts : List Nat) (before : Option Char) (taken : Nat)
    (best : Option Match) : (text : List Char) → Option Match
  | [] => if (p.reach ⟨before, none⟩ starts).any p.accepts then some ⟨taken, []⟩ else best
  | c :: text =>
    let ready := p.reach ⟨before, some c⟩ starts
    let best := if ready.any p.accepts then some ⟨taken, c :: text⟩ else best
    match p.consume c (ready.takeWhile fun pc => !p.accepts pc) with
    | [] => best
    | starts => run p starts (some c) (taken + 1) best text

/-- The preferred match that starts at the given place. -/
def matchHere? (p : Program) (before : Option Char) (text : List Char) : Option Match :=
  p.run [0] before 0 none text

/-- Does the pattern match anywhere from the given place on? -/
def foundFrom (p : Program) (before : Option Char) : (text : List Char) → Bool
  | [] => (p.matchHere? before []).isSome
  | c :: text => (p.matchHere? before (c :: text)).isSome || foundFrom p (some c) text

/-- Does the pattern match anywhere in the text? -/
def isFound (p : Program) (text : List Char) : Bool := p.foundFrom none text

/-- Does `test` hold of the text behind one of the successive matches? Matches do not overlap:
    `skip` characters of the last match are still to be passed, and where it ends an empty match
    does not count (`fresh` is false there). -/
def anyBehind (p : Program) (test : List Char → Bool) (skip : Nat) (fresh : Bool)
    (before : Option Char) : (text : List Char) → Bool
  | [] =>
    match skip, p.matchHere? before [] with
    | 0, some _ => fresh && test []
    | _, _ => false
  | c :: text =>
    match skip with
    | skip + 1 => anyBehind p test skip (skip != 0) (some c) text
    | 0 =>
      match p.matchHere? before (c :: text) with
      | none => anyBehind p test 0 true (some c) text
      | some m =>
        match m.length with
        | 0 => (fresh && test (c :: text)) || anyBehind p test 0 true (some c) text
        | n + 1 => test m.rest || anyBehind p test n (n != 0) (some c) text

/-- Does `test` hold of the text behind one of the successive matches in the whole text? -/
def isFoundWith (p : Program) (test : List Char → Bool) (text : List Char) : Bool :=
  p.anyBehind test 0 true none text

end Program

end SqlSmell.Pattern
