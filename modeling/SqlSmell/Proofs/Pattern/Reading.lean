import Mathlib.Data.List.TakeWhile
import SqlSmell.Proofs.Outcome
import SqlSmell.Proofs.Pattern.Matches

/- Reading a pattern is local: a token that has been read is read again, with the same rest, whatever
   follows the text. Only a quantifier or an opening parenthesis at the very end looks further, at a `?` that
   may come next (`readToken_local`). A bracket inside a class names a class (`[:alpha:]`) or opens one, and
   the bracket that closes it settles which (`readAsciiClass?_none`). So the tokens of a text are a relation
   without fuel (`tokens_ok_iff`), and texts put one behind the other have the tokens of both
   (`Reads.append`). -/
namespace SqlSmell.Pattern

section
variable {s rest : List Char}

/-- A run that ends inside a text ends there whatever follows the text. -/
theorem span_append {p : Char → Bool} (h : s.dropWhile p ≠ []) (more : List Char) :
    (s ++ more).takeWhile p = s.takeWhile p ∧ (s ++ more).dropWhile p = s.dropWhile p ++ more := by
  induction s with
  | nil => contradiction
  | cons c s ih =>
    cases hc : p c with
    | false => simp [hc]
    | true =>
      rw [List.dropWhile_cons_of_pos hc] at h
      obtain ⟨htake, hdrop⟩ := ih h
      simp [hc, htake, hdrop]

/-! ## Escapes and classes -/

theorem readEscape_local {t : Token} (h : readEscape s = .ok (t, rest)) :
    rest <:+ s ∧ ∀ more, readEscape (s ++ more) = .ok (t, rest ++ more) := by
  cases s with
  | nil => contradiction
  | cons c s =>
    simp only [readEscape, List.cons_append] at h ⊢
    cases hc : escaped? c with
    | none =>
      rw [hc] at h
      contradiction
    | some e =>
      rw [hc] at h
      cases e <;> cases h <;> exact ⟨List.suffix_cons c _, fun more => rfl⟩

theorem readMember_cons {c : Char} (h : c ≠ '\\') (s : List Char) :
    readMember (c :: s) = .ok (.char c, s) := by
  rw [readMember.eq_def]
  split <;> simp_all

theorem readMember_escape (c : Char) (s : List Char) :
    readMember ('\\' :: c :: s) =
      match escaped? c with
      | some (.char c) => .ok (.char c, s)
      | some (.set t) => .ok (.set t, s)
      | _ => .error .malformed := rfl

theorem readMember_local {m : Member} (h : readMember s = .ok (m, rest)) :
    rest <:+ s.tail ∧ ∀ more, readMember (s ++ more) = .ok (m, rest ++ more) := by
  cases s with
  | nil => contradiction
  | cons c s =>
    by_cases hc : c = '\\'
    · subst hc
      cases s with
      | nil => contradiction
      | cons d s =>
        simp only [List.cons_append, readMember_escape] at h ⊢
        cases hd : escaped? d with
        | none =>
          rw [hd] at h
          contradiction
        | some e =>
          rw [hd] at h
          cases e <;> cases h <;> exact ⟨List.suffix_cons d _, fun more => rfl⟩
    · rw [readMember_cons hc] at h
      cases h
      exact ⟨List.suffix_rfl, fun more => readMember_cons hc _⟩

/-- A range is read where a `-` follows that is neither the last character nor doubled. -/
theorem readMembers_eq (s : List Char) :
    readMembers s = readMember s >>= fun (first, rest) =>
      if rest.head? = some '-' ∧ rest.tail.head? ≠ some ']' ∧ rest.tail.head? ≠ some '-' then
        readMember rest.tail >>= fun (last, rest) => rangeOf first last >>= fun set => .ok (set, rest)
      else .ok (first.toSet, rest) := by
  unfold readMembers
  congr 1
  funext result
  obtain ⟨first, rest⟩ := result
  dsimp only
  split
  · simp
  · simp
  · next rest hbracket hdash =>
    cases rest with
    | nil => simp
    | cons c rest => simp_all
  · next hdash =>
    cases rest with
    | nil => simp
    | cons c rest => simp_all

theorem readMembers_local {t : CharSet} (h : readMembers s = .ok (t, rest)) :
    rest <:+ s.tail ∧ (rest ≠ [] → ∀ more, readMembers (s ++ more) = .ok (t, rest ++ more)) := by
  simp only [readMembers_eq] at h ⊢
  obtain ⟨⟨first, behind⟩, hfirst, h⟩ := bind_ok_iff.mp h
  obtain ⟨hsuffix, hmore⟩ := readMember_local hfirst
  simp only [hmore]
  dsimp only at h
  split at h
  · next hrange =>
    obtain ⟨⟨last, behind'⟩, hlast, h⟩ := bind_ok_iff.mp h
    obtain ⟨set, hset, h⟩ := bind_ok_iff.mp h
    obtain ⟨hsuffix', hmore'⟩ := readMember_local hlast
    cases h
    refine ⟨hsuffix'.trans ((List.tail_suffix _).trans ((List.tail_suffix _).trans hsuffix)), ?_⟩
    intro _ more
    -- The end of the range has been read, so a character stands behind the dash.
    obtain ⟨c, behind, rfl⟩ : ∃ c d, behind = c :: d := by
      cases behind with
      | nil => simp at hrange
      | cons c d => exact ⟨c, d, rfl⟩
    obtain ⟨d, behind, rfl⟩ : ∃ c d, behind = c :: d := by
      cases behind with
      | nil => contradiction
      | cons c d => exact ⟨c, d, rfl⟩
    refine (if_pos hrange).trans ?_
    exact bind_ok_iff.mpr ⟨_, hmore' more, bind_ok_iff.mpr ⟨t, hset, rfl⟩⟩
  · next hplain =>
    cases h
    refine ⟨hsuffix, fun hne more => ?_⟩
    refine if_neg ?_
    match rest, hne with
    | [c], _ =>
      intro hrange
      exact hplain (by simpa using hrange.1)
    | c :: d :: rest, _ => exact hplain

theorem leadingDashes_local (k : OpenClass) (s : List Char) :
    (leadingDashes k s).2 <:+ s ∧ ((leadingDashes k s).2 ≠ [] → ∀ more,
      leadingDashes k (s ++ more) = ((leadingDashes k s).1, (leadingDashes k s).2 ++ more)) := by
  fun_induction leadingDashes k s with
  | case1 k rest ih =>
    refine ⟨ih.1.trans (List.suffix_cons '-' rest), ?_⟩
    intro hne more
    rw [List.cons_append, leadingDashes]
    exact ih.2 hne more
  | case2 k s hdash =>
    refine ⟨List.suffix_rfl, ?_⟩
    intro hne more
    obtain ⟨c, s, rfl⟩ := List.exists_cons_of_ne_nil hne
    rw [leadingDashes.eq_def]
    split
    · simp_all
    · rfl

/-- Starts a class behind its `^`, if it has one. -/
def startMembers (negated : Bool) : List Char → OpenClass × List Char
  | ']' :: rest => (⟨negated, .one ']'⟩, rest)
  | s => leadingDashes ⟨negated, .none⟩ s

theorem startMembers_local (negated : Bool) (s : List Char) :
    (startMembers negated s).2 <:+ s ∧ ((startMembers negated s).2 ≠ [] → ∀ more,
      startMembers negated (s ++ more) =
        ((startMembers negated s).1, (startMembers negated s).2 ++ more)) := by
  fun_cases startMembers negated s with
  | case1 rest => exact ⟨List.suffix_cons ']' rest, fun _ _ => rfl⟩
  | case2 _ hbracket =>
    obtain ⟨hsuffix, hmore⟩ := leadingDashes_local ⟨negated, .none⟩ s
    refine ⟨hsuffix, fun hne more => ?_⟩
    rw [← hmore hne more]
    match s with
    | [] => contradiction
    | c :: s =>
      have hc : c ≠ ']' := fun h => hbracket s (by rw [h])
      rw [List.cons_append, startMembers]
      simpa using hc

theorem startClass_negated (s : List Char) : startClass ('^' :: s) = startMembers true s := by
  simp only [startClass]
  split <;> simp_all [startMembers]

theorem startClass_plain {c : Char} (h : c ≠ '^') (s : List Char) :
    startClass (c :: s) = startMembers false (c :: s) := by
  unfold startClass
  split
  next heq =>
    split at heq
    · simp_all
    · cases heq
      split <;> simp_all [startMembers]

theorem startClass_local (s : List Char) :
    (startClass s).2 <:+ s ∧ ((startClass s).2 ≠ [] → ∀ more,
      startClass (s ++ more) = ((startClass s).1, (startClass s).2 ++ more)) := by
  cases s with
  | nil => exact ⟨List.suffix_rfl, fun hne => absurd rfl hne⟩
  | cons c s =>
    by_cases hc : c = '^'
    · subst hc
      obtain ⟨hsuffix, hmore⟩ := startMembers_local true s
      simp only [List.cons_append, startClass_negated]
      exact ⟨hsuffix.trans (List.suffix_cons '^' s), hmore⟩
    · simp only [List.cons_append, startClass_plain hc]
      exact startMembers_local false (c :: s)

theorem asciiClasses_no_bracket {name : List Char} {ranges : List (Char × Char)}
    (h : asciiClasses.lookup (String.ofList name) = some ranges) : ']' ∉ name := by
  have hall : (asciiClasses.all fun entry => !entry.1.toList.contains ']') = true := by decide
  obtain ⟨earlier, later, hclasses, -⟩ := List.lookup_eq_some_iff.mp h
  have hentry := List.all_eq_true.mp hall (String.ofList name, ranges) (by rw [hclasses]; simp)
  simpa using hentry

theorem asciiClass?_no_bracket {name : List Char} {t : CharSet} (h : asciiClass? name = some t) :
    ']' ∉ name := by
  unfold asciiClass? at h
  split at h
  · obtain ⟨ranges, hranges, -⟩ := Option.map_eq_some_iff.mp h
    simpa using asciiClasses_no_bracket hranges
  · obtain ⟨ranges, hranges, -⟩ := Option.map_eq_some_iff.mp h
    exact asciiClasses_no_bracket hranges

/-- Behind its colon, a class by its name is the name and the two characters that end it. -/
theorem readAsciiClass?_colon (s : List Char) :
    readAsciiClass? (':' :: s) =
      if (s.dropWhile (· != ':')).take 2 = [':', ']'] then
        (asciiClass? (s.takeWhile (· != ':'))).map fun set => (set, (s.dropWhile (· != ':')).drop 2)
      else none := by
  rw [readAsciiClass?]
  split
  · next set rest hset hrest => simp [hset, hrest]
  · next hother =>
    split
    · next htwo =>
      cases hset : asciiClass? (s.takeWhile (· != ':')) with
      | none => rfl
      | some set =>
        have hrest : s.dropWhile (· != ':') = ':' :: ']' :: (s.dropWhile (· != ':')).drop 2 := by
          have hsplit := List.take_append_drop 2 (s.dropWhile (· != ':'))
          rw [htwo] at hsplit
          exact hsplit.symm
        exact absurd hrest (hother set _ hset)
    · rfl

theorem readAsciiClass?_of_ne {c : Char} (h : c ≠ ':') (s : List Char) : readAsciiClass? (c :: s) = none := by
  unfold readAsciiClass?
  split <;> simp_all

/-- A class that has been read by its name is read again whatever follows. -/
theorem readAsciiClass?_some {t : CharSet} (h : readAsciiClass? s = some (t, rest)) :
    rest <:+ s ∧ ∀ more, readAsciiClass? (s ++ more) = some (t, rest ++ more) := by
  unfold readAsciiClass? at h
  split at h
  · next s =>
    split at h
    · next set rest' hset hrest =>
      obtain ⟨rfl, rfl⟩ := Prod.mk.inj (Option.some.inj h)
      have hsuffix : ':' :: ']' :: rest' <:+ s := hrest ▸ List.dropWhile_suffix _
      refine ⟨(List.suffix_cons _ _).trans ((List.suffix_cons _ _).trans
        (hsuffix.trans (List.suffix_cons _ _))), fun more => ?_⟩
      obtain ⟨htake, hdrop⟩ := span_append (hrest ▸ List.cons_ne_nil _ _) more
      simp [readAsciiClass?_colon, htake, hdrop, hset, hrest]
    · contradiction
  · contradiction

/-- A bracket behind a name has room for the colon before it. -/
theorem two_le_length_behind_name (hbracket : ']' ∈ s) (hname : ']' ∉ s.takeWhile (· != ':')) :
    2 ≤ (s.dropWhile (· != ':')).length := by
  rw [← List.takeWhile_append_dropWhile (p := (· != ':')) (l := s)] at hbracket
  have hrest := (List.mem_append.mp hbracket).resolve_left hname
  have hfirst := List.head?_dropWhile_not (· != ':') s
  cases hbehind : s.dropWhile (· != ':') with
  | nil =>
    rw [hbehind] at hrest
    contradiction
  | cons d behind =>
    rw [hbehind] at hrest hfirst
    obtain rfl : d = ':' := by simpa using hfirst
    have hbehind : ']' ∈ behind := by simpa using hrest
    exact Nat.succ_le_succ (List.length_pos_of_mem hbehind)

/-- What is no class by its name, up to a bracket, is none whatever follows. -/
theorem readAsciiClass?_none (h : readAsciiClass? s = none) (hbracket : ']' ∈ s) (more : List Char) :
    readAsciiClass? (s ++ more) = none := by
  cases s with
  | nil => contradiction
  | cons c s =>
    by_cases hc : c = ':'
    · subst hc
      have hbracket : ']' ∈ s := by simpa using hbracket
      rw [readAsciiClass?_colon] at h
      rw [List.cons_append, readAsciiClass?_colon]
      by_cases hname : ']' ∈ (s ++ more).takeWhile (· != ':')
      · have hnone : asciiClass? ((s ++ more).takeWhile (· != ':')) = none := by
          rw [Option.eq_none_iff_forall_ne_some]
          intro t ht
          exact asciiClass?_no_bracket ht hname
        simp [hnone]
      · -- the bracket stands behind the name, and so do the two characters that decide
        have hcolon : s.dropWhile (· != ':') ≠ [] := by
          intro hnil
          rw [List.takeWhile_append_of_pos (List.dropWhile_eq_nil_iff.mp hnil)] at hname
          exact hname (List.mem_append_left _ hbracket)
        obtain ⟨htake, hdrop⟩ := span_append hcolon more
        rw [htake] at hname
        rw [htake, hdrop, List.take_append_of_le_length (two_le_length_behind_name hbracket hname)]
        split at h
        · have hnone : asciiClass? (s.takeWhile (· != ':')) = none := by simpa using h
          simp [hnone]
        · next htwo => rw [if_neg htwo]
    · exact readAsciiClass?_of_ne hc _

theorem readClass_cons (fuel : Nat) (outer : List OpenClass) (k : OpenClass) (c : Char)
    (rest : List Char) :
    readClass (fuel + 1) outer k (c :: rest) =
      if c = '[' then
        match readAsciiClass? rest with
        | some (set, rest) => readClass fuel outer (k.add set) rest
        | none => readClass fuel (k :: outer) (startClass rest).1 (startClass rest).2
      else if c = ']' then
        match outer with
        | [] => .ok (k.close, rest)
        | around :: outer => readClass fuel outer (around.add k.close) rest
      else if (c = '&' ∨ c = '-' ∨ c = '~') ∧ rest.head? = some c then .error .malformed
      else readMembers (c :: rest) >>= fun (set, rest) => readClass fuel outer (k.add set) rest := by
  by_cases hopen : c = '['
  · subst hopen
    cases hnamed : readAsciiClass? rest <;> simp [readClass, hnamed]
  rw [readClass.eq_def, if_neg hopen]
  cases outer <;> split <;> simp_all
  -- a character that is not doubled, in a class of its own or inside another
  all_goals
    intro hc hhead
    cases ‹List Char› <;> simp_all

theorem readClass_ne_nil {fuel : Nat} {outer : List OpenClass} {k : OpenClass} {t : CharSet}
    (h : readClass fuel outer k s = .ok (t, rest)) : s ≠ [] := by
  intro hs
  subst hs
  cases fuel <;> contradiction

/-- A class is read only if its closing bracket is there. -/
theorem bracket_mem_of_readClass {fuel : Nat} {outer : List OpenClass} {k : OpenClass} {t : CharSet}
    (h : readClass fuel outer k s = .ok (t, rest)) : ']' ∈ s := by
  induction fuel generalizing outer k s with
  | zero => contradiction
  | succ fuel ih =>
    obtain ⟨c, s, rfl⟩ := List.exists_cons_of_ne_nil (readClass_ne_nil h)
    rw [readClass_cons] at h
    split at h
    · split at h
      · next hnamed =>
        exact List.mem_cons_of_mem _ ((readAsciiClass?_some hnamed).1.subset (ih h))
      · exact List.mem_cons_of_mem _ ((startClass_local s).1.subset (ih h))
    · split at h
      · next hclose =>
        rw [hclose]
        exact List.mem_cons_self
      · split at h
        · contradiction
        · obtain ⟨⟨set, behind⟩, hset, h⟩ := bind_ok_iff.mp h
          exact List.mem_cons_of_mem _ ((readMembers_local hset).1.subset (ih h))

/-- A class is read up to its closing bracket, and what follows does not matter. -/
theorem readClass_local {fuel fuel' : Nat} {outer : List OpenClass} {k : OpenClass} {t : CharSet}
    (h : readClass fuel outer k s = .ok (t, rest)) (hfuel : fuel ≤ fuel') :
    rest <:+ s.tail ∧ ∀ more, readClass fuel' outer k (s ++ more) = .ok (t, rest ++ more) := by
  induction fuel generalizing fuel' outer k s with
  | zero => contradiction
  | succ fuel ih =>
    obtain ⟨fuel', rfl⟩ : ∃ n, fuel' = n + 1 := ⟨fuel' - 1, by omega⟩
    have hfuel : fuel ≤ fuel' := by omega
    obtain ⟨c, s, rfl⟩ := List.exists_cons_of_ne_nil (readClass_ne_nil h)
    simp only [List.cons_append, List.tail_cons, readClass_cons] at h ⊢
    by_cases hopen : c = '['
    · rw [if_pos hopen] at h
      simp only [if_pos hopen]
      cases hnamed : readAsciiClass? s with
      | some named =>
        obtain ⟨set, behind⟩ := named
        rw [hnamed] at h
        obtain ⟨hsuffix, hmore⟩ := readAsciiClass?_some hnamed
        obtain ⟨hrest, hread⟩ := ih h hfuel
        refine ⟨hrest.trans ((List.tail_suffix _).trans hsuffix), fun more => ?_⟩
        rw [hmore]
        exact hread more
      | none =>
        rw [hnamed] at h
        obtain ⟨hsuffix, hmore⟩ := startClass_local s
        obtain ⟨hrest, hread⟩ := ih h hfuel
        refine ⟨hrest.trans ((List.tail_suffix _).trans hsuffix), fun more => ?_⟩
        rw [readAsciiClass?_none hnamed (hsuffix.subset (bracket_mem_of_readClass h)),
          hmore (readClass_ne_nil h)]
        exact hread more
    rw [if_neg hopen] at h
    simp only [if_neg hopen]
    by_cases hclose : c = ']'
    · rw [if_pos hclose] at h
      simp only [if_pos hclose]
      cases outer with
      | nil =>
        cases h
        exact ⟨List.suffix_rfl, fun more => rfl⟩
      | cons around outer =>
        obtain ⟨hrest, hread⟩ := ih h hfuel
        exact ⟨hrest.trans (List.tail_suffix s), hread⟩
    rw [if_neg hclose] at h
    simp only [if_neg hclose]
    split at h
    · contradiction
    · next hdouble =>
      obtain ⟨⟨set, behind⟩, hset, h⟩ := bind_ok_iff.mp h
      obtain ⟨hsuffix, hmore⟩ := readMembers_local hset
      obtain ⟨hrest, hread⟩ := ih h hfuel
      have hbehind := readClass_ne_nil h
      refine ⟨hrest.trans ((List.tail_suffix _).trans hsuffix), fun more => ?_⟩
      -- The bracket is still to come, so the character behind `c` is not in `more`.
      have hs : s ≠ [] := fun hs => hbehind (List.eq_nil_of_suffix_nil (by simpa [hs] using hsuffix))
      rw [List.head?_append_of_ne_nil s hs, if_neg hdouble]
      exact bind_ok_iff.mpr ⟨_, hmore hbehind more, hread more⟩

/-! ## Counts -/

theorem readCount_local {n : Nat} (h : readCount s = .ok (n, rest)) :
    rest <:+ s ∧ (rest ≠ [] → ∀ more, readCount (s ++ more) = .ok (n, rest ++ more)) := by
  unfold readCount at h
  dsimp only at h
  split at h
  · contradiction
  · next hdigits =>
    split at h
    · next hn =>
      cases h
      refine ⟨(List.dropWhile_suffix _).trans
        ((List.dropWhile_suffix _).trans (List.dropWhile_suffix _)), ?_⟩
      intro hne more
      -- Each of the three runs ends inside `s`, since something is left behind the last.
      have hrest : (Text.trimStart s).dropWhile Char.isDigit ≠ [] := by
        intro hnil
        rw [hnil] at hne
        exact hne rfl
      have htrim : Text.trimStart s ≠ [] := by
        intro hnil
        rw [hnil] at hrest
        exact hrest rfl
      have hstart : Text.trimStart (s ++ more) = Text.trimStart s ++ more := (span_append htrim more).2
      obtain ⟨htake, hdrop⟩ := span_append hrest more
      have hend : Text.trimStart ((Text.trimStart s).dropWhile Char.isDigit ++ more) =
          Text.trimStart ((Text.trimStart s).dropWhile Char.isDigit) ++ more := (span_append hne more).2
      unfold readCount
      simp only [hstart, htake, hdrop, hend, if_pos hn]
    · contradiction

/-- The reader has come from `s` to `rest`, and does so whatever follows `s`, unless that starts with a `?`. -/
def Settles (read : List Char → Except PatternError (Token × List Char)) (s : List Char) (t : Token)
    (rest : List Char) : Prop :=
  rest <:+ s ∧ ∀ more : List Char, more.head? ≠ some '?' → read (s ++ more) = .ok (t, rest ++ more)

theorem readLazy_greedy (min : Nat) (max : Option Nat) (h : s.head? ≠ some '?') :
    readLazy min max s = (.quantifier min max true, s) := by
  unfold readLazy
  split
  · simp at h
  · rfl

theorem readLazy_local {min : Nat} {max : Option Nat} {t : Token} (h : readLazy min max s = (t, rest)) :
    rest <:+ s ∧ ∀ more : List Char, more.head? ≠ some '?' →
      readLazy min max (s ++ more) = (t, rest ++ more) := by
  cases s with
  | nil =>
    cases h
    exact ⟨List.suffix_rfl, fun more hmore => readLazy_greedy min max hmore⟩
  | cons c s =>
    by_cases hc : c = '?'
    · subst hc
      cases h
      exact ⟨List.suffix_cons '?' _, fun more _ => rfl⟩
    · have hhead : ∀ u : List Char, (c :: u).head? ≠ some '?' := fun u => by simpa using hc
      rw [readLazy_greedy min max (hhead s)] at h
      cases h
      exact ⟨List.suffix_rfl, fun more _ => readLazy_greedy min max (hhead _)⟩

theorem Settles.of_lazy {read : List Char → Except PatternError (Token × List Char)} {t : Token}
    {min : Nat} {max : Option Nat} (hread : ∀ s, read s = .ok (readLazy min max s))
    (h : read s = .ok (t, rest)) : Settles read s t rest := by
  rw [hread] at h
  obtain ⟨hrest, hlazy⟩ := readLazy_local (Except.ok.inj h)
  exact ⟨hrest, fun more hmore => (hread _).trans (congrArg Except.ok (hlazy more hmore))⟩

theorem readBraces_local {t : Token} (h : readBraces s = .ok (t, rest)) : Settles readBraces s t rest := by
  rw [readBraces] at h
  obtain ⟨⟨min, behind⟩, hmin, h⟩ := bind_ok_iff.mp h
  obtain ⟨hsuffix, hread⟩ := readCount_local hmin
  dsimp only at h
  split at h
  · obtain ⟨hrest, hlazy⟩ := readLazy_local (Except.ok.inj h)
    refine ⟨hrest.trans ((List.suffix_cons _ _).trans hsuffix), fun more hmore => ?_⟩
    rw [readBraces, hread (List.cons_ne_nil _ _)]
    exact congrArg Except.ok (hlazy more hmore)
  · obtain ⟨hrest, hlazy⟩ := readLazy_local (Except.ok.inj h)
    refine ⟨hrest.trans ((List.suffix_cons _ _).trans ((List.suffix_cons _ _).trans hsuffix)),
      fun more hmore => ?_⟩
    rw [readBraces, hread (List.cons_ne_nil _ _)]
    exact congrArg Except.ok (hlazy more hmore)
  · next behind hbrace =>
    obtain ⟨⟨max, behind'⟩, hmax, h⟩ := bind_ok_iff.mp h
    obtain ⟨hsuffix', hread'⟩ := readCount_local hmax
    dsimp only at h
    split at h
    · split at h
      · next hle =>
        obtain ⟨hrest, hlazy⟩ := readLazy_local (Except.ok.inj h)
        refine ⟨hrest.trans ((List.suffix_cons _ _).trans
          (hsuffix'.trans ((List.suffix_cons _ _).trans hsuffix))), fun more hmore => ?_⟩
        rw [readBraces]
        refine bind_ok_iff.mpr ⟨_, hread (List.cons_ne_nil _ _) more, ?_⟩
        obtain ⟨d, behind, rfl⟩ : ∃ d u, behind = d :: u :=
          List.exists_cons_of_ne_nil fun hnil => by simp [hnil] at hsuffix'
        have hd : d ≠ '}' := fun hd => hbrace behind (by rw [hd])
        dsimp only
        split
        · simp_all
        · simp_all
        · next heq =>
          obtain rfl := (List.cons.inj heq).2
          refine bind_ok_iff.mpr ⟨_, hread' (List.cons_ne_nil _ _) more, ?_⟩
          exact (if_pos hle).trans (congrArg Except.ok (hlazy more hmore))
        · simp_all
      · contradiction
    · contradiction
  · contradiction

/-! ## Groups -/

theorem readName_local {t : Token} (h : readName s = .ok (t, rest)) :
    rest <:+ s ∧ ∀ more, readName (s ++ more) = .ok (t, rest ++ more) := by
  unfold readName at h
  dsimp only at h
  split at h
  · next c name d behind hname hbehind =>
    split at h
    · next hchars =>
      simp only [Except.ok.injEq, Prod.mk.injEq] at h
      obtain ⟨rfl, rfl⟩ := h
      have hsuffix : d :: behind <:+ s := hbehind ▸ List.dropWhile_suffix _
      refine ⟨(List.suffix_cons d _).trans hsuffix, fun more => ?_⟩
      obtain ⟨htake, hdrop⟩ := span_append (hbehind ▸ List.cons_ne_nil d behind) more
      unfold readName
      simp only [htake, hdrop, hname, hbehind, List.cons_append]
      exact if_pos hchars
    · contradiction
  · contradiction

theorem readGroup_plain (h : s.head? ≠ some '?') : readGroup s = .ok (.openGroup none, s) := by
  unfold readGroup
  split <;> simp_all

theorem readGroup_local {t : Token} (h : readGroup s = .ok (t, rest)) : Settles readGroup s t rest := by
  unfold readGroup at h
  split at h
  · cases h
    exact ⟨(List.suffix_cons _ _).trans (List.suffix_cons _ _), fun more _ => rfl⟩
  · obtain ⟨hrest, hread⟩ := readName_local h
    exact ⟨hrest.trans ((List.suffix_cons _ _).trans ((List.suffix_cons _ _).trans (List.suffix_cons _ _))),
      fun more _ => hread more⟩
  · obtain ⟨hrest, hread⟩ := readName_local h
    exact ⟨hrest.trans ((List.suffix_cons _ _).trans (List.suffix_cons _ _)), fun more _ => hread more⟩
  · contradiction
  · next hplain =>
    simp only [Except.ok.injEq, Prod.mk.injEq] at h
    obtain ⟨rfl, rfl⟩ := h
    refine ⟨List.suffix_rfl, fun more hmore => readGroup_plain ?_⟩
    cases s with
    | nil => exact hmore
    | cons c s => exact fun hc => hplain s (by simpa using hc)

/-! ## Tokens -/

theorem readToken_class (s : List Char) :
    readToken '[' s = readClass ((startClass s).2.length + 1) [] (startClass s).1 (startClass s).2 >>=
      fun (set, rest) => .ok (.set set, rest) := by
  unfold readToken
  dsimp only
  cases readClass ((startClass s).2.length + 1) [] (startClass s).1 (startClass s).2 <;> rfl

theorem readToken_one {c : Char} (h : c ∉ "\\[\x7b()|.^$*+?".toList) (s : List Char) :
    readToken c s = .ok (.set (.one c), s) := by
  unfold readToken
  split <;> simp_all

theorem readToken_class_local {t : Token} (h : readToken '[' s = .ok (t, rest)) :
    Settles (readToken '[') s t rest := by
  rw [readToken_class] at h
  obtain ⟨⟨set, behind⟩, hset, h⟩ := bind_ok_iff.mp h
  cases h
  obtain ⟨hsuffix, hstart⟩ := startClass_local s
  have hrest := (readClass_local hset (Nat.le_refl _)).1
  refine ⟨hrest.trans ((List.tail_suffix _).trans hsuffix), fun more _ => ?_⟩
  rw [readToken_class, hstart (readClass_ne_nil hset)]
  -- a longer text gives more fuel, too
  have hfuel : (startClass s).2.length + 1 ≤ ((startClass s).2 ++ more).length + 1 := by simp
  exact bind_ok_iff.mpr ⟨_, (readClass_local hset hfuel).2 more, rfl⟩

theorem Settles.of_one {read : List Char → Except PatternError (Token × List Char)} {t u : Token}
    (hread : ∀ s, read s = .ok (u, s)) (h : read s = .ok (t, rest)) : Settles read s t rest := by
  rw [hread] at h
  cases h
  exact ⟨List.suffix_rfl, fun more _ => hread _⟩

theorem readToken_local {c : Char} {t : Token} (h : readToken c s = .ok (t, rest)) :
    Settles (readToken c) s t rest := by
  have hread := h
  unfold readToken at hread
  split at hread
  · exact ⟨(readEscape_local hread).1, fun more _ => (readEscape_local hread).2 more⟩
  · exact readToken_class_local h
  · exact readBraces_local hread
  · exact readGroup_local hread
  · exact .of_one (fun s => rfl) h
  · exact .of_one (fun s => rfl) h
  · exact .of_one (fun s => rfl) h
  · exact .of_one (fun s => rfl) h
  · exact .of_one (fun s => rfl) h
  · exact .of_lazy (fun s => rfl) h
  · exact .of_lazy (fun s => rfl) h
  · exact .of_lazy (fun s => rfl) h
  · exact .of_one (readToken_one (by simp_all)) h

end

/-! ## Texts, token by token -/

/-- The text is cut into the tokens. -/
inductive Reads : List Char → List Token → Prop
  | nil : Reads [] []
  | cons {c : Char} {s rest : List Char} {t : Token} {ts : List Token} :
      readToken c s = .ok (t, rest) → Reads rest ts → Reads (c :: s) (t :: ts)

theorem reads_nil_iff {ts : List Token} : Reads [] ts ↔ ts = [] := by
  constructor
  · intro h
    cases h
    rfl
  · intro h
    rw [h]
    exact .nil

theorem readTokens_ok_iff {fuel : Nat} {out ts : List Token} {s : List Char} (h : s.length ≤ fuel) :
    readTokens fuel out s = .ok ts ↔ ∃ us, Reads s us ∧ ts = out.reverse ++ us := by
  have hnil : ∀ fuel out, readTokens fuel out [] = .ok ts ↔ ∃ us, Reads [] us ∧ ts = out.reverse ++ us := by
    intro fuel out
    simp [readTokens, reads_nil_iff, eq_comm]
  induction fuel generalizing out s with
  | zero =>
    obtain rfl := List.eq_nil_of_length_eq_zero (Nat.le_zero.mp h)
    exact hnil 0 out
  | succ fuel ih =>
    cases s with
    | nil => exact hnil (fuel + 1) out
    | cons c s =>
      rw [readTokens, bind_ok_iff]
      constructor
      · intro ⟨⟨t, rest⟩, ht, hts⟩
        have hlength := (readToken_local ht).1.length_le
        obtain ⟨us, hus, rfl⟩ := (ih (by rw [List.length_cons] at h; omega)).mp hts
        exact ⟨t :: us, .cons ht hus, by simp⟩
      · intro ⟨us, hus, hts⟩
        cases hus with
        | cons ht hus =>
          have hlength := (readToken_local ht).1.length_le
          refine ⟨_, ht, (ih (by rw [List.length_cons] at h; omega)).mpr ⟨_, hus, ?_⟩⟩
          simpa using hts

/-- The reader has fuel for every text. -/
theorem tokens_ok_iff {s : List Char} {ts : List Token} : tokens s = .ok ts ↔ Reads s ts := by
  rw [tokens, readTokens_ok_iff (Nat.le_refl _)]
  simp

/-- Two texts one behind the other have the tokens of both, unless the second could make a quantifier of the
    first one lazy, or a group a named one. -/
theorem Reads.append {s q : List Char} {ts us : List Token} (hs : Reads s ts) (hq : Reads q us)
    (hmark : q.head? ≠ some '?') : Reads (s ++ q) (ts ++ us) := by
  induction hs with
  | nil => exact hq
  | cons ht _ ih => exact .cons ((readToken_local ht).2 q hmark) ih

end SqlSmell.Pattern
