import SqlSmell.Proofs.Pattern.Composition
import SqlSmell.Proofs.Pattern.Successive
import SqlSmell.Proofs.Text.Blank

/- Two ways to look for a token behind a pattern. One compiles the pattern, the escaped token and what may
   end it into one pattern, and finds every occurrence that the token follows
   (`isFound_beforeToken_iff`). The other walks over the successive matches of the pattern alone and
   compares the text behind each (`isFoundBefore_iff`). It finds nothing that the first does not find, but it
   sees only the matches that the walk reports: a token that follows a shorter match than the preferred one,
   or a match inside an earlier one, is missed (`isFoundBefore_misses_shorter_match`). The two agree wherever
   the token follows exposed matches only, as it does behind a keyword and its blanks. All this is about
   trees, in whatever syntax they are written; patterns that are read here give the trees that it is about
   (`isFoundBefore_against_compiled`). -/
namespace SqlSmell.Pattern

/-- Nothing follows, or a character that is part of no token. -/
def EndsToken (v : List Char) : Prop :=
  v = [] ∨ ∃ c v', v = c :: v' ∧ (Text.isBlank c = true ∨ c = '(' ∨ c = ')' ∨ c = ',' ∨ c = ';')

/-- The token stands at a position of the text, as a whole. -/
def HoldsToken (token text : List Char) (j : Nat) : Prop :=
  ∃ v, text.drop j = token ++ v ∧ EndsToken v

theorem contains_tokenEnds {c : Char} :
    tokenEnds.contains c = true ↔ Text.isBlank c = true ∨ c = '(' ∨ c = ')' ∨ c = ',' ∨ c = ';' := by
  simp [tokenEnds, CharSet.contains, contains_one, or_assoc]

theorem matchesAll_tokenEnd {x : Place} : (∃ y, MatchesAll [tokenEnd] x y) ↔ EndsToken x.text := by
  have hend : Anchor.textEnd.holds x.around = true ↔ x.text = [] := by
    simp [Anchor.holds, Place.around]
  simp only [MatchesAll, tokenEnd, matches_alt_iff, matches_set_iff, matches_anchor_iff, hend,
    contains_tokenEnds]
  constructor
  · intro htake
    obtain ⟨_, _, ⟨c, v, htext, hc, -⟩ | ⟨htext, -⟩, -⟩ := htake
    · exact .inr ⟨c, v, htext, hc⟩
    · exact .inl htext
  · intro hends
    rcases hends with htext | ⟨c, v, htext, hc⟩
    · exact ⟨x, x, .inr ⟨htext, rfl⟩, rfl⟩
    · exact ⟨_, _, .inl ⟨c, v, htext, hc, rfl⟩, rfl⟩

theorem isFound_beforeToken_iff (r : Regex) (token text : List Char) :
    (r.beforeToken token).program.isFound text = true ↔
      ∃ i j, Occurs r text i j ∧ HoldsToken token text j := by
  rw [Regex.beforeToken, isFound_ofItems_iff]
  constructor
  · intro h
    obtain ⟨u, t, y, htext, z, hr, hrest⟩ := h
    subst htext
    rw [← placeAt_append] at hr
    obtain ⟨j, hoccurs, rfl⟩ := hr.exists_occurs (by simp)
    obtain ⟨v, hv, hend⟩ := matchesAll_word.mp hrest
    exact ⟨u.length, j, hoccurs, v, hv, matchesAll_tokenEnd.mp ⟨y, hend⟩⟩
  · intro h
    obtain ⟨i, j, ⟨-, -, hr⟩, v, hv, hend⟩ := h
    obtain ⟨y, hy⟩ := (matchesAll_tokenEnd (x := (placeAt text j).behind token v)).mpr hend
    exact ⟨text.take i, text.drop i, y, (List.take_append_drop i text).symm, placeAt text j, hr,
      matchesAll_word.mpr ⟨v, hv, hy⟩⟩

end SqlSmell.Pattern

namespace SqlSmell.Matcher

open Pattern

theorem ofPattern_of_parse {pattern : String} (policy : Policy) {r : Regex}
    (h : Regex.parse pattern.toList = .ok r) :
    ofPattern pattern policy =
      if r.size ≤ sizeLimit then .ok ⟨pattern, policy, r.program⟩ else .error .tooLarge := by
  rw [ofPattern, compile, h]
  show (if r.size ≤ sizeLimit then Except.ok r.program else _) >>= _ = _
  split <;> rfl

theorem exists_of_ofPattern_ok {pattern : String} {policy : Policy} {m : Matcher}
    (h : ofPattern pattern policy = .ok m) :
    ∃ r, Regex.parse pattern.toList = .ok r ∧ m.program = r.program := by
  have hcompile := h
  rw [ofPattern, compile] at hcompile
  obtain ⟨p, hp, -⟩ := bind_ok_iff.mp hcompile
  obtain ⟨r, hr, -⟩ := bind_ok_iff.mp hp
  refine ⟨r, hr, ?_⟩
  rw [ofPattern_of_parse policy hr] at h
  split at h
  · rw [← Except.ok.inj h]
  · contradiction

theorem exists_ofLiteral_before_token {anchor token : String} {policy : Policy} {r : Regex}
    (hr : Regex.parse anchor.toList = .ok r)
    (hsize : ofLiteral ("(?:" ++ anchor ++ ")") token "(?:[\\s(),;]|$)" policy ≠ .error .tooLarge) :
    ∃ m, ofLiteral ("(?:" ++ anchor ++ ")") token "(?:[\\s(),;]|$)" policy = .ok m ∧
      m.program = (r.beforeToken token.toList).program := by
  have hparse := parse_before_token hr token.toList
  have htext : "(?:".toList ++ anchor.toList ++ ")".toList ++ escape token.toList ++
      "(?:[\\s(),;]|$)".toList = (("(?:" ++ anchor ++ ")") ++ String.ofList (escape token.toList) ++
        "(?:[\\s(),;]|$)").toList := by
    simp only [String.toList_append, String.toList_ofList]
  rw [htext] at hparse
  have hcompile := ofPattern_of_parse policy hparse
  rw [ofLiteral] at hsize ⊢
  rw [hcompile] at hsize ⊢
  split
  · exact ⟨_, rfl, rfl⟩
  · next hlarge => exact absurd (if_neg hlarge) hsize

section
variable {r : Regex} {a m : Matcher} {token sql : String}

/-- The walk finds the reported matches that the token follows. -/
theorem isFoundBefore_iff (ha : a.program = r.program) :
    a.isFoundBefore sql token = true ↔
      ∃ i j, r.program.Reports sql.toList i j ∧ HoldsToken token.toList sql.toList j := by
  rw [isFoundBefore, ha, Program.isFoundWith_iff_reports]
  simp only [startsWithToken_iff, HoldsToken, EndsToken]

theorem isFound_of_isFoundBefore (ha : a.program = r.program)
    (hm : m.program = (r.beforeToken token.toList).program) (h : a.isFoundBefore sql token = true) :
    m.isFound sql = true := by
  obtain ⟨i, j, hreports, htoken⟩ := (isFoundBefore_iff ha).mp h
  rw [isFound, hm, isFound_beforeToken_iff]
  exact ⟨i, j, hreports.occurs, htoken⟩

/-- What the compiled search finds at an exposed match, the walk finds too. -/
theorem isFoundBefore_of_exposed (ha : a.program = r.program)
    (hm : m.program = (r.beforeToken token.toList).program)
    (hexposed : ∀ i j, Occurs r sql.toList i j → HoldsToken token.toList sql.toList j →
      r.program.Exposed sql.toList i j) (h : m.isFound sql = true) :
    a.isFoundBefore sql token = true := by
  rw [isFound, hm, isFound_beforeToken_iff] at h
  obtain ⟨i, j, hoccurs, htoken⟩ := h
  have hi : i ≤ sql.toList.length := hoccurs.1.trans hoccurs.2.1
  exact (isFoundBefore_iff ha).mpr ⟨i, j, (hexposed i j hoccurs htoken).reports hi, htoken⟩

end

/-- **A token behind a match.** For every pattern, in whatever syntax it is written: the search for the
    pattern with the token and its end behind it finds exactly the occurrences of the pattern that the
    whole token follows, and the walk finds exactly those among them that it reports. So the walk finds nothing
    else, and it answers like the compiled search if every such occurrence is exposed. A pattern that is
    read here is read again in a group with the token and its end behind it, unless that becomes too large,
    and the two give such searches. -/
theorem isFoundBefore_against_compiled (token : String) :
    (∀ (r : Regex) (a m : Matcher), a.program = r.program →
      m.program = (r.beforeToken token.toList).program → ∀ sql : String,
        (m.isFound sql = true ↔
          ∃ i j, Occurs r sql.toList i j ∧ HoldsToken token.toList sql.toList j) ∧
        (a.isFoundBefore sql token = true ↔
          ∃ i j, r.program.Reports sql.toList i j ∧ HoldsToken token.toList sql.toList j) ∧
        (a.isFoundBefore sql token = true → m.isFound sql = true) ∧
        ((∀ i j, Occurs r sql.toList i j → HoldsToken token.toList sql.toList j →
            r.program.Exposed sql.toList i j) →
          a.isFoundBefore sql token = m.isFound sql)) ∧
    ∀ (anchor : String) (policy : Policy) (a : Matcher), ofPattern anchor policy = .ok a →
      ofLiteral ("(?:" ++ anchor ++ ")") token "(?:[\\s(),;]|$)" policy ≠ .error .tooLarge →
      ∃ r m, Regex.parse anchor.toList = .ok r ∧ a.program = r.program ∧
        ofLiteral ("(?:" ++ anchor ++ ")") token "(?:[\\s(),;]|$)" policy = .ok m ∧
        m.program = (r.beforeToken token.toList).program := by
  refine ⟨?_, ?_⟩
  · intro r a m ha hm sql
    refine ⟨?_, isFoundBefore_iff ha, isFound_of_isFoundBefore ha hm, fun hexposed => ?_⟩
    · rw [isFound, hm, isFound_beforeToken_iff]
    · exact Bool.eq_iff_iff.mpr
        ⟨isFound_of_isFoundBefore ha hm, isFoundBefore_of_exposed ha hm hexposed⟩
  · intro anchor policy a ha hsize
    obtain ⟨r, hr, hprogram⟩ := exists_of_ofPattern_ok ha
    obtain ⟨m, hm, hcompiled⟩ := exists_ofLiteral_before_token hr hsize
    exact ⟨r, m, hr, hprogram, hm, hcompiled⟩

/-- Behind the keyword of a reference, the walk finds a name wherever it stands. -/
theorem isFoundBefore_references : ∃ a m, ofPattern "references\\s+" .onMatch = .ok a ∧
    ofLiteral ("(?:" ++ "references\\s+" ++ ")") "a.b*" "(?:[\\s(),;]|$)" .onMatch = .ok m ∧
    ∀ sql, a.isFoundBefore sql "a.b*" = m.isFound sql := by
  have hparse : Regex.parse "references\\s+".toList = .ok (keyword "references".toList) := rfl
  have ha : ofPattern "references\\s+" .onMatch =
      .ok ⟨"references\\s+", .onMatch, (keyword "references".toList).program⟩ := rfl
  have hsize : ofLiteral ("(?:" ++ "references\\s+" ++ ")") "a.b*" "(?:[\\s(),;]|$)" .onMatch ≠
      .error .tooLarge := by
    obtain ⟨m, hm⟩ : ∃ m, ofLiteral ("(?:" ++ "references\\s+" ++ ")") "a.b*" "(?:[\\s(),;]|$)" .onMatch =
      .ok m := ⟨_, rfl⟩
    rw [hm]
    intro h
    cases h
  obtain ⟨htrees, hread⟩ := isFoundBefore_against_compiled "a.b*"
  obtain ⟨r, m, hr, hprogram, hm, hcompiled⟩ := hread "references\\s+" .onMatch _ ha hsize
  obtain rfl := Except.ok.inj (hparse.symm.trans hr)
  refine ⟨_, m, ha, hm, fun sql => (htrees _ _ m hprogram hcompiled sql).2.2.2 fun i j hoccurs htoken => ?_⟩
  obtain ⟨v, hv, -⟩ := htoken
  have hsolid : Text.trimStart (sql.toList.drop j) = sql.toList.drop j := by
    have hname : Text.isBlank 'a' = false := by decide
    rw [hv]
    exact Text.trimStart_cons hname
  have hprefers := prefers_of_occurs_keyword hoccurs hsolid
  exact (keyword_separate references_unbordered).exposed (hoccurs.1.trans hoccurs.2.1) hprefers

/-- The optional qualifier takes the first part of the name, so the walk looks for the name behind it. -/
theorem isFoundBefore_misses_shorter_match :
    ∃ a m, ofPattern "references\\s+(?:\\w+\\.)?" .onMatch = .ok a ∧
      ofLiteral ("(?:" ++ "references\\s+(?:\\w+\\.)?" ++ ")") "s.t" "(?:[\\s(),;]|$)" .onMatch = .ok m ∧
      a.isFoundBefore "references s.t" "s.t" = false ∧ m.isFound "references s.t" = true := by
  refine ⟨_, _, rfl, rfl, ?_, ?_⟩
  · decide +kernel
  · decide +kernel

end SqlSmell.Matcher
