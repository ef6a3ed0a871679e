import SqlSmell.Proofs.Pattern.Composition
import SqlSmell.Proofs.Pattern.Phrase
import SqlSmell.Proofs.Pattern.WholeToken

/- A literal text behind a pattern. Escaped, it adds its own characters to the pattern and nothing else,
   whatever they are: it cannot quantify what stands before it, open a group or end one
   (`parse_then_escape`). So the keyword of a reference, its blanks and a literal are found exactly where they
   stand in the text one behind the other (`ofLiteral_verbatim`), also if the literal itself starts with
   a blank and the run of blanks has to leave that one to it. -/
namespace SqlSmell.Pattern

/-- An escaped text behind a pattern adds its characters as items, one by one. -/
theorem parse_then_escape {pattern : List Char} {ts : List Token} {a : Assembly} (hreads : Reads pattern ts)
    (ha : Assembles .start ts a) (hclosed : a.outer = []) (w : List Char) :
    Regex.parse (pattern ++ escape w) =
      .ok (Branches.close { a.inner with items := (word w).reverse ++ a.inner.items }) := by
  have hescape : Reads (escape w) (literalTokens w) := by
    simpa using reads_escape w .nil
  -- no escaped text starts with a `?`, which could make the last quantifier of the pattern lazy
  have hmark : (escape w).head? ≠ some '?' := by
    have hhead : (escape w ++ []).head? ≠ some '?' := head?_escape (by simp)
    simpa using hhead
  exact parse_ok_iff.mpr
    ⟨_, _, hreads.append hescape hmark, ha.append (assembles_literal w a), hclosed, rfl⟩

/-- The keyword of a reference, its blanks, and a text. -/
def reference (w : List Char) : Regex := Regex.ofItems (word "references".toList ++ blankRun :: word w)

theorem parse_reference (w : List Char) :
    Regex.parse ("references\\s+".toList ++ escape w) = .ok (reference w) := by
  have hreads : Reads "references\\s+".toList
      (literalTokens "references".toList ++ [.set .blank, .quantifier 1 none true]) := tokens_ok_iff.mp rfl
  have hassembles : Assembles .start
      (literalTokens "references".toList ++ [.set .blank, .quantifier 1 none true])
      ⟨⟨[], blankRun :: (word "references".toList).reverse⟩, [], []⟩ := rfl
  rw [parse_then_escape hreads hassembles rfl]
  simp [Branches.close, reference, Regex.ofItems, Regex.ofReversedBranches]

end SqlSmell.Pattern

namespace SqlSmell.Matcher

open Pattern

theorem ofLiteral_reference (literal : String) (policy : Policy) :
    ofLiteral "references\\s+" literal "" policy =
      if (reference literal.toList).size ≤ sizeLimit then
        .ok ⟨"references\\s+" ++ String.ofList (escape literal.toList), policy, (reference literal.toList).program⟩
      else .error .tooLarge := by
  have hparse := parse_reference literal.toList
  have htext : "references\\s+".toList ++ escape literal.toList =
      ("references\\s+" ++ String.ofList (escape literal.toList)).toList := by
    simp only [String.toList_append, String.toList_ofList]
  rw [htext] at hparse
  rw [ofLiteral, String.append_empty, ofPattern_of_parse policy hparse]

/-- **A literal is matched as it is.** Behind the pattern of a reference every text compiles, whatever
    characters it holds, unless the pattern becomes too large. The search then finds exactly the texts that
    hold the keyword, one blank or more, and the literal to the letter. -/
theorem ofLiteral_verbatim (literal : String) (policy : Policy)
    (hsize : ofLiteral "references\\s+" literal "" policy ≠ .error .tooLarge) :
    ∃ m, ofLiteral "references\\s+" literal "" policy = .ok m ∧ m.policy = policy ∧
      ∀ sql : String, m.isFound sql = true ↔
        ∃ u w v, sql.toList = u ++ "references".toList ++ w ++ literal.toList ++ v ∧
          w ≠ [] ∧ ∀ c ∈ w, Text.isBlank c = true := by
  rw [ofLiteral_reference] at hsize ⊢
  split
  · refine ⟨_, rfl, rfl, fun sql => ?_⟩
    exact isFound_apart_iff "references".toList literal.toList sql.toList
  · next hlarge => exact absurd (if_neg hlarge) hsize

/-- The literal starts with a blank and then with what would be quantifiers: one blank is too few. -/
theorem ofLiteral_verbatim_quantifiers :
    ∃ m, ofLiteral "references\\s+" " ?+\x7b2\x7d*(\\d" "" .onMatch = .ok m ∧
      m.isFound "references \t ?+\x7b2\x7d*(\\d" = true ∧ m.isFound "references ?+\x7b2\x7d*(\\d" = false := by
  have hok : ∃ m, ofLiteral "references\\s+" " ?+\x7b2\x7d*(\\d" "" .onMatch = .ok m ∧
      m.isFound "references ?+\x7b2\x7d*(\\d" = false := ⟨_, rfl, by decide +kernel⟩
  obtain ⟨m, hm, hfew⟩ := hok
  obtain ⟨m', hm', -, hfound⟩ :=
    ofLiteral_verbatim " ?+\x7b2\x7d*(\\d" .onMatch (by rw [hm]; simp)
  obtain rfl := Except.ok.inj (hm.symm.trans hm')
  have hblanks : " \t".toList.all Text.isBlank = true := by decide
  exact ⟨m, hm, (hfound _).mpr ⟨[], " \t".toList, [], by decide, by decide, List.all_eq_true.mp hblanks⟩, hfew⟩

end SqlSmell.Matcher
