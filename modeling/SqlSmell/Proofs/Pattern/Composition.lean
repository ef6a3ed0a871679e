import SqlSmell.Proofs.Pattern.Reading

/- Patterns put together from texts. A pattern in a group is one item of the pattern around it, whatever it
   holds (`Assembles.group`); an escaped text is the word that it spells, character by character
   (`reads_escape`, `assembles_literal`), so nothing in it is taken for syntax. -/
namespace SqlSmell.Pattern

/-! ## Literal texts -/

/-- The tokens of a text that is matched as it is. -/
def literalTokens (w : List Char) : List Token := w.map fun c => .set (.one c)

theorem readEscape_of_isMeta {c : Char} (h : isMeta c = true) (s : List Char) :
    readEscape (c :: s) = .ok (.set (.one c), s) := by
  have hall : ("\\.+*?()|[]\x7b\x7d^$#&-~".toList.all fun d =>
      decide (readEscape [d] = .ok (.set (.one d), []))) = true := by decide
  have hmem : c ∈ "\\.+*?()|[]\x7b\x7d^$#&-~".toList := by simpa [isMeta] using h
  have hc := of_decide_eq_true (List.all_eq_true.mp hall c hmem)
  exact (readEscape_local hc).2 s

theorem readToken_of_not_isMeta {c : Char} (h : isMeta c = false) (s : List Char) :
    readToken c s = .ok (.set (.one c), s) := by
  refine readToken_one ?_ s
  intro hc
  have hall : "\\[\x7b()|.^$*+?".toList.all isMeta = true := by decide
  rw [List.all_eq_true.mp hall c hc] at h
  contradiction

theorem reads_escape {q : List Char} {us : List Token} (w : List Char) (h : Reads q us) :
    Reads (escape w ++ q) (literalTokens w ++ us) := by
  induction w with
  | nil => exact h
  | cons c w ih =>
    rw [escape, List.flatMap_cons, List.append_assoc]
    cases hc : isMeta c with
    | true => exact .cons (readEscape_of_isMeta hc _) ih
    | false => exact .cons (readToken_of_not_isMeta hc _) ih

theorem head?_escape {w q : List Char} (h : q.head? ≠ some '?') : (escape w ++ q).head? ≠ some '?' := by
  cases w with
  | nil => exact h
  | cons c w =>
    rw [escape, List.flatMap_cons, List.append_assoc]
    cases hc : isMeta c with
    | true => simp
    | false =>
      intro hhead
      obtain rfl : c = '?' := by simpa using hhead
      contradiction

/-! ## Assembly -/

/-- The tokens lead from one state to the other. -/
def Assembles (a : Assembly) (ts : List Token) (b : Assembly) : Prop :=
  ts.foldlM Assembly.take a = .ok b

section
variable {a b d : Assembly} {t : Token} {ts us : List Token}

theorem assembles_cons_iff :
    Assembles a (t :: ts) d ↔ ∃ b, a.take t = .ok b ∧ Assembles b ts d := by
  rw [Assembles, List.foldlM_cons, bind_ok_iff]
  rfl

theorem Assembles.append (h : Assembles a ts b) (h' : Assembles b us d) : Assembles a (ts ++ us) d := by
  rw [Assembles, List.foldlM_append, bind_ok_iff]
  exact ⟨b, h, h'⟩

/-- The state inside more groups. -/
def Assembly.under (a : Assembly) (groups : List Branches) : Assembly :=
  { a with outer := a.outer ++ groups }

theorem take_under (groups : List Branches) (h : a.take t = .ok b) :
    (a.under groups).take t = .ok (b.under groups) := by
  cases t with
  | set s =>
    cases h
    rfl
  | anchor c =>
    cases h
    rfl
  | openGroup name =>
    cases name with
    | none =>
      cases h
      rfl
    | some name =>
      rw [Assembly.take] at h ⊢
      split at h
      · contradiction
      · next hname =>
        cases h
        exact if_neg hname
  | closeGroup =>
    obtain ⟨inner, outer, names⟩ := a
    cases outer with
    | nil => contradiction
    | cons around outer =>
      cases h
      rfl
  | bar =>
    cases h
    rfl
  | quantifier min max greedy =>
    obtain ⟨⟨finished, items⟩, outer, names⟩ := a
    cases items with
    | nil => contradiction
    | cons r items =>
      cases h
      rfl

/-- Tokens that close no group of the state's own do the same inside more groups. -/
theorem Assembles.under (groups : List Branches) (h : Assembles a ts b) :
    Assembles (a.under groups) ts (b.under groups) := by
  induction ts generalizing a with
  | nil =>
    cases h
    rfl
  | cons t ts ih =>
    obtain ⟨c, ht, hts⟩ := assembles_cons_iff.mp h
    exact assembles_cons_iff.mpr ⟨c.under groups, take_under groups ht, ih hts⟩

/-- A pattern in a group becomes one item. Its own groups may have names, so none may be taken. -/
theorem Assembles.group (inner : Branches) (outer : List Branches) (h : Assembles .start ts a)
    (hclosed : a.outer = []) :
    Assembles ⟨inner, outer, []⟩ (.openGroup none :: (ts ++ [.closeGroup]))
      ⟨inner.add a.inner.close, outer, a.names⟩ := by
  refine assembles_cons_iff.mpr ⟨Assembly.start.under (inner :: outer), rfl, ?_⟩
  refine (h.under (inner :: outer)).append (assembles_cons_iff.mpr ⟨_, ?_, rfl⟩)
  obtain ⟨branches, rest, names⟩ := a
  obtain rfl : rest = [] := hclosed
  rfl

theorem assembles_literal (w : List Char) (a : Assembly) :
    Assembles a (literalTokens w)
      { a with inner := { a.inner with items := (word w).reverse ++ a.inner.items } } := by
  induction w generalizing a with
  | nil => rfl
  | cons c w ih =>
    refine assembles_cons_iff.mpr ⟨_, rfl, ?_⟩
    have hitems : (word (c :: w)).reverse ++ a.inner.items =
        (word w).reverse ++ (.set (.one c) :: a.inner.items) := by simp [word]
    rw [hitems]
    exact ih _

end

theorem Assembly.close_ok_iff {a : Assembly} {r : Regex} :
    a.close = .ok r ↔ a.outer = [] ∧ a.inner.close = r := by
  obtain ⟨inner, outer, names⟩ := a
  cases outer <;> simp [Assembly.close]

theorem parse_ok_iff {s : List Char} {r : Regex} :
    Regex.parse s = .ok r ↔
      ∃ ts a, Reads s ts ∧ Assembles .start ts a ∧ a.outer = [] ∧ a.inner.close = r := by
  rw [Regex.parse, bind_ok_iff]
  refine exists_congr fun ts => ?_
  rw [tokens_ok_iff, bind_ok_iff, ← exists_and_left]
  refine exists_congr fun a => ?_
  rw [Assembly.close_ok_iff]
  rfl

/-! ## A pattern followed by a whole token -/

/-- The characters that end a token. -/
def tokenEnds : CharSet :=
  .union (.union (.union (.union (.union .none .blank) (.one '(')) (.one ')')) (.one ',')) (.one ';')

/-- What follows a whole token: one of the characters that end it, or the end of the text. -/
def tokenEnd : Regex := .alt (.set tokenEnds) (.anchor .textEnd)

/-- The pattern, and behind it the token as a whole. -/
def Regex.beforeToken (r : Regex) (token : List Char) : Regex := Regex.ofItems (r :: word token ++ [tokenEnd])

/-- The written form of `tokenEnd`, as tokens. -/
def tokenEndTokens : List Token :=
  [.openGroup none, .set tokenEnds, .bar, .anchor .textEnd, .closeGroup]

theorem reads_tokenEnd : Reads "(?:[\\s(),;]|$)".toList tokenEndTokens := tokens_ok_iff.mp rfl

theorem assembles_tokenEnd (a : Assembly) :
    Assembles a tokenEndTokens { a with inner := a.inner.add tokenEnd } := rfl

theorem reads_before_token {pattern : List Char} {ts : List Token} (h : Reads pattern ts)
    (token : List Char) :
    Reads ("(?:".toList ++ pattern ++ ")".toList ++ escape token ++ "(?:[\\s(),;]|$)".toList)
      (.openGroup none :: (ts ++ [.closeGroup]) ++ (literalTokens token ++ tokenEndTokens)) := by
  have hgroup : Reads (pattern ++ ")".toList) (ts ++ [.closeGroup]) :=
    h.append (.cons rfl .nil) (by decide)
  have hbehind := reads_escape token reads_tokenEnd
  have hwhole : Reads ("(?:".toList ++ (pattern ++ ")".toList))
      (.openGroup none :: (ts ++ [.closeGroup])) := .cons rfl hgroup
  have hall := hwhole.append hbehind (head?_escape (by decide))
  simpa only [List.append_assoc] using hall

theorem parse_before_token {pattern : List Char} {r : Regex} (h : Regex.parse pattern = .ok r)
    (token : List Char) :
    Regex.parse ("(?:".toList ++ pattern ++ ")".toList ++ escape token ++ "(?:[\\s(),;]|$)".toList) =
      .ok (r.beforeToken token) := by
  obtain ⟨ts, a, hreads, hassembles, hclosed, rfl⟩ := parse_ok_iff.mp h
  have hgroup := hassembles.group .empty [] hclosed
  have hall := hgroup.append ((assembles_literal token _).append (assembles_tokenEnd _))
  refine parse_ok_iff.mpr ⟨_, _, reads_before_token hreads token, hall, rfl, ?_⟩
  simp [Branches.close, Branches.add, Branches.empty, Regex.beforeToken, Regex.ofItems,
    Regex.ofReversedBranches]

end SqlSmell.Pattern
