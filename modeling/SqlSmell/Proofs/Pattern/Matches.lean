import SqlSmell.Pattern.Reader

/- What a pattern matches, said without a machine. A place is a position in a text: the character before
   it and the text behind it. `Matches r x y` says that `r` can take the text from `x` up to `y`; it
   leaves open which of several matches is preferred. `MatchesAll` is the same for items one behind
   the other, and reads off the texts that words and blank runs match. -/
namespace SqlSmell.Pattern

/-- A position in a text. -/
structure Place where
  before : Option Char
  text : List Char
deriving DecidableEq

theorem getLast?_cons_or (c : Char) (w : List Char) (before : Option Char) :
    (c :: w).getLast?.or before = w.getLast?.or (some c) := by
  rw [List.getLast?_cons]
  cases w.getLast? <;> rfl

namespace Place

/-- The characters around the place. -/
def around (x : Place) : Around := ⟨x.before, x.text.head?⟩

/-- The place behind the text `w`, where `t` is left. -/
def behind (x : Place) (w t : List Char) : Place := ⟨w.getLast?.or x.before, t⟩

@[simp] theorem behind_text (x : Place) (w t : List Char) : (x.behind w t).text = t := rfl

theorem behind_nil (x : Place) : x.behind [] x.text = x := rfl

theorem behind_cons (x : Place) (c : Char) (w t : List Char) :
    x.behind (c :: w) t = (⟨some c, w ++ t⟩ : Place).behind w t := by
  rw [behind, behind, getLast?_cons_or]

end Place

/-- The pattern matches the text between two places. -/
inductive Matches : Regex → Place → Place → Prop
  | empty (x : Place) : Matches .empty x x
  | set {s : CharSet} {c : Char} (h : s.contains c = true) (b : Option Char) (t : List Char) :
      Matches (.set s) ⟨b, c :: t⟩ ⟨some c, t⟩
  | anchor {a : Anchor} {x : Place} (h : a.holds x.around = true) : Matches (.anchor a) x x
  | cat {r s : Regex} {x y z : Place} : Matches r x y → Matches s y z → Matches (.cat r s) x z
  | altFirst {r s : Regex} {x y : Place} : Matches r x y → Matches (.alt r s) x y
  | altSecond {r s : Regex} {x y : Place} : Matches s x y → Matches (.alt r s) x y
  | timesZero (r : Regex) (x : Place) : Matches (.times r 0) x x
  | timesMore {r : Regex} {n : Nat} {x y z : Place} :
      Matches r x y → Matches (.times r n) y z → Matches (.times r (n + 1)) x z
  | upToStop (r : Regex) (n : Nat) (greedy : Bool) (x : Place) : Matches (.upTo r n greedy) x x
  | upToMore {r : Regex} {n : Nat} {greedy : Bool} {x y z : Place} :
      Matches r x y → Matches (.upTo r n greedy) y z → Matches (.upTo r (n + 1) greedy) x z
  | starStop (r : Regex) (greedy : Bool) (x : Place) : Matches (.star r greedy) x x
  | starMore {r : Regex} {greedy : Bool} {x y z : Place} :
      Matches r x y → Matches (.star r greedy) y z → Matches (.star r greedy) x z
  | plus {r : Regex} {greedy : Bool} {x y z : Place} :
      Matches r x y → Matches (.star r greedy) y z → Matches (.plus r greedy) x z

/-! ## One lemma for each kind of pattern -/

section
variable {r s : Regex} {x y : Place}

theorem matches_empty_iff : Matches .empty x y ↔ y = x := by
  constructor
  · rintro ⟨⟩
    rfl
  · rintro rfl
    exact .empty y

theorem matches_set_iff {s : CharSet} :
    Matches (.set s) x y ↔ ∃ c t, x.text = c :: t ∧ s.contains c = true ∧ y = ⟨some c, t⟩ := by
  constructor
  · rintro (_ | ⟨h, b, t⟩)
    exact ⟨_, t, rfl, h, rfl⟩
  · rintro ⟨c, t, hx, h, rfl⟩
    obtain ⟨b, _⟩ := x
    subst hx
    exact .set h b t

theorem matches_anchor_iff {a : Anchor} :
    Matches (.anchor a) x y ↔ a.holds x.around = true ∧ y = x := by
  constructor
  · rintro (_ | _ | h)
    exact ⟨h, rfl⟩
  · rintro ⟨h, rfl⟩
    exact .anchor h

theorem matches_cat_iff : Matches (.cat r s) x y ↔ ∃ z, Matches r x z ∧ Matches s z y := by
  constructor
  · rintro (_ | _ | _ | ⟨hr, hs⟩)
    exact ⟨_, hr, hs⟩
  · rintro ⟨z, hr, hs⟩
    exact .cat hr hs

theorem matches_alt_iff : Matches (.alt r s) x y ↔ Matches r x y ∨ Matches s x y := by
  constructor
  · intro h
    cases h with
    | altFirst h => exact .inl h
    | altSecond h => exact .inr h
  · rintro (h | h)
    · exact .altFirst h
    · exact .altSecond h

/-- A repeated set takes a run of its members. -/
theorem matches_star_set_iff {s : CharSet} {greedy : Bool} :
    Matches (.star (.set s) greedy) x y ↔
      ∃ w t, x.text = w ++ t ∧ (∀ c ∈ w, s.contains c = true) ∧ y = x.behind w t := by
  constructor
  · intro h
    -- the induction is on the match, so the pattern must be a variable
    generalize hr : Regex.star (.set s) greedy = r at h
    induction h with
    | starStop _ _ x => exact ⟨[], x.text, rfl, by simp, rfl⟩
    | starMore hset _ _ ih =>
      obtain ⟨rfl, rfl⟩ := Regex.star.inj hr
      obtain ⟨c, t, hx, hc, rfl⟩ := matches_set_iff.mp hset
      obtain ⟨w, u, ht, hw, rfl⟩ := ih rfl
      refine ⟨c :: w, u, ?_, ?_, ?_⟩
      · rw [hx, show t = w ++ u from ht, List.cons_append]
      · simpa using ⟨hc, hw⟩
      · rw [Place.behind_cons, ← show t = w ++ u from ht]
    | _ => cases hr
  · rintro ⟨w, t, hx, hw, rfl⟩
    induction w generalizing x with
    | nil =>
      rw [show t = x.text from hx.symm, Place.behind_nil]
      exact .starStop _ _ x
    | cons c w ih =>
      rw [Place.behind_cons]
      refine .starMore (matches_set_iff.mpr ⟨c, w ++ t, hx, hw c (by simp), rfl⟩) ?_
      exact ih rfl (fun d hd => hw d (by simp [hd]))

theorem matches_plus_iff {greedy : Bool} :
    Matches (.plus r greedy) x y ↔ ∃ z, Matches r x z ∧ Matches (.star r greedy) z y := by
  constructor
  · intro h
    cases h with
    | plus hr hs => exact ⟨_, hr, hs⟩
  · rintro ⟨z, hr, hs⟩
    exact .plus hr hs

theorem matches_plus_set_iff {s : CharSet} {greedy : Bool} :
    Matches (.plus (.set s) greedy) x y ↔
      ∃ w t, x.text = w ++ t ∧ w ≠ [] ∧ (∀ c ∈ w, s.contains c = true) ∧ y = x.behind w t := by
  rw [matches_plus_iff]
  constructor
  · rintro ⟨z, hset, hstar⟩
    obtain ⟨c, t, hx, hc, rfl⟩ := matches_set_iff.mp hset
    obtain ⟨w, u, ht, hw, rfl⟩ := matches_star_set_iff.mp hstar
    have ht : t = w ++ u := ht
    subst ht
    exact ⟨c :: w, u, hx, by simp, by simpa using ⟨hc, hw⟩, (Place.behind_cons x c w u).symm⟩
  · rintro ⟨w, t, hx, hne, hw, rfl⟩
    obtain ⟨c, w, rfl⟩ := List.exists_cons_of_ne_nil hne
    refine ⟨⟨some c, w ++ t⟩, matches_set_iff.mpr ⟨c, w ++ t, hx, hw c (by simp), rfl⟩, ?_⟩
    rw [Place.behind_cons]
    exact matches_star_set_iff.mpr ⟨w, t, rfl, fun d hd => hw d (by simp [hd]), rfl⟩

end

/-! ## Items one behind the other -/

/-- The items match one behind the other. -/
def MatchesAll : List Regex → Place → Place → Prop
  | [], x, y => y = x
  | r :: items, x, y => ∃ z, Matches r x z ∧ MatchesAll items z y

/-- The pattern of items one behind the other. -/
def Regex.ofItems (items : List Regex) : Regex := .ofReversedItems items.reverse

/-- The characters of a text, as items. -/
def word (w : List Char) : List Regex := w.map fun c => .set (.one c)

section
variable {items : List Regex} {x y : Place}

theorem matchesAll_append {more : List Regex} :
    MatchesAll (items ++ more) x y ↔ ∃ z, MatchesAll items x z ∧ MatchesAll more z y := by
  induction items generalizing x with
  | nil => simp [MatchesAll]
  | cons r items ih =>
    simp only [List.cons_append, MatchesAll, ih]
    constructor
    · rintro ⟨u, hr, z, hitems, hmore⟩
      exact ⟨z, ⟨u, hr, hitems⟩, hmore⟩
    · rintro ⟨z, ⟨u, hr, hitems⟩, hmore⟩
      exact ⟨u, hr, z, hitems, hmore⟩

theorem matches_foldl_cat (tail : Regex) :
    Matches (items.foldl (fun tail r => .cat r tail) tail) x y ↔
      ∃ z, MatchesAll items.reverse x z ∧ Matches tail z y := by
  induction items generalizing tail with
  | nil => simp [MatchesAll]
  | cons r items ih =>
    rw [List.foldl_cons, ih, List.reverse_cons]
    simp only [matches_cat_iff, matchesAll_append, MatchesAll]
    constructor
    · rintro ⟨z, hitems, u, hr, htail⟩
      exact ⟨u, ⟨z, hitems, u, hr, rfl⟩, htail⟩
    · rintro ⟨_, ⟨z, hitems, u, hr, rfl⟩, htail⟩
      exact ⟨z, hitems, _, hr, htail⟩

/-- The items of a branch, which are given in reverse, match one behind the other. -/
theorem matches_ofReversedItems :
    Matches (.ofReversedItems items) x y ↔ MatchesAll items.reverse x y := by
  cases items with
  | nil => exact matches_empty_iff
  | cons last items =>
    rw [Regex.ofReversedItems, matches_foldl_cat, List.reverse_cons, matchesAll_append]
    simp [MatchesAll]

theorem matches_ofItems_iff : Matches (Regex.ofItems items) x y ↔ MatchesAll items x y := by
  rw [Regex.ofItems, matches_ofReversedItems, List.reverse_reverse]

theorem contains_one {c d : Char} : (CharSet.one c).contains d = true ↔ d = c := by
  simp only [CharSet.one, CharSet.contains, Bool.and_eq_true, decide_eq_true_eq]
  constructor
  · rintro ⟨h, h'⟩
    exact Char.le_antisymm h' h
  · rintro rfl
    exact ⟨Char.le_refl d, Char.le_refl d⟩

theorem matchesAll_word {w : List Char} :
    MatchesAll (word w ++ items) x y ↔
      ∃ t, x.text = w ++ t ∧ MatchesAll items (x.behind w t) y := by
  induction w generalizing x with
  | nil =>
    constructor
    · intro h
      exact ⟨x.text, rfl, h⟩
    · rintro ⟨t, hx, h⟩
      rwa [← show x.text = t from hx] at h
  | cons c w ih =>
    simp only [word, List.map_cons, List.cons_append, MatchesAll, matches_set_iff, contains_one]
    constructor
    · rintro ⟨_, ⟨c, u, hx, rfl, rfl⟩, h⟩
      obtain ⟨t, hu, h⟩ := ih.mp h
      have hu : u = w ++ t := hu
      subst hu
      exact ⟨t, hx, by rwa [Place.behind_cons]⟩
    · rintro ⟨t, hx, h⟩
      rw [Place.behind_cons] at h
      exact ⟨_, ⟨c, w ++ t, hx, rfl, rfl⟩, ih.mpr ⟨t, rfl, h⟩⟩

end

end SqlSmell.Pattern
