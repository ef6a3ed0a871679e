import SqlSmell.Render.Document
import SqlSmell.Render.Yaml
import Mathlib.Data.List.Basic

/- Structured output holds no escape character, whatever texts it is made of. In JSON a control
   character is always written as an escape of that format (`json_free`). In YAML it takes a text out
   of every style but the double quotes, which do the same (`scalar_free`); only the names of fields
   are written as they are (`toYaml_free`). -/
namespace SqlSmell.Render

/-- The character that starts the sequences of a terminal. -/
def escape : Char := '\x1b'

/-- A text without the escape character. -/
def Free (s : String) : Prop := escape ∉ s.toList

instance (s : String) : Decidable (Free s) := inferInstanceAs (Decidable (escape ∉ s.toList))

theorem free_ofList {s : List Char} : Free (String.ofList s) ↔ escape ∉ s := by
  rw [Free, String.toList_ofList]

@[simp] theorem free_append {s t : String} : Free (s ++ t) ↔ Free s ∧ Free t := by
  simp [Free]

theorem escape_notMem_replicate (n : Nat) : escape ∉ List.replicate n ' ' := by
  intro h
  exact absurd (List.eq_of_mem_replicate h) (by decide)

theorem free_blanks (n : Nat) : Free (blanks n) := free_ofList.mpr (escape_notMem_replicate n)

theorem free_number (n : Nat) : Free (toString n) := by
  intro h
  rw [Nat.toString_eq_repr, Nat.toList_repr] at h
  exact absurd (Nat.isDigit_of_mem_toDigits (by decide) (by decide) h) (by decide)

theorem free_flagText (b : Bool) : Free (flagText b) := by
  cases b <;> decide

/-! ## JSON -/

theorem escape_ne_digitChar (n : Nat) : escape ≠ Nat.digitChar (n % 16) := by
  have hdigits : ∀ k < 16, escape ≠ Nat.digitChar k := by decide
  exact hdigits _ (Nat.mod_lt n (by decide))

theorem escape_notMem_jsonChar (c : Char) : escape ∉ jsonChar c := by
  unfold jsonChar
  split
  all_goals try decide
  split
  · simp only [List.mem_cons, List.not_mem_nil, or_false, not_or]
    exact ⟨by decide, by decide, by decide, by decide, escape_ne_digitChar _, escape_ne_digitChar _⟩
  · rename_i hlarge
    intro h
    obtain rfl := List.mem_singleton.mp h
    exact hlarge (by decide)

theorem jsonString_free (s : String) : Free (jsonString s) := by
  apply free_ofList.mpr
  simp only [List.mem_cons, List.mem_append, List.mem_flatMap, List.not_mem_nil, or_false, not_or, not_exists,
    not_and]
  exact ⟨by decide, fun c _ => escape_notMem_jsonChar c, by decide⟩

mutual

/-- A value in JSON holds no escape. -/
theorem json_free (indent : Nat) : ∀ d : Document, Free (d.json indent)
  | .text s => by
    rw [Document.json]
    exact jsonString_free s
  | .number n => by
    rw [Document.json]
    exact free_number n
  | .flag b => by
    rw [Document.json]
    exact free_flagText b
  | .list [] => by
    rw [Document.json]
    decide
  | .list (d :: ds) => by
    simp only [Document.json, free_append, free_blanks, json_free (indent + 2) d, jsonItems_free (indent + 2) ds,
      and_true]
    decide
  | .record [] => by
    rw [Document.json]
    decide
  | .record ((name, d) :: fields) => by
    simp only [Document.json, free_append, free_blanks, jsonString_free, json_free (indent + 2) d,
      jsonFields_free (indent + 2) fields, and_true]
    decide

theorem jsonItems_free (indent : Nat) : ∀ ds : List Document, Free (jsonItems indent ds)
  | [] => by
    rw [jsonItems]
    decide
  | d :: ds => by
    simp only [jsonItems, free_append, free_blanks, json_free indent d, jsonItems_free indent ds, and_true]
    decide

theorem jsonFields_free (indent : Nat) : ∀ fields : List (String × Document), Free (jsonFields indent fields)
  | [] => by
    rw [jsonFields]
    decide
  | (name, d) :: fields => by
    simp only [jsonFields, free_append, free_blanks, jsonString_free, json_free indent d,
      jsonFields_free indent fields, and_true]
    decide

end

/-! ## Texts in YAML -/

namespace Yaml

theorem isPrintable_escape : isPrintable escape = false := by decide

theorem escape_notMem_hexPadded (n digits : Nat) : escape ∉ hexPadded n digits := by
  induction digits generalizing n with
  | zero => exact List.not_mem_nil
  | succ digits ih =>
    have hdigits : ∀ k < 16, escape ≠ (Nat.digitChar k).toUpper := by decide
    rw [hexPadded, List.mem_append, List.mem_singleton, not_or]
    exact ⟨ih (n / 16), hdigits _ (Nat.mod_lt n (by decide))⟩

theorem escape_notMem_doubleChar (c : Char) : escape ∉ doubleChar c := by
  unfold doubleChar
  dsimp only
  split
  · rename_i hprintable
    intro h
    obtain rfl := List.mem_singleton.mp h
    simp [isPrintable_escape] at hprintable
  · split
    all_goals try decide
    -- what is left is written by its number
    split_ifs
    all_goals simp only [List.mem_cons, escape_notMem_hexPadded, List.not_mem_nil, or_false]
    all_goals decide

/-- Outside double quotes every character of a text can be written as it is. -/
theorem escape_notMem_of_style {text : String} (h : style text ≠ .double) : escape ∉ text.toList := by
  have hneeds : needsEscapes text.toList = false := by
    by_contra hneeds
    rw [Bool.not_eq_false] at hneeds
    exact h (by simp [style, hneeds])
  intro hmem
  rw [needsEscapes, Bool.or_eq_false_iff, List.any_eq_false] at hneeds
  exact hneeds.1 escape hmem (by decide)

theorem escape_notMem_indentLines {indent : Nat} {write : Char → List Char} {s : List Char}
    (hs : ∀ c ∈ s, c ≠ escape ∧ escape ∉ write c) (atStart : Bool) {out : List Char} (hout : escape ∉ out) :
    escape ∉ indentLines indent write atStart out s := by
  induction s generalizing atStart out with
  | nil => exact hout
  | cons c s ih =>
    have hc := hs c List.mem_cons_self
    have hrest : ∀ d ∈ s, d ≠ escape ∧ escape ∉ write d := fun d hd => hs d (List.mem_cons_of_mem c hd)
    rw [indentLines]
    split
    · apply ih hrest
      rw [List.mem_cons, not_or]
      exact ⟨Ne.symm hc.1, hout⟩
    · apply ih hrest
      rw [List.mem_append, List.mem_reverse, not_or]
      refine ⟨hc.2, ?_⟩
      split
      · rw [List.mem_append, not_or]
        exact ⟨escape_notMem_replicate indent, hout⟩
      · exact hout

theorem escape_notMem_singleChar {c : Char} (h : c ≠ escape) : escape ∉ singleChar c := by
  rw [singleChar]
  split <;> simp [Ne.symm h]

theorem escape_notMem_chomping (s : List Char) : escape ∉ chomping s := by
  unfold chomping
  repeat' split
  all_goals decide

theorem escape_notMem_indentation (s : List Char) : escape ∉ indentation s := by
  unfold indentation
  repeat' split
  all_goals decide

/-- A text in YAML holds no escape. -/
theorem scalar_free (indent : Nat) (text : String) : Free (scalar indent text) := by
  unfold scalar
  split
  next hstyle =>
    rw [free_append]
    exact ⟨escape_notMem_of_style (by simp [hstyle]), by decide⟩
  next hstyle =>
    have htext : escape ∉ text.toList := escape_notMem_of_style (by simp [hstyle])
    have hbody : escape ∉ indentLines indent singleChar false ['\x27'] text.toList := by
      apply escape_notMem_indentLines _ false (by decide)
      intro c hc
      have hne : c ≠ escape := ne_of_mem_of_not_mem hc htext
      exact ⟨hne, escape_notMem_singleChar hne⟩
    rw [free_ofList, List.mem_reverse, List.mem_cons, List.mem_cons, not_or, not_or]
    refine ⟨by decide, by decide, ?_⟩
    split
    · rw [List.mem_append, not_or]
      exact ⟨escape_notMem_replicate indent, hbody⟩
    · exact hbody
  next =>
    rw [free_ofList]
    simp only [List.mem_cons, List.mem_append, List.mem_flatMap, List.not_mem_nil, or_false, not_or, not_exists,
      not_and]
    exact ⟨by decide, fun c _ => escape_notMem_doubleChar c, by decide, by decide⟩
  next hstyle =>
    have htext : escape ∉ text.toList := escape_notMem_of_style (by simp [hstyle])
    have hopening : escape ∉ ('|' :: (indentation text.toList ++ chomping text.toList ++ ['\n'])).reverse := by
      simp only [List.mem_reverse, List.mem_cons, List.mem_append, escape_notMem_indentation,
        escape_notMem_chomping, List.not_mem_nil, or_false, false_or, not_or]
      exact ⟨by decide, by decide⟩
    have hchars : ∀ c ∈ text.toList, c ≠ escape ∧ escape ∉ [c] := by
      intro c hc
      have hne : c ≠ escape := ne_of_mem_of_not_mem hc htext
      exact ⟨hne, fun h => hne (List.mem_singleton.mp h).symm⟩
    rw [free_ofList, List.mem_reverse]
    split
    · exact escape_notMem_indentLines hchars true hopening
    · rw [List.mem_cons, not_or]
      exact ⟨by decide, escape_notMem_indentLines hchars true hopening⟩

end Yaml

/-! ## Documents in YAML -/

mutual

/-- No name of a field in the document holds an escape. -/
def Document.NamesFree : Document → Prop
  | .text _ => True
  | .number _ => True
  | .flag _ => True
  | .list items => ItemsFree items
  | .record fields => FieldsFree fields

/-- The names in all items. -/
def ItemsFree : List Document → Prop
  | [] => True
  | d :: ds => d.NamesFree ∧ ItemsFree ds

/-- The names of all fields and the names in them. -/
def FieldsFree : List (String × Document) → Prop
  | [] => True
  | (name, d) :: fields => Free name ∧ d.NamesFree ∧ FieldsFree fields

end

theorem itemsFree_map {α : Type} {document : α → Document} (h : ∀ x, (document x).NamesFree) (xs : List α) :
    ItemsFree (xs.map document) := by
  induction xs with
  | nil => trivial
  | cons x xs ih => exact ⟨h x, ih⟩

/-- An item behind its dash, with the other items behind it. -/
theorem item_free (column : Nat) {value rest : String} (hvalue : Free value) (hrest : Free rest) :
    Free (blanks column ++ "-" ++ value ++ rest) := by
  simp only [free_append, free_blanks, hvalue, hrest, and_true, true_and]
  decide

mutual

theorem yaml_free (column indent : Nat) : ∀ d : Document, d.NamesFree → Free (d.yaml column indent)
  | .text s, _ => by
    rw [Document.yaml, free_append]
    exact ⟨by decide, Yaml.scalar_free indent s⟩
  | .number n, _ => by
    simp only [Document.yaml, free_append, free_number, and_true]
    decide
  | .flag b, _ => by
    simp only [Document.yaml, free_append, free_flagText, and_true]
    decide
  | .list [], _ => by
    rw [Document.yaml]
    decide
  | .list (d :: ds), h => by
    rw [Document.yaml, free_append]
    exact ⟨by decide, yamlItems_free column (d :: ds) h⟩
  | .record [], _ => by
    rw [Document.yaml]
    decide
  | .record (f :: fields), h => by
    rw [Document.yaml, free_append]
    exact ⟨by decide, yamlFields_free indent (f :: fields) h⟩

theorem yamlItems_free (column : Nat) : ∀ ds : List Document, ItemsFree ds → Free (yamlItems column ds)
  | [], _ => by
    rw [yamlItems]
    decide
  | .record ((name, d) :: fields) :: ds, h => by
    simp only [yamlItems, free_append, free_blanks, h.1.1, yaml_free _ _ d h.1.2.1,
      yamlFields_free _ fields h.1.2.2, yamlItems_free column ds h.2, and_true, true_and]
    decide
  | .record [] :: ds, h => by
    simp only [yamlItems]
    exact item_free column (yaml_free _ _ (.record []) h.1) (yamlItems_free column ds h.2)
  | .text s :: ds, h => by
    simp only [yamlItems]
    exact item_free column (yaml_free _ _ (.text s) h.1) (yamlItems_free column ds h.2)
  | .number n :: ds, h => by
    simp only [yamlItems]
    exact item_free column (yaml_free _ _ (.number n) h.1) (yamlItems_free column ds h.2)
  | .flag b :: ds, h => by
    simp only [yamlItems]
    exact item_free column (yaml_free _ _ (.flag b) h.1) (yamlItems_free column ds h.2)
  | .list items :: ds, h => by
    simp only [yamlItems]
    exact item_free column (yaml_free _ _ (.list items) h.1) (yamlItems_free column ds h.2)

theorem yamlFields_free (column : Nat) :
    ∀ fields : List (String × Document), FieldsFree fields → Free (yamlFields column fields)
  | [], _ => by
    rw [yamlFields]
    decide
  | (name, d) :: fields, h => by
    simp only [yamlFields, free_append, free_blanks, h.1, yaml_free _ _ d h.2.1,
      yamlFields_free column fields h.2.2, and_true, true_and]
    decide

end

/-- A whole document in YAML holds no escape if its names hold none. -/
theorem toYaml_free {d : Document} (h : d.NamesFree) : Free d.toYaml := by
  unfold Document.toYaml
  split
  · exact yamlItems_free 0 _ h
  · exact yamlFields_free 0 _ h
  · exact Yaml.scalar_free 0 _
  · rw [free_append]
    exact ⟨free_number _, by decide⟩
  · rw [free_append]
    exact ⟨free_flagText _, by decide⟩
  · decide
  · decide

end SqlSmell.Render
