import SqlSmell.Proofs.Rule.Independence
import SqlSmell.Proofs.Rule.Baseline
import SqlSmell.Proofs.Text.Blank
import SqlSmell.Settings.Basic

/- Lists of titles with commas between them. Such a list is cut at every comma (`splitAtCommas_eq`), so that
   cutting and joining undo each other (`splitAtCommas_intercalate`, `intercalate_splitAtCommas`). Blanks around
   the pieces and blank pieces are passed over, and nothing else is (`Padded.titlesIn_eq`, `padded_titlesIn`);
   hence the list that is read is the list that was written, and any text is a list (`titleList_reads`). A title
   is tidy if it is not empty and has no blanks at its ends, in whatever case it is written
   (`Tidy.of_eqUpToCase`); the titles of the built-in rules are (`tidy_of_contains`). Where all pieces of a list
   are tidy, trimming them and leaving out blank ones changes nothing (`titleList_of_tidy`). -/
namespace SqlSmell

namespace Text

/-- Not empty, and without blanks at the ends. -/
def Tidy (s : List Char) : Prop := s ≠ [] ∧ trim s = s

instance (s : List Char) : Decidable (Tidy s) := inferInstanceAs (Decidable (s ≠ [] ∧ trim s = s))

theorem trim_map_toLower (s : List Char) : trim (s.map Char.toLower) = (trim s).map Char.toLower := by
  have hblank : isBlank ∘ Char.toLower = isBlank := funext isBlank_toLower
  simp only [trim, trimStart, trimEnd, List.dropWhile_map, ← List.map_reverse, hblank]

theorem Tidy.of_eqUpToCase {s t : String} (hs : Tidy s.toList) (h : EqUpToCase s t) : Tidy t.toList := by
  have hsmall : s.toList.map Char.toLower = t.toList.map Char.toLower :=
    String.ofList_inj.mp (eqUpToCase_iff.mp h)
  have hlength : s.toList.length = t.toList.length := by
    simpa using congrArg List.length hsmall
  refine ⟨?_, ?_⟩
  · intro hempty
    rw [hempty] at hlength
    exact hs.1 (List.length_eq_zero_iff.mp hlength)
  · apply (trim_sublist t.toList).eq_of_length
    have hsame : (trim t.toList).map Char.toLower = (trim s.toList).map Char.toLower := by
      rw [← trim_map_toLower, ← hsmall, trim_map_toLower]
    have hcut := congrArg List.length hsame
    rw [List.length_map, List.length_map, hs.2] at hcut
    omega

end Text

open Text (Tidy)

/-! ## Cutting at commas -/

/-- What a reader that collects pieces, last one first, has collected at the end. -/
theorem foldl_cut {read : List Char × List (List Char) → Char → List Char × List (List Char)}
    (hread : ∀ piece pieces c, read (piece, pieces) c =
      if c == ',' then ([], piece.reverse :: pieces) else (c :: piece, pieces))
    (s piece : List Char) (pieces : List (List Char)) :
    ((s.foldl read (piece, pieces)).1.reverse :: (s.foldl read (piece, pieces)).2).reverse =
      pieces.reverse ++ s.splitOnPPrepend (· == ',') piece := by
  induction s generalizing piece pieces with
  | nil => simp
  | cons c s ih =>
    rw [List.foldl_cons, hread, List.splitOnPPrepend_cons_eq_if]
    split
    · rw [ih, List.splitOnP_eq_splitOnPPrepend]
      simp
    · rw [ih]

/-- A list of titles is cut at every comma. -/
theorem splitAtCommas_eq (s : String) : splitAtCommas s = (s.toList.splitOn ',').map String.ofList := by
  show (List.map String.ofList (_ :: _)).reverse = _
  rw [← List.map_reverse, foldl_cut (fun _ _ _ => rfl), List.reverse_nil, List.nil_append,
    ← List.splitOnP_eq_splitOnPPrepend]
  rfl

/-- Every piece between commas is tidy. -/
def TidyList (list : String) : Prop := ∀ piece ∈ list.toList.splitOn ',', Tidy piece

instance (list : String) : Decidable (TidyList list) :=
  inferInstanceAs (Decidable (∀ piece ∈ list.toList.splitOn ',', Tidy piece))

theorem tidyList_iff {list : String} : TidyList list ↔ ∀ piece ∈ splitAtCommas list, Tidy piece.toList := by
  simp only [TidyList, splitAtCommas_eq, List.forall_mem_map, String.toList_ofList]

theorem titleList_of_tidy {list : String} (h : TidyList list) : titleList list = splitAtCommas list := by
  have hpieces := tidyList_iff.mp h
  have htrimmed : (splitAtCommas list).map (fun t => String.ofList (Text.trim t.toList)) =
      splitAtCommas list := by
    calc (splitAtCommas list).map (fun t => String.ofList (Text.trim t.toList))
        = (splitAtCommas list).map id := by
          apply List.map_congr_left
          intro piece hpiece
          rw [(hpieces piece hpiece).2, String.ofList_toList]
          rfl
      _ = splitAtCommas list := List.map_id _
  rw [titleList, htrimmed, List.filter_eq_self]
  intro piece hpiece
  have hne := (hpieces piece hpiece).1
  simpa using hne

/-! ## What lists hold -/

/-- A title as a list can hold it: not empty, without commas and without blanks at its ends. -/
structure Listable (title : String) : Prop where
  ne_nil : title.toList ≠ []
  comma_notMem : ',' ∉ title.toList
  solid_start : ∀ c, title.toList.head? = some c → Text.isBlank c = false
  solid_end : ∀ c, title.toList.getLast? = some c → Text.isBlank c = false

/-- Nothing but blanks, if anything. -/
def IsBlankPiece (piece : String) : Prop := ∀ c ∈ piece.toList, Text.isBlank c = true

instance (piece : String) : Decidable (IsBlankPiece piece) :=
  decidable_of_iff (piece.toList.all Text.isBlank = true) List.all_eq_true

/-- The pieces are the titles in order, with any blanks around them and any blank pieces among them. -/
inductive Padded : (pieces titles : List String) → Prop
  | nil : Padded [] []
  | blank {piece : String} {pieces titles : List String} (hpiece : IsBlankPiece piece)
      (hrest : Padded pieces titles) : Padded (piece :: pieces) titles
  | title {before title behind : String} {pieces titles : List String} (hbefore : IsBlankPiece before)
      (hbehind : IsBlankPiece behind) (hrest : Padded pieces titles) :
      Padded ((before ++ title ++ behind) :: pieces) (title :: titles)

/-- The titles that stand in pieces between commas. -/
def titlesIn (pieces : List String) : List String :=
  (pieces.map fun t => String.ofList (Text.trim t.toList)).filter fun t => !t.isEmpty

theorem titleList_eq (s : String) : titleList s = titlesIn (splitAtCommas s) := rfl

theorem titlesIn_append (pieces pieces' : List String) :
    titlesIn (pieces ++ pieces') = titlesIn pieces ++ titlesIn pieces' := by
  rw [titlesIn, List.map_append, List.filter_append]
  rfl

section
variable {piece title : String} {pieces titles : List String}

theorem titlesIn_cons_blank (h : IsBlankPiece piece) : titlesIn (piece :: pieces) = titlesIn pieces := by
  simp [titlesIn, Text.trim_eq_nil_iff.mpr h]

theorem titlesIn_cons_title (h : Text.trim piece.toList = title.toList) (hne : title.toList ≠ []) :
    titlesIn (piece :: pieces) = title :: titlesIn pieces := by
  have hnonempty : title ≠ "" := by simpa using hne
  simp [titlesIn, h, hnonempty]

theorem listable_iff_tidy : Listable title ↔ Tidy title.toList ∧ ',' ∉ title.toList := by
  refine ⟨?_, ?_⟩
  · intro h
    exact ⟨⟨h.ne_nil, Text.trim_eq_self_iff.mpr ⟨h.solid_start, h.solid_end⟩⟩, h.comma_notMem⟩
  · intro h
    obtain ⟨hstart, hend⟩ := Text.trim_eq_self_iff.mp h.1.2
    exact ⟨h.1.1, h.2, hstart, hend⟩

instance (title : String) : Decidable (Listable title) :=
  decidable_of_iff (Tidy title.toList ∧ ',' ∉ title.toList) listable_iff_tidy.symm

/-- Blanks around a title and blank pieces are passed over. -/
theorem Padded.titlesIn_eq (h : Padded pieces titles) (htitles : ∀ t ∈ titles, Listable t) :
    titlesIn pieces = titles := by
  induction h with
  | nil => rfl
  | blank hpiece _ ih => rw [titlesIn_cons_blank hpiece, ih htitles]
  | @title before title behind _ _ hbefore hbehind _ ih =>
    obtain ⟨hfirst, hothers⟩ := List.forall_mem_cons.mp htitles
    have htrim : Text.trim (before ++ title ++ behind).toList = title.toList := by
      rw [String.toList_append, String.toList_append, Text.trim_append_blanks hbehind,
        Text.trim_blanks_append hbefore, (listable_iff_tidy.mp hfirst).1.2]
    rw [titlesIn_cons_title htrim hfirst.ne_nil, ih hothers]

/-- Whatever the pieces are, they are the titles in them, padded. -/
theorem padded_titlesIn (pieces : List String) : Padded pieces (titlesIn pieces) := by
  induction pieces with
  | nil => exact .nil
  | cons piece pieces ih =>
    by_cases hblank : IsBlankPiece piece
    · rw [titlesIn_cons_blank hblank]
      exact .blank hblank ih
    · obtain ⟨w, w', hpiece, hw, hw'⟩ := Text.eq_blanks_trim_blanks piece.toList
      have hsplit : piece = String.ofList w ++ String.ofList (Text.trim piece.toList) ++ String.ofList w' := by
        rw [← String.ofList_append, ← String.ofList_append, ← hpiece, String.ofList_toList]
      have htitle : titlesIn (piece :: pieces) = String.ofList (Text.trim piece.toList) :: titlesIn pieces := by
        apply titlesIn_cons_title
        · rw [String.toList_ofList]
        · rw [String.toList_ofList]
          exact mt Text.trim_eq_nil_iff.mp hblank
      rw [htitle]
      nth_rewrite 1 [hsplit]
      exact .title (by simpa [IsBlankPiece] using hw) (by simpa [IsBlankPiece] using hw') ih

/-! ## Joining and cutting -/

theorem comma_notMem_of_blank (h : IsBlankPiece piece) : ',' ∉ piece.toList := by
  intro hmem
  have hcomma := h ',' hmem
  contradiction

theorem Padded.comma_notMem (h : Padded pieces titles) (htitles : ∀ t ∈ titles, Listable t) :
    ∀ piece ∈ pieces, ',' ∉ piece.toList := by
  induction h with
  | nil => exact List.forall_mem_nil _
  | blank hpiece _ ih => exact List.forall_mem_cons.mpr ⟨comma_notMem_of_blank hpiece, ih htitles⟩
  | title hbefore hbehind _ ih =>
    obtain ⟨hfirst, hothers⟩ := List.forall_mem_cons.mp htitles
    refine List.forall_mem_cons.mpr ⟨?_, ih hothers⟩
    simp only [String.toList_append, List.mem_append, not_or]
    exact ⟨⟨comma_notMem_of_blank hbefore, hfirst.comma_notMem⟩, comma_notMem_of_blank hbehind⟩

theorem splitAtCommas_intercalate (h : ∀ piece ∈ pieces, ',' ∉ piece.toList) (hne : pieces ≠ []) :
    splitAtCommas (",".intercalate pieces) = pieces := by
  have hcommas : ∀ piece ∈ pieces.map String.toList, ',' ∉ piece := List.forall_mem_map.mpr h
  rw [splitAtCommas_eq, String.toList_intercalate]
  show (([','].intercalate (pieces.map String.toList)).splitOn ',').map String.ofList = pieces
  rw [List.splitOn_intercalate ',' hcommas (by simpa using hne), List.map_map]
  simp

theorem intercalate_splitAtCommas (s : String) : ",".intercalate (splitAtCommas s) = s := by
  rw [← String.toList_inj, String.toList_intercalate, splitAtCommas_eq, List.map_map]
  have hsame : (s.toList.splitOn ',').map (String.toList ∘ String.ofList) = s.toList.splitOn ',' := by
    simp [Function.comp_def]
  rw [hsame]
  exact List.intercalate_splitOn ','

theorem splitAtCommas_append (a b : String) :
    splitAtCommas (a ++ "," ++ b) = splitAtCommas a ++ splitAtCommas b := by
  have hjoined : (a ++ "," ++ b).toList = a.toList ++ ',' :: b.toList := by simp
  rw [splitAtCommas_eq, hjoined, List.splitOn_append_cons_self, List.map_append, ← splitAtCommas_eq,
    ← splitAtCommas_eq]

theorem comma_notMem_of_mem_splitOn (s : List Char) : ∀ piece ∈ s.splitOn ',', ',' ∉ piece := by
  induction s with
  | nil => simp
  | cons c s ih =>
    rw [List.splitOn_cons_eq_if_modifyHead]
    split
    · exact List.forall_mem_cons.mpr ⟨List.not_mem_nil, ih⟩
    · next hc =>
      have hne : ',' ≠ c := Ne.symm (by simpa using hc)
      cases hsplit : s.splitOn ',' with
      | nil => exact absurd hsplit (List.splitOn_ne_nil ',' s)
      | cons first others =>
        rw [hsplit] at ih
        obtain ⟨hfirst, hothers⟩ := List.forall_mem_cons.mp ih
        exact List.forall_mem_cons.mpr ⟨List.not_mem_cons_of_ne_of_not_mem hne hfirst, hothers⟩

theorem listable_of_mem_titleList {s : String} (h : title ∈ titleList s) : Listable title := by
  obtain ⟨hmem, hne⟩ := List.mem_filter.mp h
  obtain ⟨piece, hpiece, rfl⟩ := List.mem_map.mp hmem
  rw [splitAtCommas_eq] at hpiece
  obtain ⟨cut, hcut, rfl⟩ := List.mem_map.mp hpiece
  simp only [listable_iff_tidy, String.toList_ofList] at hne ⊢
  refine ⟨⟨by simpa using hne, Text.trim_trim cut⟩, ?_⟩
  intro hcomma
  exact comma_notMem_of_mem_splitOn s.toList cut hcut ((Text.trim_sublist cut).subset hcomma)

theorem titleList_intercalate (htitles : ∀ t ∈ titles, Listable t) (h : Padded pieces titles) :
    titleList (",".intercalate pieces) = titles := by
  by_cases hne : pieces = []
  · subst hne
    exact h.titlesIn_eq htitles
  · rw [titleList_eq, splitAtCommas_intercalate (h.comma_notMem htitles) hne, h.titlesIn_eq htitles]

end

/-- **Lists of titles.** Reading undoes joining: titles that a list can hold, with any blanks around them and any
    blank pieces among them, are read back from the pieces joined with commas. Conversely each text is read
    as such titles, of which it is made up in this way, and a text joined from two with a comma is read as the
    titles of the first and then those of the second. -/
theorem titleList_reads :
    (∀ titles pieces : List String, (∀ t ∈ titles, Listable t) → Padded pieces titles →
      titleList (",".intercalate pieces) = titles) ∧
    (∀ text : String, (∀ t ∈ titleList text, Listable t) ∧
      ∃ pieces, Padded pieces (titleList text) ∧ ",".intercalate pieces = text) ∧
    ∀ a b : String, titleList (a ++ "," ++ b) = titleList a ++ titleList b := by
  refine ⟨?_, ?_, ?_⟩
  · intro titles pieces htitles h
    exact titleList_intercalate htitles h
  · intro text
    refine ⟨fun t ht => listable_of_mem_titleList ht, splitAtCommas text, ?_, intercalate_splitAtCommas text⟩
    rw [titleList_eq]
    exact padded_titlesIn _
  · intro a b
    rw [titleList_eq, splitAtCommas_append, titlesIn_append]
    rfl

/-- Two titles with blanks of several kinds around them, and empty and blank pieces at both ends and between
    them. -/
theorem titleList_reads_padded :
    (∀ t ∈ ["SELECT *", "Foreign Key Exists"], Listable t) ∧
      Padded ["", "\u2003SELECT *\t", " \n", "Foreign Key Exists ", "\u00A0"] ["SELECT *", "Foreign Key Exists"] ∧
      titleList ",\u2003SELECT *\t, \n,Foreign Key Exists ,\u00A0" = ["SELECT *", "Foreign Key Exists"] := by
  have htitles : ∀ t ∈ ["SELECT *", "Foreign Key Exists"], Listable t := by decide
  have hfirst : "\u2003SELECT *\t" = "\u2003" ++ "SELECT *" ++ "\t" := by decide
  have hsecond : "Foreign Key Exists " = "" ++ "Foreign Key Exists" ++ " " := by decide
  have hpadded : Padded ["", "\u2003SELECT *\t", " \n", "Foreign Key Exists ", "\u00A0"]
      ["SELECT *", "Foreign Key Exists"] := by
    rw [hfirst, hsecond]
    refine .blank (by decide) (.title (by decide) (by decide) (.blank (by decide) ?_))
    exact .title (by decide) (by decide) (.blank (by decide) .nil)
  have hjoined : ",".intercalate ["", "\u2003SELECT *\t", " \n", "Foreign Key Exists ", "\u00A0"] =
      ",\u2003SELECT *\t, \n,Foreign Key Exists ,\u00A0" := by decide
  refine ⟨htitles, hpadded, ?_⟩
  rw [← hjoined]
  exact titleList_reads.1 _ _ htitles hpadded

/-! ## Titles of rules -/

/-- Only tidy titles name built-in rules. -/
theorem tidy_of_contains {g : Registry} (hg : g.titles = Baseline.titles) {title : String}
    (h : g.contains title = true) : Tidy title.toList := by
  have hbuiltIn : Baseline.titles.all (fun t => decide (Tidy t.toList)) = true := by decide
  rw [Registry.contains_iff, hg] at h
  obtain ⟨t, ht, hsame⟩ := h
  exact (of_decide_eq_true (List.all_eq_true.mp hbuiltIn t ht)).of_eqUpToCase hsame

end SqlSmell
