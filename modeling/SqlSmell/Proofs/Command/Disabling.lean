import SqlSmell.Command.Session
import SqlSmell.Proofs.Command.Failure
import SqlSmell.Proofs.Settings.Precedence
import SqlSmell.Proofs.Settings.Titles

/- Two ways to disable rules by a list of titles with commas: an option of the command line, and a variable of
   the environment. To read words with titles disabled beforehand is to read them and then disable the titles
   (`Parse.words_disabling`), so that the option is its list and nothing else, wherever the other words lead
   (`Parse.words_disableOption`). The option takes the pieces of its list as they are, and the variable trims
   them and leaves out empty ones. Both come to one check with titles disabled (`attempt_option`,
   `attempt_variable`), and a piece that the variable would change names no rule
   (`outcomeWithout_of_not_tidy`). -/
namespace SqlSmell.Command

/-! ## Reading words with titles already disabled -/

/-- The values of the options, with some titles in front of those that the options disable. -/
def Given.disabling (titles : List String) (g : Given) : Given := { g with disable := titles ++ g.disable }

/-- The reader of the words, with some titles in front of those that the words so far disable. -/
def Parse.disabling (titles : List String) (p : Parse) : Parse :=
  { p with given := p.given.disabling titles }

section
variable (titles : List String) (p : Parse)

theorem Given.accept_disabling (g : Given) (s : Switch) (value : String) :
    (g.disabling titles).accept s value = Given.disabling titles <$> g.accept s value := by
  cases s with
  | config => cases h : once g.config (path value) <;> simp [accept, disabling, h]
  | format => cases h : once g.format (known (formatNamed? value)) <;> simp [accept, disabling, h]
  | delimiter => cases h : once g.delimiter (character value) <;> simp [accept, disabling, h]
  | minSeverity =>
    cases h : once g.minSeverity (known (severityNamed? value)) <;> simp [accept, disabling, h]
  | disable => simp [accept, disabling]
  | verbose | noColor | help | version => rfl

theorem Given.raise_disabling (g : Given) (s : Switch) :
    (g.disabling titles).raise s = Given.disabling titles <$> g.raise s := by
  cases s with
  | verbose => cases h : g.verbose <;> simp [raise, disabling, h]
  | noColor => cases h : g.noColor <;> simp [raise, disabling, h]
  | help | version | config | format | delimiter | minSeverity | disable => rfl

theorem Parse.settle_disabling : (p.disabling titles).settle = Given.disabling titles <$> p.settle := by
  unfold settle disabling
  cases p.pending with
  | nothing => rfl
  | awaiting s => rfl
  | option s value => exact Given.accept_disabling titles p.given s value
  | files paths => dsimp only; split <;> rfl

theorem Parse.accept_disabling (s : Switch) (value : String) :
    (p.disabling titles).accept s value = Parse.disabling titles <$> p.accept s value := by
  simp only [accept, settle_disabling, bind_map_left, Given.accept_disabling, map_bind, map_pure]
  rfl

theorem Parse.raise_disabling (s : Switch) :
    (p.disabling titles).raise s = Parse.disabling titles <$> p.raise s := by
  simp only [raise, settle_disabling, bind_map_left, Given.raise_disabling, map_bind, map_pure]
  rfl

theorem Parse.await_disabling (s : Switch) :
    (p.disabling titles).await s = Parse.disabling titles <$> p.await s := by
  simp only [await, settle_disabling, bind_map_left, map_bind, map_pure]
  rfl

theorem Parse.addFile_disabling (file : String) :
    (p.disabling titles).addFile file = Parse.disabling titles <$> p.addFile file := by
  have hsettled : (p.disabling titles).settle >>= (fun g => pure ⟨g, .files [file]⟩) =
      Parse.disabling titles <$> (p.settle >>= fun g => pure (⟨g, .files [file]⟩ : Parse)) := by
    simp only [settle_disabling, bind_map_left, map_bind, map_pure]
    rfl
  cases hpending : p.pending with
  | files paths => simp only [addFile, disabling, hpending]; rfl
  | nothing => simpa only [addFile, disabling, hpending] using hsettled
  | awaiting s => simpa only [addFile, disabling, hpending] using hsettled
  | option s value => simpa only [addFile, disabling, hpending] using hsettled

theorem Parse.trailing_disabling (l : Level) (word : String) :
    (p.disabling titles).trailing l word = Parse.disabling titles <$> p.trailing l word := by
  cases l with
  | check => exact addFile_disabling titles p word
  | top | rules => rfl

theorem Parse.plain_disabling (l : Level) (word : String) :
    (p.disabling titles).plain l word = Parse.disabling titles <$> p.plain l word := by
  -- a word that no option waits for is taken as it is behind `--`
  have hplain : ∀ q : Parse, (∀ s, q.pending ≠ .awaiting s) → q.plain l word = q.trailing l word := by
    intro q hq
    unfold plain
    split
    · next s hs => exact absurd hs (hq s)
    · rfl
  by_cases h : ∃ s, p.pending = .awaiting s
  · obtain ⟨s, hs⟩ := h
    simp only [plain, disabling, hs]
    rfl
  · have hwaits : ∀ s, p.pending ≠ .awaiting s := fun s hs => h ⟨s, hs⟩
    rw [hplain p hwaits, hplain (p.disabling titles) hwaits, trailing_disabling]

theorem Parse.long_disabling (l : Level) (word : List Char) :
    (p.disabling titles).long l word = Parse.disabling titles <$> p.long l word := by
  simp only [long]
  split
  · rfl
  · split
    · exact await_disabling titles p _
    · exact raise_disabling titles p _
  · split
    · exact accept_disabling titles p _ _
    · rfl

theorem Parse.short_disabling (l : Level) (letters : List Char) :
    (p.disabling titles).short l letters = Parse.disabling titles <$> p.short l letters := by
  induction letters generalizing p with
  | nil => rfl
  | cons letter more ih =>
    simp only [short]
    split
    · rfl
    · split
      · split
        · exact await_disabling titles p _
        · exact accept_disabling titles p _ _
        · exact accept_disabling titles p _ _
      · simp only [raise_disabling, bind_map_left, map_bind, ih]

theorem Parse.word_disabling (l : Level) (word : String) :
    (p.disabling titles).word l word = Parse.disabling titles <$> p.word l word := by
  unfold Parse.word
  split
  · exact long_disabling titles p l _
  · exact short_disabling titles p l _
  · exact plain_disabling titles p l word

theorem Parse.words_disabling (l : Level) (words : List String) :
    Parse.words l (p.disabling titles) words = Given.disabling titles <$> Parse.words l p words := by
  have htrailing : ∀ (rest : List String) (p : Parse),
      rest.foldlM (Parse.trailing l) (p.disabling titles) =
        Parse.disabling titles <$> rest.foldlM (Parse.trailing l) p := by
    intro rest
    induction rest with
    | nil => intro p; rfl
    | cons word rest ih =>
      intro p
      simp only [List.foldlM_cons, trailing_disabling, bind_map_left, map_bind, ih]
  fun_induction Parse.words l p words with
  | case1 p => rw [Parse.words, settle_disabling]
  | case2 p rest => simp only [Parse.words, htrailing, bind_map_left, settle_disabling, map_bind]
  | case3 p word rest hword ih =>
    rw [Parse.words]
    · simp only [word_disabling, bind_map_left, map_bind, ih]
    · exact hword

end

/-- The option that disables the titles of a list. -/
def disableOption (list : String) : String := "--disable=" ++ list

/-- The option is read as its list, cut at the commas. -/
theorem Parse.words_disableOption (list : String) (words : List String) :
    Parse.words .check .start (disableOption list :: words) =
      Given.disabling (splitAtCommas list) <$> Parse.words .check .start words := by
  have hchars : (disableOption list).toList = '-' :: '-' :: ("disable=".toList ++ list.toList) := by
    rw [disableOption, String.toList_append]
    rfl
  have hword : Parse.word .check .start (disableOption list) =
      .ok (Parse.start.disabling (splitAtCommas list)) := by
    have hname : ("disable=".toList ++ list.toList).takeWhile (· != '=') = "disable".toList := rfl
    have hvalue : ("disable=".toList ++ list.toList).dropWhile (· != '=') = '=' :: list.toList := rfl
    have hswitch : Level.check.byLong? "disable" = some .disable := by decide
    simp only [Parse.word, hchars, Parse.long, hname, hvalue, String.ofList_toList, hswitch]
    show Except.ok (⟨{ Given.nothing with disable := [] ++ splitAtCommas list }, .nothing⟩ : Parse) =
      .ok ⟨{ Given.nothing with disable := splitAtCommas list ++ [] }, .nothing⟩
    rw [List.nil_append, List.append_nil]
  rw [← words_disabling, Parse.words, hword]
  · rfl
  · intro h
    rw [h] at hchars
    simp at hchars

/-! ## Checks that words ask for -/

theorem parse_check (words : List String) :
    parse ("check" :: words) =
      (fun given => ⟨given.config, .check given.checkRequest⟩) <$> Parse.words .check .start words := by
  have hconfig : ∀ config, laterConfig none config = config := by
    intro config
    cases config <;> rfl
  rw [parse, parseTop]
  show (Parse.words .check .start words >>= fun given =>
    pure (⟨laterConfig none given.config, .check given.checkRequest⟩ : Invocation)) = _
  simp only [hconfig, bind_pure_comp]

/-- The check of a request in its surroundings. -/
def outcome (w : World) (config : Option String) (request : CheckRequest) : Except Error CheckOutcome := do
  check w.files w.stdin { request with noColor := request.noColor || !w.colours }
    (← Settings.load w.files w.environment config)

/-- The outcome of the check that words ask for, if they ask for one. -/
def checked (words : List String) (w : World) : Option (Except Error CheckOutcome) :=
  match parse words with
  | .ok ⟨config, .check request⟩ => some (outcome w config request)
  | _ => none

/-- The outcome of the check that the words behind `check` ask for, if they can be read. -/
def attempt (words : List String) (w : World) : Except Usage (Except Error CheckOutcome) :=
  (fun given => outcome w given.config given.checkRequest) <$> Parse.words .check .start words

/-- How a run ends that comes to this. -/
def endingOf : Except Usage (Except Error CheckOutcome) → Ending
  | .error usage => usage.ending
  | .ok (.error e) => failed e
  | .ok (.ok o) => ⟨o.exitCode, o.output, none⟩

theorem checked_check (words : List String) (w : World) :
    checked ("check" :: words) w = (attempt words w).toOption := by
  rw [checked, parse_check, attempt]
  cases Parse.words .check .start words <;> rfl

theorem run_check (words : List String) (w : World) :
    run ("check" :: words) w = endingOf (attempt words w) := by
  have hrun : ∀ config request, Invocation.run ⟨config, .check request⟩ w =
      (fun o => ⟨o.exitCode, o.output, none⟩) <$> outcome w config request := by
    intro config request
    simp only [Invocation.run, outcome, map_bind, bind_pure_comp]
  cases hwords : Parse.words .check .start words with
  | error usage =>
    rw [run, parse_check, attempt, hwords]
    rfl
  | ok given =>
    have hparse : parse ("check" :: words) = .ok ⟨given.config, .check given.checkRequest⟩ := by
      rw [parse_check, hwords]
      rfl
    have hattempt : attempt words w = .ok (outcome w given.config given.checkRequest) := by
      rw [attempt, hwords]
      rfl
    simp only [run, hparse, hrun, hattempt]
    cases outcome w given.config given.checkRequest <;> rfl

/-! ## The two ways -/

/-- What surrounds a run, with another list of titles to disable. -/
def World.withDisabled (w : World) (disabled : Option String) : World :=
  { w with environment := { w.environment with disabled := disabled } }

/-- A check with more titles disabled in what is set, and nothing in the environment. -/
def outcomeWithout (w : World) (titles : List String) (given : Given) : Except Error CheckOutcome := do
  let settings ← Settings.load w.files ⟨w.environment.home, none⟩ given.config
  check w.files w.stdin { given.checkRequest with noColor := given.noColor || !w.colours }
    { settings with rules := settings.rules.disable titles }

/-- To disable titles with a request is to disable them in the settings. -/
theorem check_disable (files : Files) (stdin : ByteArray) (request : CheckRequest) (settings : Settings)
    (titles : List String) :
    check files stdin { request with disable := titles ++ request.disable } settings =
      check files stdin request { settings with rules := settings.rules.disable titles } := by
  have hselection : settings.rules.disable (titles ++ request.disable) =
      (settings.rules.disable titles).disable request.disable := by
    simp [Selection.disable]
  rw [check, check, hselection]
  rfl

/-- The option disables the pieces of its list. -/
theorem attempt_option (list : String) (words : List String) (w : World) :
    attempt (disableOption list :: words) (w.withDisabled none) =
      outcomeWithout w (splitAtCommas list) <$> Parse.words .check .start words := by
  rw [attempt, Parse.words_disableOption, Functor.map_map]
  apply map_congr
  intro given
  apply bind_congr
  intro settings
  exact check_disable w.files w.stdin { given.checkRequest with noColor := given.noColor || !w.colours }
    settings (splitAtCommas list)

/-- The variable disables the titles that its list is read as. -/
theorem attempt_variable (list : String) (words : List String) (w : World) :
    attempt words (w.withDisabled (some list)) =
      outcomeWithout w (titleList list) <$> Parse.words .check .start words := by
  apply map_congr
  intro given
  show Settings.load w.files ⟨w.environment.home, some list⟩ given.config >>= _ = _
  rw [Settings.load_disabled, bind_map_left]
  rfl

/-- A list with a piece that is not tidy names a rule that does not exist. -/
theorem outcomeWithout_of_not_tidy {list : String} (h : ¬ TidyList list) (w : World) (given : Given) :
    ∃ e, outcomeWithout w (splitAtCommas list) given = .error e := by
  cases houtcome : outcomeWithout w (splitAtCommas list) given with
  | error e => exact ⟨e, rfl⟩
  | ok o =>
    obtain ⟨settings, -, hcheck⟩ := bind_ok_iff.mp houtcome
    obtain ⟨g, hg, -, htitles⟩ := Baseline.baseline_rules
    obtain ⟨hvalid, -⟩ := (check_ok_iff hg).mp ⟨o, hcheck⟩
    obtain ⟨hknown, -⟩ := Selection.validate_ok_iff.mp hvalid
    refine absurd (tidyList_iff.mpr ?_) h
    intro piece hpiece
    apply tidy_of_contains htitles
    apply hknown
    simp [Selection.titles, Selection.disable, hpiece]

/-- The same outcome, or two failures. -/
def Agree (x y : Except Error CheckOutcome) : Prop :=
  x = y ∨ (∃ e, x = .error e) ∧ ∃ e, y = .error e

/-- Cut at the commas or read as titles, a list leaves out the same rules only if it is tidy, unless
    the check fails in any case. -/
theorem agree_iff_tidy (list : String) (w : World) (given : Given) :
    Agree (outcomeWithout w (splitAtCommas list) given) (outcomeWithout w (titleList list) given) ↔
      TidyList list ∨ ∃ e, outcomeWithout w (titleList list) given = .error e := by
  refine ⟨?_, ?_⟩
  · intro hagree
    by_cases htidy : TidyList list
    · exact Or.inl htidy
    · obtain ⟨e, he⟩ := outcomeWithout_of_not_tidy htidy w given
      obtain hsame | ⟨-, hfails⟩ := hagree
      · exact Or.inr ⟨e, hsame ▸ he⟩
      · exact Or.inr hfails
  · intro h
    by_cases htidy : TidyList list
    · rw [titleList_of_tidy htidy]
      exact Or.inl rfl
    · obtain htidy' | hfails := h
      · exact absurd htidy' htidy
      · exact Or.inr ⟨outcomeWithout_of_not_tidy htidy w given, hfails⟩

/-- **Two ways to disable rules.** Titles to disable can be given as a list with commas, by an option of
    `check` or by a variable of the environment. If no piece of the list is empty or has blanks at an end, the
    two are the same, in the outcome of the check and in what the run prints. Otherwise the option
    makes every check fail, so that the two agree only where the variable does too. -/
theorem disable_agrees_iff (list : String) (rest : List String) (w : World) :
    let byOption := checked ("check" :: disableOption list :: rest) (w.withDisabled none)
    let byVariable := checked ("check" :: rest) (w.withDisabled (some list))
    (byOption = none ↔ byVariable = none) ∧
    (∀ x y, byOption = some x → byVariable = some y →
      (Agree x y ↔ TidyList list ∨ ∃ e, y = .error e) ∧
      (¬ TidyList list → ∃ e, x = .error e ∧
        run ("check" :: disableOption list :: rest) (w.withDisabled none) = failed e)) ∧
    (TidyList list → byOption = byVariable ∧
      run ("check" :: disableOption list :: rest) (w.withDisabled none) =
        run ("check" :: rest) (w.withDisabled (some list))) := by
  intro byOption byVariable
  have hoption : byOption =
      (outcomeWithout w (splitAtCommas list) <$> Parse.words .check .start rest).toOption := by
    rw [← attempt_option, ← checked_check]
  have hvariable : byVariable =
      (outcomeWithout w (titleList list) <$> Parse.words .check .start rest).toOption := by
    rw [← attempt_variable, ← checked_check]
  rw [run_check, run_check, attempt_option, attempt_variable, hoption, hvariable]
  refine ⟨?_, ?_, ?_⟩
  · cases Parse.words .check .start rest <;> simp [Except.toOption]
  · cases Parse.words .check .start rest with
    | error usage =>
      intro x y hx
      contradiction
    | ok given =>
      intro x y hx hy
      cases hx
      cases hy
      refine ⟨agree_iff_tidy list w given, ?_⟩
      intro huntidy
      obtain ⟨e, he⟩ := outcomeWithout_of_not_tidy huntidy w given
      exact ⟨e, he, congrArg (fun x => endingOf (.ok x)) he⟩
  · intro htidy
    rw [titleList_of_tidy htidy]
    exact ⟨rfl, rfl⟩

/-- A list that is tidy, and one that a comma ends. -/
theorem disable_agrees_iff_two : ∃ w : World,
    TidyList "select *,Foreign Key Exists" ∧
    run ["check", disableOption "select *,Foreign Key Exists"] (w.withDisabled none) =
      run ["check"] (w.withDisabled (some "select *,Foreign Key Exists")) ∧
    ¬ TidyList "SELECT *," ∧
    ∃ e, run ["check", disableOption "SELECT *,"] (w.withDisabled none) = failed e := by
  let w : World := ⟨⟨fun _ => false, fun _ => .error .missing⟩, "select * from t".toUTF8, ⟨none, none⟩, true⟩
  have htidy : TidyList "select *,Foreign Key Exists" := by decide
  have huntidy : ¬ TidyList "SELECT *," := by decide
  obtain ⟨x, hx⟩ : ∃ x, checked ["check", disableOption "SELECT *,"] (w.withDisabled none) = some x := by
    rw [checked_check, attempt_option]
    exact ⟨_, rfl⟩
  obtain ⟨y, hy⟩ : ∃ y, checked ["check"] (w.withDisabled (some "SELECT *,")) = some y := by
    rw [checked_check]
    exact ⟨_, rfl⟩
  obtain ⟨e, -, he⟩ := ((disable_agrees_iff "SELECT *," [] w).2.1 x y hx hy).2 huntidy
  exact ⟨w, htidy, ((disable_agrees_iff _ [] w).2.2 htidy).2, huntidy, e, he⟩

/-- A blank behind the comma: the option fails a check that the variable lets through. -/
theorem disable_blank_differs : ∃ w : World,
    (checked ["check", disableOption "SELECT *, Foreign Key Exists"] (w.withDisabled none)).map Except.isOk =
      some false ∧
    (checked ["check"] (w.withDisabled (some "SELECT *, Foreign Key Exists"))).map Except.isOk = some true := by
  refine ⟨⟨⟨fun _ => false, fun _ => .error .missing⟩, "select * from t".toUTF8, ⟨none, none⟩, true⟩, ?_, ?_⟩
  · rw [checked_check]
    decide +kernel
  · rw [checked_check]
    decide +kernel

end SqlSmell.Command
