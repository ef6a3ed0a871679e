import SqlSmell.Proofs.Outcome
import SqlSmell.Settings.Load

/- Which settings file decides. The files are read from the least to the greatest precedence: the one in the home
   directory, the one in the working directory, and the one that was asked for. The last that there is replaces
   what the others say, but every file that there is must be usable: a broken file fails the load even if a file
   of greater precedence is valid (`load_broken_home`). A path at which nothing is found is passed over,
   whatever reading it would give. Broken files apart, a valid file makes those of less precedence irrelevant
   (`load_precedence`). -/
namespace SqlSmell.Settings

/-- The titles that the environment disables. -/
def Environment.titles (environment : Environment) : List String :=
  (environment.disabled.map titleList).getD []

/-- There is something at the path, and no settings can be had from it. -/
def Broken (files : Files) (path : String) (e : Error) : Prop :=
  files.present path = true ∧ ofFile files path = .error e

/-- The file in the home directory is broken. -/
def HomeBroken (files : Files) (environment : Environment) (e : Error) : Prop :=
  ∃ home, environment.home = some home ∧ Broken files (homePath home) e

/-- The settings of the file in the home directory, if there is one. -/
def ofHome (files : Files) (environment : Environment) : Except Error Settings :=
  match environment.home with
  | none => .ok Settings.default
  | some home => ofFileIfAny files (homePath home) .default

/-- The settings where no file is asked for, before the environment is looked at. -/
def ofLower (files : Files) (environment : Environment) : Except Error Settings :=
  ofHome files environment >>= ofFileIfAny files localPath

theorem withDisabled_eq (s : Settings) (environment : Environment) :
    s.withDisabled environment.disabled = { s with rules := s.rules.disable environment.titles } := by
  unfold withDisabled Environment.titles
  cases environment.disabled with
  | none =>
    have hsame : s.rules.disable [] = s.rules := by simp [Selection.disable]
    show s = { s with rules := s.rules.disable [] }
    rw [hsame]
  | some list => rfl

section
variable {files : Files} {environment : Environment} {path : String}

theorem ofFileIfAny_error_iff {otherwise : Settings} {e : Error} :
    ofFileIfAny files path otherwise = .error e ↔ Broken files path e := by
  unfold ofFileIfAny Broken
  cases files.present path <;> simp

theorem ofFileIfAny_ok_iff (otherwise : Settings) :
    (∃ s, ofFileIfAny files path otherwise = .ok s) ↔ ∀ e, ¬ Broken files path e := by
  simp only [exists_ok_iff, ne_eq, ofFileIfAny_error_iff]

theorem ofHome_error_iff {e : Error} :
    ofHome files environment = .error e ↔ HomeBroken files environment e := by
  unfold ofHome HomeBroken
  cases environment.home with
  | none => simp
  | some home => simp [ofFileIfAny_error_iff]

theorem ofHome_ok_iff : (∃ s, ofHome files environment = .ok s) ↔ ∀ e, ¬ HomeBroken files environment e := by
  simp only [exists_ok_iff, ne_eq, ofHome_error_iff]

theorem ofLower_error_iff {e : Error} :
    ofLower files environment = .error e ↔
      HomeBroken files environment e ∨ (∀ e', ¬ HomeBroken files environment e') ∧ Broken files localPath e := by
  rw [ofLower, bind_error_iff, ofHome_error_iff, ← ofHome_ok_iff]
  simp only [ofFileIfAny_error_iff, exists_and_right]

theorem ofLower_ok_iff :
    (∃ s, ofLower files environment = .ok s) ↔
      (∀ e, ¬ HomeBroken files environment e) ∧ ∀ e, ¬ Broken files localPath e := by
  refine ⟨?_, ?_⟩
  · intro h
    obtain ⟨s, h⟩ := h
    obtain ⟨below, hbelow, hs⟩ := bind_ok_iff.mp h
    exact ⟨ofHome_ok_iff.mp ⟨below, hbelow⟩, (ofFileIfAny_ok_iff below).mp ⟨s, hs⟩⟩
  · intro h
    obtain ⟨below, hbelow⟩ := ofHome_ok_iff.mpr h.1
    obtain ⟨s, hs⟩ := (ofFileIfAny_ok_iff below).mpr h.2
    exact ⟨s, bind_ok_iff.mpr ⟨below, hbelow, hs⟩⟩

/-- The files are read from the least to the greatest precedence. -/
theorem load_eq (files : Files) (environment : Environment) (explicit : Option String) :
    load files environment explicit = do
      let below ← ofLower files environment
      let s ← (explicit.map (ofFile files)).getD (.ok below)
      return { s with rules := s.rules.disable environment.titles } := by
  simp only [← withDisabled_eq]
  unfold load ofLower ofHome
  rw [bind_assoc]
  cases environment.home <;> cases explicit <;> rfl

/-- The titles of the environment come on top of what is loaded without it. -/
theorem load_disabled (files : Files) (home explicit : Option String) (list : String) :
    load files ⟨home, some list⟩ explicit =
      (fun s => { s with rules := s.rules.disable (titleList list) }) <$> load files ⟨home, none⟩ explicit := by
  have hnone : ∀ s : Settings, s.withDisabled none = s := fun _ => rfl
  simp only [load_eq, ← withDisabled_eq, hnone, map_bind, map_pure]
  rfl

/-- With a valid file that was asked for, the others are read and forgotten. -/
theorem load_explicit {s : Settings} (hs : ofFile files path = .ok s) :
    load files environment (some path) =
      (fun _ => { s with rules := s.rules.disable environment.titles }) <$> ofLower files environment := by
  simp only [load_eq, Option.map_some, Option.getD_some, hs]
  exact bind_pure_comp _ _

/-- With a valid file in the working directory and none asked for, the one in the home directory is read and
    forgotten. -/
theorem load_local {s : Settings} (hpresent : files.present localPath = true)
    (hs : ofFile files localPath = .ok s) :
    load files environment none =
      (fun _ => { s with rules := s.rules.disable environment.titles }) <$> ofHome files environment := by
  have hlocal : ∀ below, ofFileIfAny files localPath below = .ok s := by
    intro below
    rw [ofFileIfAny, if_pos hpresent, hs]
  simp only [load_eq, ofLower, bind_assoc, hlocal]
  exact bind_pure_comp _ _

end

/-- **Precedence of settings files.** If a file is asked for and valid, its settings are loaded, with the titles
    that the environment disables, exactly if neither the file in the home directory nor the one in the working
    directory is broken; what valid ones say does not matter. Otherwise the load fails as the first broken
    one does. If none is asked for and the file in the working directory is valid, it decides in the same
    way, and only a broken file in the home directory stands against it. -/
theorem load_precedence (files : Files) (environment : Environment) :
    (∀ path s, ofFile files path = .ok s →
      (load files environment (some path) = .ok { s with rules := s.rules.disable environment.titles } ↔
        (∀ e, ¬ HomeBroken files environment e) ∧ ∀ e, ¬ Broken files localPath e) ∧
      ∀ e, load files environment (some path) = .error e ↔
        HomeBroken files environment e ∨
          (∀ e', ¬ HomeBroken files environment e') ∧ Broken files localPath e) ∧
    ∀ s, files.present localPath = true → ofFile files localPath = .ok s →
      (load files environment none = .ok { s with rules := s.rules.disable environment.titles } ↔
        ∀ e, ¬ HomeBroken files environment e) ∧
      ∀ e, load files environment none = .error e ↔ HomeBroken files environment e := by
  refine ⟨?_, ?_⟩
  · intro path s hs
    rw [load_explicit hs, map_const_ok_iff, ofLower_ok_iff]
    refine ⟨Iff.rfl, ?_⟩
    intro e
    rw [map_error_iff, ofLower_error_iff]
  · intro s hpresent hs
    rw [load_local hpresent hs, map_const_ok_iff, ofHome_ok_iff]
    refine ⟨Iff.rfl, ?_⟩
    intro e
    rw [map_error_iff, ofHome_error_iff]

/-- Three valid files, of which the one that was asked for decides, with a title of the environment on top. -/
theorem load_precedence_three :
    ∃ (files : Files) (environment : Environment) (s : Settings),
      files.present (homePath "home") = true ∧ files.present localPath = true ∧
      ofFile files "mine.toml" = .ok s ∧ s.rules.disabled = ["A"] ∧
      load files environment (some "mine.toml") =
        .ok { s with rules := s.rules.disable ["SELECT *"] } := by
  refine ⟨⟨fun _ => true, fun path => .ok (if path == "mine.toml" then "rules.disabled = ['A']" else "").toUTF8⟩,
    ⟨some "home", some " SELECT * ,"⟩, ⟨⟨[], ["A"], []⟩, .default⟩, rfl, rfl, by decide +kernel, rfl, ?_⟩
  refine ((load_precedence _ ⟨some "home", some " SELECT * ,"⟩).1 "mine.toml" _ (by decide +kernel)).1.mpr ⟨?_, ?_⟩
  · exact ofHome_ok_iff.mp ⟨.default, by decide +kernel⟩
  · exact (ofFileIfAny_ok_iff .default).mp ⟨.default, by decide +kernel⟩

/-- A file in the home directory that is no TOML fails the load of a valid file that was asked for. -/
theorem load_broken_home :
    ∃ (files : Files) (environment : Environment),
      ofFile files "mine.toml" = .ok ⟨⟨[], ["SELECT *"], []⟩, .default⟩ ∧
      load files environment (some "mine.toml") = .error (.invalidConfig (homePath "home")) := by
  refine ⟨⟨fun path => path == "mine.toml" || path == homePath "home",
    fun path => if path == "mine.toml" then .ok "[rules]\ndisabled = [\"SELECT *\"]\n".toUTF8 else
      if path == homePath "home" then .ok "broken".toUTF8 else .error .missing⟩, ⟨some "home", none⟩, ?_, ?_⟩
  · decide +kernel
  · decide +kernel

end SqlSmell.Settings
