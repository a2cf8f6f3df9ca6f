import Mathlib.Data.List.Find
import SchemaDesk.Proofs.Shape.Whole
import SchemaDesk.Proofs.Text.Numeral
import SchemaDesk.Settings
/-!
# The readings of an environment

The first reading of a setting takes the variable with its exact name, and its default when that is
not set or empty; the settings of the first reading are those for which this holds of every setting
(`Settings.first_eq_ok_iff`). The second reading leaves a setting as it is only when it finds
nothing or the same value (`Settings.second_eq_self_iff`). It also finds empty variables, names in
another letter case, and texts that only the first reading takes for an integer, so both readings do
not always agree. Where names and digits are plain, empty variables are all that they disagree on
(`Settings.readingsAgree_iff`).
-/

namespace SchemaDesk

/-- A setting: its name in the environment, the text that it is read from by default, and its value
among the settings. -/
structure Setting (α : Type) where
  /-- The name of the variable. -/
  name : String
  /-- The text for an environment without the variable. -/
  default : String
  /-- The value. -/
  value : Settings → α

namespace Setting

/-- The settings that are texts. -/
def texts : List (Setting Text) :=
  [⟨"PROJECT_NAME", "Prisma Model Builder", Settings.projectName⟩,
    ⟨"PROJECT_INFO", "Describe a model and render its Prisma schema block", Settings.projectInfo⟩,
    ⟨"PROJECT_VERSION", "1.0.0", Settings.projectVersion⟩,
    ⟨"API_PREFIX", "/api/v1", Settings.apiPrefix⟩, ⟨"LOG_LEVEL", "INFO", Settings.logLevel⟩,
    ⟨"HOST", "0.0.0.0", Settings.host⟩,
    ⟨"DEFAULT_OUTPUT_FILE", "schema.prisma", Settings.defaultOutputFile⟩]

/-- The settings that are integers. -/
def integers : List (Setting Int) :=
  [⟨"PORT", "8000", Settings.port⟩, ⟨"MAX_SESSIONS", "1000", Settings.maxSessions⟩]

/-- A name is that of a setting when it is that of a text or of an integer. -/
theorem mem_names_iff (name : String) :
    name ∈ Settings.names ↔
      (∃ setting ∈ texts, setting.name = name) ∨ ∃ setting ∈ integers, setting.name = name := by
  simp only [Settings.names, texts, integers, List.mem_cons, List.not_mem_nil, or_false,
    exists_eq_or_imp, exists_eq_left, eq_comm]
  tauto

end Setting

namespace Settings

/-! ## What it means to agree -/

/-- Settings as they are read from an environment: each has the text of the variable with its exact
name, or of its default when the variable is not set or empty, and integers are read from it. -/
structure ReadFrom (environment : Environment) (settings : Settings) : Prop where
  text : ∀ setting ∈ Setting.texts,
    environment.read setting.name (some setting.default) = some (setting.value settings)
  integer : ∀ setting ∈ Setting.integers,
    (environment.read setting.name (some setting.default)).bind Text.Numeral.int? =
      some (setting.value settings)

/-- Both readings of an environment agree: the settings that are loaded are read from it, and there
are settings whenever the first reading gives some. -/
structure ReadingsAgree (environment : Environment) : Prop where
  same : ∀ settings, load environment = .ok settings → settings.ReadFrom environment
  loaded : ∀ settings, first environment = .ok settings →
    ∃ settings, load environment = .ok settings

/-- What the second reading finds for settings, if it finds something, has their value. -/
structure Confirmed (environment : Environment) (settings : Settings) : Prop where
  text : ∀ setting ∈ Setting.texts, ∀ text, environment.readAnyCase? setting.name = some text →
    text = setting.value settings
  integer : ∀ setting ∈ Setting.integers, ∀ text,
    environment.readAnyCase? setting.name = some text →
      Text.Numeral.lenientInt text = .ok (setting.value settings)

end Settings

namespace Environment

/-- An environment in which the second reading finds the variables of the first: their names differ,
the name of a setting in some letter case is its exact name, and the digits of integers are ASCII
digits. -/
structure Plain (environment : Environment) : Prop where
  distinct : (environment.map Prod.fst).Nodup
  named : ∀ entry ∈ environment, ∀ name ∈ Settings.names,
    entry.1.lower = Text.lower name → entry.1 = name
  ascii : ∀ entry ∈ environment, ∀ setting ∈ Setting.integers, entry.1 = setting.name →
    ∀ point ∈ entry.2, (Text.Numeral.digit? point).isSome = true →
      (Text.Numeral.asciiDigit? point).isSome = true

variable {environment : Environment}

/-- Among variables with different names, the last one with a name is the only one. -/
theorem find?_reverse_eq_lookup (distinct : (environment.map Prod.fst).Nodup) (name : Text) :
    (environment.reverse.find? fun entry => entry.1 == name).map Prod.snd =
      environment.lookup name := by
  induction environment with
  | nil => rfl
  | cons entry rest ih =>
    obtain ⟨key, value⟩ := entry
    rw [List.map_cons, List.nodup_cons] at distinct
    rw [List.reverse_cons, List.find?_append, Option.map_or, ih distinct.2, List.lookup_cons]
    by_cases here : name = key
    · subst here
      have absent : rest.lookup name = none := by
        refine List.lookup_eq_none_iff.mpr fun other mem => bne_iff_ne.mpr fun same => ?_
        exact distinct.1 (List.mem_map.mpr ⟨other, mem, same.symm⟩)
      rw [absent]
      simp
    · have apart : (name == key) = false := beq_eq_false_iff_ne.mpr here
      have later : ([(key, value)].find? fun entry => entry.1 == name) = none := by
        simp [Ne.symm here]
      rw [later, apart, Option.map_none, Option.or_none]

/-- In a plain environment, the second reading finds the variable with the exact name. -/
theorem Plain.readAnyCase?_eq (plain : environment.Plain) {name : String}
    (mem : name ∈ Settings.names) :
    environment.readAnyCase? name = environment.lookup (Text.ofString name) := by
  have exactly : (environment.reverse.find? fun entry => entry.1.lower == Text.lower name) =
      environment.reverse.find? fun entry => entry.1 == Text.ofString name := by
    refine List.find?_congr fun entry entryMem => ?_
    rw [Bool.eq_iff_iff, beq_iff_eq, beq_iff_eq]
    exact ⟨plain.named entry (List.mem_reverse.mp entryMem) name mem, congrArg Text.lower⟩
  rw [readAnyCase?, exactly, find?_reverse_eq_lookup plain.distinct]

/-- A variable that is set to something is read as it is. -/
theorem read_of_lookup {name text : Text} (found : environment.lookup name = some text)
    (filled : text ≠ []) (default : Option Text) :
    environment.read name default = some text := by
  rw [read, found]
  exact if_neg filled

/-- An empty variable is read as if it were not set. -/
theorem read_of_empty {name : Text} (found : environment.lookup name = some [])
    (default : Option Text) : environment.read name default = default := by
  rw [read, found]
  exact if_pos rfl

/-- A default is what is read where there is nothing else. -/
theorem read_default (name default : Text) :
    environment.read name (some default) = some ((environment.read name none).getD default) := by
  unfold read
  split
  · split
    · rfl
    · rfl
  · rfl

end Environment

namespace Settings

variable {environment : Environment} {settings : Settings}

/-! ## The first reading -/

/-- With a default there is always a text that is read. -/
theorem read_eq_firstText (name default : Text) :
    environment.read name (some default) = some (firstText environment name default) := by
  rw [firstText, Environment.read_default, Option.getD_some]

/-- The first reading of an integer reads it from the text of its variable or of its default. -/
theorem firstInt_eq_ok_iff {name text : Text} {default value : Int}
    (own : Text.Numeral.int? text = some default) :
    firstInt environment name default = .ok value ↔
      (environment.read name (some text)).bind Text.Numeral.int? = some value := by
  rw [firstInt, Environment.read_default, Option.bind_some]
  cases environment.read name none with
  | none =>
    rw [Option.getD_none, own]
    simp
  | some given =>
    rw [Option.getD_some]
    cases numeral : Text.Numeral.int? given with
    | none => simp [numeral]
    | some value => simp [numeral]

/-- The first reading gives the settings that are read from the environment, and no others. -/
theorem first_eq_ok_iff : first environment = .ok settings ↔ settings.ReadFrom environment := by
  have eight : Text.Numeral.int? "8000" = some 8000 := by decide
  have thousand : Text.Numeral.int? "1000" = some 1000 := by decide
  constructor
  · intro ran
    rw [first] at ran
    cases port : firstInt environment "PORT" 8000 with
    | error reason =>
      rw [port] at ran
      cases ran
    | ok portValue =>
      cases sessions : firstInt environment "MAX_SESSIONS" 1000 with
      | error reason =>
        rw [port, sessions] at ran
        cases ran
      | ok sessionsValue =>
        rw [port, sessions] at ran
        obtain rfl := Except.ok.inj ran
        refine ⟨?_, ?_⟩
        · simp only [Setting.texts, List.forall_mem_cons]
          refine ⟨?_, ?_, ?_, ?_, ?_, ?_, ?_, nofun⟩ <;> exact read_eq_firstText _ _
        · simp only [Setting.integers, List.forall_mem_cons]
          exact ⟨(firstInt_eq_ok_iff eight).mp port, (firstInt_eq_ok_iff thousand).mp sessions,
            nofun⟩
  · rintro ⟨text, integer⟩
    have texts : ∀ setting ∈ Setting.texts,
        firstText environment setting.name setting.default = setting.value settings := by
      intro setting mem
      have read := text setting mem
      rw [read_eq_firstText] at read
      exact Option.some.inj read
    simp only [Setting.texts, List.forall_mem_cons] at texts
    simp only [Setting.integers, List.forall_mem_cons] at integer
    obtain ⟨projectName, projectInfo, projectVersion, apiPrefix, logLevel, host, outputFile, -⟩ :=
      texts
    have port := (firstInt_eq_ok_iff eight).mpr integer.1
    have sessions := (firstInt_eq_ok_iff thousand).mpr integer.2.1
    rw [first, port, sessions, projectName, projectInfo, projectVersion, apiPrefix, logLevel, host,
      outputFile]
    rfl

/-! ## The second reading -/

/-- The second reading of a text changes nothing exactly when it finds nothing else. -/
theorem secondText_eq_self_iff {name value : Text} :
    secondText environment name value = value ↔
      ∀ text, environment.readAnyCase? name = some text → text = value := by
  rw [secondText]
  cases environment.readAnyCase? name with
  | none => simp
  | some text => simp

/-- The second reading of an integer changes nothing exactly when it finds nothing else. -/
theorem secondInt_eq_self_iff {name : Text} {value : Int} :
    secondInt environment name value = .valid value ↔
      ∀ text, environment.readAnyCase? name = some text →
        Text.Numeral.lenientInt text = .ok value := by
  rw [secondInt]
  cases environment.readAnyCase? name with
  | none => simp
  | some text =>
    simp only [Option.some.injEq, forall_eq']
    split
    · next read => simp [read]
    · next read => simp [read]
    · next read => simp [read]

/-- The second reading leaves settings as they are exactly when it confirms them. -/
theorem second_eq_self_iff :
    second environment settings = .valid settings ↔ settings.Confirmed environment := by
  constructor
  · intro kept
    obtain ⟨numbers, read, same⟩ := Checked.map_eq_valid kept
    obtain ⟨port, sessions⟩ := Checked.both_eq_valid read
    refine ⟨?_, ?_⟩
    · simp only [Setting.texts, List.forall_mem_cons, ← secondText_eq_self_iff]
      exact ⟨congrArg projectName same, congrArg projectInfo same, congrArg projectVersion same,
        congrArg apiPrefix same, congrArg logLevel same, congrArg host same,
        congrArg defaultOutputFile same, nofun⟩
    · have portValue : numbers.1 = settings.port := congrArg Settings.port same
      have sessionsValue : numbers.2 = settings.maxSessions := congrArg Settings.maxSessions same
      rw [portValue] at port
      rw [sessionsValue] at sessions
      simp only [Setting.integers, List.forall_mem_cons, ← secondInt_eq_self_iff]
      exact ⟨port, sessions, nofun⟩
  · rintro ⟨text, integer⟩
    simp only [Setting.texts, List.forall_mem_cons, ← secondText_eq_self_iff] at text
    simp only [Setting.integers, List.forall_mem_cons, ← secondInt_eq_self_iff] at integer
    obtain ⟨projectName, projectInfo, projectVersion, apiPrefix, logLevel, host, outputFile, -⟩ :=
      text
    rw [second, integer.1, integer.2.1, projectName, projectInfo, projectVersion, apiPrefix,
      logLevel, host, outputFile]
    rfl

/-! ## Both readings -/

/-- Both readings agree exactly when the second one confirms what the first one gives. -/
theorem readingsAgree_iff_confirmed :
    ReadingsAgree environment ↔
      ∀ settings, first environment = .ok settings → settings.Confirmed environment := by
  have run {settings : Settings} (read : first environment = .ok settings) :
      load environment = (second environment settings).toExcept.mapError .refused := by
    rw [load, read]
    rfl
  constructor
  · intro agree settings read
    obtain ⟨loaded, ran⟩ := agree.loaded settings read
    have same : loaded = settings := by
      have again := first_eq_ok_iff.mpr (agree.same loaded ran)
      rw [read] at again
      exact (Except.ok.inj again).symm
    subst same
    rw [run read] at ran
    refine second_eq_self_iff.mp ?_
    cases outcome : second environment loaded with
    | valid other =>
      rw [outcome] at ran
      rw [Except.ok.inj ran]
    | invalid details =>
      rw [outcome] at ran
      cases ran
  · intro confirmed
    have kept {settings : Settings} (read : first environment = .ok settings) :
        load environment = .ok settings := by
      rw [run read, second_eq_self_iff.mpr (confirmed settings read)]
      rfl
    refine ⟨fun settings ran => ?_, fun settings read => ⟨settings, kept read⟩⟩
    cases read : first environment with
    | error reason =>
      rw [load, read] at ran
      cases ran
    | ok other =>
      rw [kept read] at ran
      rw [← Except.ok.inj ran]
      exact first_eq_ok_iff.mp read

/-- In a plain environment, the second reading confirms what the first one gives exactly when no
variable of a setting is empty. -/
theorem confirmed_iff_of_plain (plain : environment.Plain)
    (read : settings.ReadFrom environment) :
    settings.Confirmed environment ↔
      ∀ name ∈ names, environment.lookup (Text.ofString name) ≠ some [] := by
  have textName {setting : Setting Text} (mem : setting ∈ Setting.texts) :
      setting.name ∈ names :=
    (Setting.mem_names_iff _).mpr (.inl ⟨setting, mem, rfl⟩)
  have integerName {setting : Setting Int} (mem : setting ∈ Setting.integers) :
      setting.name ∈ names :=
    (Setting.mem_names_iff _).mpr (.inr ⟨setting, mem, rfl⟩)
  constructor
  · intro confirmed name mem empty
    have found : environment.readAnyCase? name = some [] := by
      rw [plain.readAnyCase?_eq mem, empty]
    rcases (Setting.mem_names_iff name).mp mem with ⟨setting, own, rfl⟩ | ⟨setting, own, rfl⟩
    · have shown : ∀ setting ∈ Setting.texts, Text.ofString setting.default ≠ [] := by decide
      have given := read.text setting own
      rw [Environment.read_of_empty empty, ← confirmed.text setting own [] found] at given
      exact shown setting own (Option.some.inj given)
    · have lenient := confirmed.integer setting own [] found
      cases lenient
  · intro set
    refine ⟨fun setting own text found => ?_, fun setting own text found => ?_⟩
    · rw [plain.readAnyCase?_eq (textName own)] at found
      have filled : text ≠ [] := fun empty => set _ (textName own) (empty ▸ found)
      have given := read.text setting own
      rw [Environment.read_of_lookup found filled] at given
      exact Option.some.inj given
    · rw [plain.readAnyCase?_eq (integerName own)] at found
      have filled : text ≠ [] := fun empty => set _ (integerName own) (empty ▸ found)
      have given := read.integer setting own
      rw [Environment.read_of_lookup found filled, Option.bind_some] at given
      obtain ⟨before, after, rfl, -⟩ := List.lookup_eq_some_iff.mp found
      have mem : (Text.ofString setting.name, text) ∈
          before ++ (Text.ofString setting.name, text) :: after :=
        List.mem_append_right _ List.mem_cons_self
      exact Text.Numeral.lenientInt_of_int? given (plain.ascii _ mem setting own rfl)

/-- Both readings of an environment agree exactly when the second one finds nothing, or the same
value, for every setting that the first one gives. Where the variables have different names, no name
is that of a setting in another letter case, and integers are written in ASCII digits, this means
that no variable of a setting is empty. -/
theorem readingsAgree_iff (environment : Environment) :
    (ReadingsAgree environment ↔
      ∀ settings, first environment = .ok settings → settings.Confirmed environment) ∧
    (environment.Plain → (ReadingsAgree environment ↔
      ∀ settings, first environment = .ok settings →
        ∀ name ∈ names, environment.lookup (Text.ofString name) ≠ some [])) := by
  refine ⟨readingsAgree_iff_confirmed, fun plain => ?_⟩
  rw [readingsAgree_iff_confirmed]
  exact forall₂_congr fun settings read =>
    confirmed_iff_of_plain plain (first_eq_ok_iff.mp read)

/-- The variables of a server with its own port and address. -/
def servedEnvironment : Environment :=
  [("PATH", "/usr/bin"), ("HOST", "127.0.0.1"), ("EDITOR", ""), ("PORT", " +08_080 ")]

/-- The empty variable is that of no setting, so both readings agree. -/
theorem readingsAgree_iff_served :
    servedEnvironment.Plain ∧
    load servedEnvironment = .ok { host := "127.0.0.1", port := 8080 } ∧
    ReadingsAgree servedEnvironment := by
  have plain : servedEnvironment.Plain := ⟨by decide, by decide +kernel, by decide +kernel⟩
  have set : ∀ name ∈ names, servedEnvironment.lookup (Text.ofString name) ≠ some [] := by
    decide
  exact ⟨plain, by rfl, ((readingsAgree_iff servedEnvironment).2 plain).mpr fun _ _ => set⟩

/-- An empty variable for the address is the address of the server, instead of its default. -/
theorem not_readingsAgree_emptyHost : ¬ ∀ environment, ReadingsAgree environment := by
  intro agree
  have read : first [("HOST", [])] = .ok {} := by rfl
  have confirmed := readingsAgree_iff_confirmed.mp (agree [("HOST", [])]) _ read
  have found : Environment.readAnyCase? [("HOST", [])] "HOST" = some [] := by decide +kernel
  have mem : ⟨"HOST", "0.0.0.0", Settings.host⟩ ∈ Setting.texts := by simp [Setting.texts]
  cases confirmed.text _ mem [] found

end Settings

end SchemaDesk
