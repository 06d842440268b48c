import CharLexer.Proofs.Spelling

/-!
# Settings from the environment

Every preference that the environment can set is a `Setting`: it has a variable of its own, the
words that choose each of its values, and a default. What the environment sets is what the
variables' values choose (`Setting.get_ofEnvironment`), each by itself. A value chooses when it is a
spelling of a word (`Setting.read?_eq_some_iff`), so changes of the spelling, and of values that
choose nothing, keep what is chosen (`Setting.read?_of_change`), one after another as well.
-/
namespace CharLexer

/-- An environment with another value for one variable, or none. -/
def Environment.put (environment : Environment) (name : String) (value? : Option ByteArray) :
    Environment :=
  ⟨fun other => if other = name then value? else environment.value? other⟩

/-- A preference that the environment can set. -/
inductive Setting
  | loaderTiming
  | emptyFiles
  | metrics
  | scanStatistics
  | unterminatedStrings
  | structuredLogging
  | consoleLogging
  | minLogLevel
  deriving DecidableEq

/-- The words that say yes, and those that say no. -/
def flagWords : Bool → List String
  | true => ["1", "true", "yes", "on"]
  | false => ["0", "false", "no", "off"]

/-- The word for a level. -/
def levelWords : Log.Level → List String
  | .error => ["error"]
  | .info => ["info"]
  | .debug => ["debug"]

namespace Setting

/-- Every setting. -/
def all : List Setting :=
  [loaderTiming, emptyFiles, metrics, scanStatistics, unterminatedStrings, structuredLogging,
    consoleLogging, minLogLevel]

/-- The variable of a setting. -/
def name : Setting → String
  | loaderTiming => "LUTHOR_LOADER_LOG_TIMING"
  | emptyFiles => "LUTHOR_LOADER_ALLOW_EMPTY"
  | metrics => "LUTHOR_LEXICAL_COLLECT_METRICS"
  | scanStatistics => "LUTHOR_LEXICAL_LOG_SCAN_STATISTICS"
  | unterminatedStrings => "LUTHOR_LEXICAL_LOG_UNTERMINATED"
  | structuredLogging => "LUTHOR_LOGGING_STRUCTURED"
  | consoleLogging => "LUTHOR_LOGGING_CONSOLE"
  | minLogLevel => "LUTHOR_LOGGING_MIN_LEVEL"

/-- What a setting can be set to. -/
def Choice : Setting → Type
  | minLogLevel => Log.Level
  | _ => Bool

/-- What preferences have a setting set to. -/
def get : (setting : Setting) → Preferences → setting.Choice
  | loaderTiming, preferences => preferences.loader.logTiming
  | emptyFiles, preferences => preferences.loader.allowEmptyFiles
  | metrics, preferences => preferences.lexical.collectMetrics
  | scanStatistics, preferences => preferences.lexical.logScanStatistics
  | unterminatedStrings, preferences => preferences.lexical.logUnterminatedStrings
  | structuredLogging, preferences => preferences.logging.useStructuredLogging
  | consoleLogging, preferences => preferences.logging.enableConsoleLogging
  | minLogLevel, preferences => preferences.logging.minLogLevel

/-- The words that choose a value of a setting. -/
def words : (setting : Setting) → setting.Choice → List String
  | loaderTiming => flagWords
  | emptyFiles => flagWords
  | metrics => flagWords
  | scanStatistics => flagWords
  | unterminatedStrings => flagWords
  | structuredLogging => flagWords
  | consoleLogging => flagWords
  | minLogLevel => levelWords

/-- What a text chooses for a setting. -/
def parse? : (setting : Setting) → String → Option setting.Choice
  | loaderTiming => parseFlag?
  | emptyFiles => parseFlag?
  | metrics => parseFlag?
  | scanStatistics => parseFlag?
  | unterminatedStrings => parseFlag?
  | structuredLogging => parseFlag?
  | consoleLogging => parseFlag?
  | minLogLevel => Log.Level.parse?

/-- What the value of its variable, if it has one, chooses for a setting. -/
def read? (setting : Setting) (value? : Option ByteArray) : Option setting.Choice :=
  (value?.bind fun bytes => (textOfBytes bytes).toOption).bind setting.parse?

/-- Whether bytes are a spelling of a word that chooses a value. -/
def Chooses (setting : Setting) (choice : setting.Choice) (bytes : ByteArray) : Prop :=
  ∃ word ∈ setting.words choice, Spells word bytes

/-- A change of the value of a variable that is to be of no matter: blank characters around it,
letters in another case, and the loss of a value that is no text or no accepted word. -/
inductive Change (setting : Setting) : Option ByteArray → Option ByteArray → Prop
  | surrounded {bytes wider : ByteArray} (around : Surrounded bytes wider) :
    Change setting (some bytes) (some wider)
  | recased {bytes other : ByteArray} (same : Recased bytes other) :
    Change setting (some bytes) (some other)
  | noText {bytes : ByteArray} (invalid : ¬bytes.IsValidUTF8) : Change setting (some bytes) none
  | noWord {bytes : ByteArray} (unknown : ∀ choice, ¬setting.Chooses choice bytes) :
    Change setting (some bytes) none

/-- Whether a variable influences a setting in an environment: with another value of it, the
setting is set to something else. -/
def InfluencedBy (setting : Setting) (name : String) (environment : Environment) : Prop :=
  ∃ value?, setting.get (.ofEnvironment (environment.put name value?)) ≠
    setting.get (.ofEnvironment environment)

/-- The known variables are those of the settings. -/
theorem map_name_all : all.map name = Environment.known := by
  rfl

/-- Every setting is listed. -/
theorem mem_all (setting : Setting) : setting ∈ all := by
  cases setting <;> decide

/-- A variable is known exactly when it is that of a setting. -/
theorem mem_known_iff {variableName : String} :
    variableName ∈ Environment.known ↔ ∃ setting : Setting, setting.name = variableName := by
  rw [← map_name_all, List.mem_map]
  constructor
  · rintro ⟨setting, -, same⟩
    exact ⟨setting, same⟩
  · rintro ⟨setting, same⟩
    exact ⟨setting, mem_all setting, same⟩

/-- No two settings share a variable. -/
theorem name_injective : Function.Injective name := by
  intro setting other
  cases setting <;> cases other <;> decide

/-- Preferences are known by their settings. -/
theorem eq_of_get {preferences others : Preferences}
    (same : ∀ setting : Setting, setting.get preferences = setting.get others) :
    preferences = others := by
  obtain ⟨⟨timing, empty⟩, ⟨metrics, statistics, unterminated⟩, ⟨structured, console, level⟩⟩ :=
    preferences
  obtain rfl : timing = _ := same .loaderTiming
  obtain rfl : empty = _ := same .emptyFiles
  obtain rfl : metrics = _ := same .metrics
  obtain rfl : statistics = _ := same .scanStatistics
  obtain rfl : unterminated = _ := same .unterminatedStrings
  obtain rfl : structured = _ := same .structuredLogging
  obtain rfl : console = _ := same .consoleLogging
  obtain rfl : level = _ := same .minLogLevel
  rfl

/-- A setting is set to what the value of its variable chooses, and otherwise has its default. -/
theorem get_ofEnvironment (setting : Setting) (environment : Environment) :
    setting.get (.ofEnvironment environment) =
      (setting.read? (environment.value? setting.name)).getD (setting.get {}) := by
  cases setting <;> rfl

/-- No word says yes and no. -/
theorem not_mem_flagWords_false {word : String} (yes : word ∈ flagWords true) :
    word ∉ flagWords false := by
  simp only [flagWords, List.mem_cons, List.not_mem_nil, or_false] at yes
  rcases yes with rfl | rfl | rfl | rfl <;> decide

/-- A flag is read from the words for it. -/
theorem parseFlag?_eq_some {text : String} {flag : Bool} :
    parseFlag? text = some flag ↔ plainWord text ∈ flagWords flag := by
  have parsed : parseFlag? text =
      if plainWord text ∈ flagWords true then some true
      else if plainWord text ∈ flagWords false then some false else none := by
    simp only [parseFlag?, List.contains_iff_mem]
    rfl
  rw [parsed]
  by_cases yes : plainWord text ∈ flagWords true
  · have no := not_mem_flagWords_false yes
    rw [if_pos yes]
    cases flag <;> simp [yes, no]
  · rw [if_neg yes]
    by_cases no : plainWord text ∈ flagWords false
    · rw [if_pos no]
      cases flag <;> simp [yes, no]
    · rw [if_neg no]
      cases flag <;> simp [yes, no]

/-- A level is read from the word for it. -/
theorem parseLevel?_eq_some {text : String} {level : Log.Level} :
    Log.Level.parse? text = some level ↔ plainWord text ∈ levelWords level := by
  unfold Log.Level.parse?
  split
  next word => rw [word]; cases level <;> decide
  next word => rw [word]; cases level <;> decide
  next word => rw [word]; cases level <;> decide
  next notError notInfo notDebug =>
    cases level with
    | error => simpa [levelWords] using notError
    | info => simpa [levelWords] using notInfo
    | debug => simpa [levelWords] using notDebug

variable {setting : Setting}

/-- A text chooses what its plain word is a word for. -/
theorem parse?_eq_some {text : String} {choice : setting.Choice} :
    setting.parse? text = some choice ↔ plainWord text ∈ setting.words choice := by
  cases setting with
  | minLogLevel => exact parseLevel?_eq_some
  | _ => exact parseFlag?_eq_some

/-- The words for a choice are plain. -/
theorem plainWord_of_mem_words {choice : setting.Choice} {word : String}
    (member : word ∈ setting.words choice) : plainWord word = word := by
  have flags : ∀ flag, ∀ word ∈ flagWords flag, plainWord word = word := by
    simp only [plainWord_eq]
    decide
  have levels : ∀ level, ∀ word ∈ levelWords level, plainWord word = word := by
    simp only [plainWord_eq]
    intro level
    cases level <;> decide
  cases setting with
  | minLogLevel => exact levels choice word member
  | _ => exact flags choice word member

/-- There is a word for every choice. -/
theorem exists_mem_words (choice : setting.Choice) : ∃ word, word ∈ setting.words choice := by
  cases setting with
  | minLogLevel => cases choice <;> exact ⟨_, List.mem_cons_self⟩
  | _ => cases choice <;> exact ⟨_, List.mem_cons_self⟩

/-- There is something else to choose. -/
theorem exists_ne (choice : setting.Choice) : ∃ other, other ≠ choice := by
  cases setting with
  | minLogLevel =>
    cases choice
    · exact ⟨Log.Level.info, nofun⟩
    · exact ⟨Log.Level.error, nofun⟩
    · exact ⟨Log.Level.error, nofun⟩
  | _ => exact ⟨!choice, Bool.not_ne_self choice⟩

/-! ### What a value chooses -/

/-- A value chooses what the word that it is read as is a word for. -/
theorem read?_eq_some_iff_wordOf? {bytes : ByteArray} {choice : setting.Choice} :
    setting.read? (some bytes) = some choice ↔
      ∃ word ∈ setting.words choice, wordOf? bytes = some word := by
  have opened : setting.read? (some bytes) =
      (textOfBytes bytes).toOption.bind setting.parse? := rfl
  rw [opened, wordOf?]
  cases (textOfBytes bytes).toOption with
  | none => simp
  | some text => simp [parse?_eq_some]

/-- A value chooses what it is a spelling of a word for. -/
theorem read?_eq_some_iff {bytes : ByteArray} {choice : setting.Choice} :
    setting.read? (some bytes) = some choice ↔ setting.Chooses choice bytes := by
  rw [read?_eq_some_iff_wordOf?]
  apply exists_congr
  intro word
  apply and_congr_right
  intro member
  exact wordOf?_eq_some_iff (plainWord_of_mem_words member)

/-- Values that are read as the same word choose the same. -/
theorem read?_of_wordOf? {bytes other : ByteArray} (same : wordOf? other = wordOf? bytes) :
    setting.read? (some other) = setting.read? (some bytes) := by
  apply Option.ext
  intro choice
  rw [read?_eq_some_iff_wordOf?, read?_eq_some_iff_wordOf?, same]

/-- A value that is read as no word chooses nothing, as no value does. -/
theorem read?_of_unknown {bytes : ByteArray} (unknown : ∀ choice, ¬setting.Chooses choice bytes) :
    setting.read? (some bytes) = setting.read? none := by
  apply Option.eq_none_iff_forall_ne_some.mpr
  intro choice chosen
  exact unknown choice (read?_eq_some_iff.mp chosen)

/-- A value that is no text is a spelling of no word. -/
theorem not_chooses_of_not_isValidUTF8 {bytes : ByteArray} (invalid : ¬bytes.IsValidUTF8)
    (choice : setting.Choice) : ¬setting.Chooses choice bytes := by
  intro chosen
  obtain ⟨word, -, read⟩ := read?_eq_some_iff_wordOf?.mp (read?_eq_some_iff.mpr chosen)
  rw [wordOf?_of_not_isValidUTF8 invalid] at read
  contradiction

/-- A change of no matter keeps what is chosen. -/
theorem read?_of_change {value? changed? : Option ByteArray}
    (change : setting.Change value? changed?) :
    setting.read? changed? = setting.read? value? := by
  cases change with
  | surrounded around => exact read?_of_wordOf? (wordOf?_of_surrounded around)
  | recased same => exact read?_of_wordOf? (wordOf?_of_recased same)
  | noText invalid => exact (read?_of_unknown (not_chooses_of_not_isValidUTF8 invalid)).symm
  | noWord unknown => exact (read?_of_unknown unknown).symm

/-- Changes of no matter, there and back and one after another, keep what is chosen. -/
theorem read?_of_changes {value? changed? : Option ByteArray}
    (changes : Relation.EqvGen setting.Change value? changed?) :
    setting.read? changed? = setting.read? value? := by
  induction changes with
  | rel _ _ change => exact read?_of_change change
  | refl _ => rfl
  | symm _ _ _ ih => exact ih.symm
  | trans _ _ _ _ _ first second => exact second.trans first

/-! ### What the environment sets -/

/-- Environments whose variables choose the same set the same preferences. -/
theorem ofEnvironment_eq {environment other : Environment}
    (same : ∀ setting : Setting, setting.read? (environment.value? setting.name) =
      setting.read? (other.value? setting.name)) :
    Preferences.ofEnvironment environment = .ofEnvironment other := by
  apply eq_of_get
  intro setting
  rw [get_ofEnvironment, get_ofEnvironment, same]

/-- A variable that is put has the value given. -/
theorem value?_put_self (environment : Environment) (name : String) (value? : Option ByteArray) :
    (environment.put name value?).value? name = value? :=
  if_pos rfl

/-- Any other variable keeps its value. -/
theorem value?_put_of_ne (environment : Environment) {name other : String}
    (value? : Option ByteArray) (differ : other ≠ name) :
    (environment.put name value?).value? other = environment.value? other :=
  if_neg differ

/-- The variable of another setting does not matter to a setting. -/
theorem get_put_of_ne (environment : Environment) {name : String} (value? : Option ByteArray)
    (differ : setting.name ≠ name) :
    setting.get (.ofEnvironment (environment.put name value?)) =
      setting.get (.ofEnvironment environment) := by
  rw [get_ofEnvironment, get_ofEnvironment, value?_put_of_ne environment value? differ]

/-- A word for a choice, put as the value of its variable, sets a setting to it. -/
theorem get_put_word (environment : Environment) {choice : setting.Choice} {word : String}
    (member : word ∈ setting.words choice) :
    setting.get (.ofEnvironment (environment.put setting.name (some word.toUTF8))) = choice := by
  have chosen : setting.read? (some word.toUTF8) = some choice := by
    apply read?_eq_some_iff_wordOf?.mpr
    exact ⟨word, member, by rw [wordOf?_toUTF8, plainWord_of_mem_words member]⟩
  rw [get_ofEnvironment, value?_put_self, chosen, Option.getD_some]

/-- In every environment a setting is influenced by its own variable and by no other. -/
theorem influencedBy_iff {name : String} {environment : Environment} :
    setting.InfluencedBy name environment ↔ setting.name = name := by
  constructor
  · rintro ⟨value?, influenced⟩
    by_contra differ
    exact influenced (get_put_of_ne environment value? differ)
  · rintro rfl
    -- A word for something else than what is set now changes the setting.
    obtain ⟨choice, differ⟩ := exists_ne (setting.get (.ofEnvironment environment))
    obtain ⟨word, member⟩ := exists_mem_words choice
    refine ⟨some word.toUTF8, ?_⟩
    rw [get_put_word environment member]
    exact differ

/-- A setting is set to what its variable has a spelling of a word for. Without a value, and with
one that spells no such word, it has its default. -/
theorem get_ofEnvironment_eq_iff {environment : Environment} {choice : setting.Choice} :
    setting.get (.ofEnvironment environment) = choice ↔
      (∃ bytes, environment.value? setting.name = some bytes ∧ setting.Chooses choice bytes) ∨
        (∀ bytes, environment.value? setting.name = some bytes →
          ∀ other, ¬setting.Chooses other bytes) ∧ setting.get {} = choice := by
  rw [get_ofEnvironment]
  cases value : environment.value? setting.name with
  | none =>
    have nothing : setting.read? none = none := rfl
    simp [nothing]
  | some bytes =>
    simp only [Option.some.injEq, exists_eq_left', forall_eq', ← read?_eq_some_iff]
    cases setting.read? (some bytes) with
    | none => simp
    | some chosen => simp

end Setting

open Setting in
/-- What the environment sets depends on the known variables alone. In every environment each of
them influences one setting and no other. A setting is set to what its variable has a spelling of a
word for, and otherwise to its default. So blank characters around a value, the case of its ASCII
letters, and a value that is no text or spells no word for the setting are of no matter, in one
variable or in all of them, once or one after another; and if every variable that is set chooses its
default or nothing, the preferences are the default ones. -/
theorem preferences_of_environment (environment : Environment) :
    (∀ other : Environment,
        (∀ name ∈ Environment.known, other.value? name = environment.value? name) →
        Preferences.ofEnvironment other = .ofEnvironment environment) ∧
      (∀ name ∈ Environment.known, ∃! setting : Setting, setting.InfluencedBy name environment) ∧
      (∀ (setting : Setting) (choice : setting.Choice),
        setting.get (.ofEnvironment environment) = choice ↔
          (∃ bytes, environment.value? setting.name = some bytes ∧
              setting.Chooses choice bytes) ∨
            (∀ bytes, environment.value? setting.name = some bytes →
              ∀ other, ¬setting.Chooses other bytes) ∧ setting.get {} = choice) ∧
      (∀ (setting : Setting) (changed? : Option ByteArray),
        setting.Change (environment.value? setting.name) changed? →
        Preferences.ofEnvironment (environment.put setting.name changed?) =
          .ofEnvironment environment) ∧
      (∀ other : Environment,
        (∀ setting : Setting, Relation.EqvGen setting.Change
          (environment.value? setting.name) (other.value? setting.name)) →
        Preferences.ofEnvironment other = .ofEnvironment environment) ∧
      ((∀ (setting : Setting) (bytes : ByteArray),
          environment.value? setting.name = some bytes →
          (∀ choice, ¬setting.Chooses choice bytes) ∨ setting.Chooses (setting.get {}) bytes) →
        Preferences.ofEnvironment environment = {}) := by
  refine ⟨?_, ?_, fun setting choice => get_ofEnvironment_eq_iff, ?_, ?_, ?_⟩
  · intro other agree
    apply ofEnvironment_eq
    intro setting
    rw [agree setting.name (mem_known_iff.mpr ⟨setting, rfl⟩)]
  · intro name known
    obtain ⟨setting, same⟩ := mem_known_iff.mp known
    refine ⟨setting, influencedBy_iff.mpr same, ?_⟩
    intro other influenced
    apply name_injective
    rw [influencedBy_iff.mp influenced, same]
  · intro setting changed? change
    apply ofEnvironment_eq
    intro other
    by_cases own : other.name = setting.name
    · obtain rfl := name_injective own
      rw [value?_put_self, read?_of_change change]
    · rw [value?_put_of_ne environment changed? own]
  · intro other changes
    apply ofEnvironment_eq
    intro setting
    exact read?_of_changes (changes setting)
  · intro plain
    apply eq_of_get
    intro setting
    apply get_ofEnvironment_eq_iff.mpr
    cases value : environment.value? setting.name with
    | none => exact .inr ⟨nofun, rfl⟩
    | some bytes =>
      rcases plain setting bytes value with unknown | chosen
      · right
        refine ⟨?_, rfl⟩
        rintro _ ⟨rfl⟩
        exact unknown
      · exact .inl ⟨bytes, rfl, chosen⟩

open Setting in
/-- A variable that is not known is of no matter. Neither is the loss of a value that is no text,
nor a word in capitals between an em space and a line feed. A word that nobody knows and the word
for the default level leave the default preferences. -/
theorem preferences_of_spellings :
    let environment := Environment.ofList
      [("LUTHOR_LEXICAL_COLLECT_METRICS", "off".toUTF8), ("LUTHOR_LOADER_LOG_TIMING", ⟨#[0xFF]⟩)]
    let further := environment.put "HOME" (some "/".toUTF8)
    let respelled := Environment.ofList
      [("LUTHOR_LEXICAL_COLLECT_METRICS", "\u2003oFF\n".toUTF8)]
    let plain := Environment.ofList
      [("LUTHOR_LOGGING_MIN_LEVEL", "info".toUTF8), ("LUTHOR_LOGGING_CONSOLE", "maybe".toUTF8)]
    Preferences.ofEnvironment environment = { lexical := { collectMetrics := false } } ∧
      (∀ name ∈ Environment.known, further.value? name = environment.value? name) ∧
      Preferences.ofEnvironment further = .ofEnvironment environment ∧
      loaderTiming.name ∈ Environment.known ∧
      (∃! setting : Setting, setting.InfluencedBy loaderTiming.name environment) ∧
      loaderTiming.Change (environment.value? loaderTiming.name) none ∧
      Preferences.ofEnvironment (environment.put loaderTiming.name none) =
        .ofEnvironment environment ∧
      (∀ setting : Setting, Relation.EqvGen setting.Change
        (environment.value? setting.name) (respelled.value? setting.name)) ∧
      Preferences.ofEnvironment respelled = .ofEnvironment environment ∧
      (∀ (setting : Setting) (bytes : ByteArray), plain.value? setting.name = some bytes →
        (∀ choice, ¬setting.Chooses choice bytes) ∨ setting.Chooses (setting.get {}) bytes) ∧
      Preferences.ofEnvironment plain = {} := by
  intro environment further respelled plain
  have agree : ∀ name ∈ Environment.known,
      further.value? name = environment.value? name := by
    intro name known
    apply value?_put_of_ne
    rintro rfl
    revert known
    decide
  have known : loaderTiming.name ∈ Environment.known := by decide
  have lost : loaderTiming.Change (environment.value? loaderTiming.name) none := .noText (by decide)
  have recased : Recased "off".toUTF8 "oFF".toUTF8 := by
    have capital : CapitalOf 0x46 0x66 := ⟨by decide, by decide, by decide⟩
    exact .cons (.inl rfl) (.cons (.inr (.inr capital)) (.cons (.inr (.inr capital)) .nil))
  have surrounded : Surrounded "oFF".toUTF8 "\u2003oFF\n".toUTF8 :=
    ⟨"\u2003", "\n", by simp [isBlank], by simp [isBlank], rfl⟩
  have changes (setting : Setting) : Relation.EqvGen setting.Change
      (environment.value? setting.name) (respelled.value? setting.name) := by
    cases setting with
    | loaderTiming => exact .rel _ _ lost
    | metrics =>
      exact .trans _ _ _ (.rel _ _ (.recased recased)) (.rel _ _ (.surrounded surrounded))
    | _ => exact .refl _
  have plainly (setting : Setting) (bytes : ByteArray)
      (value : plain.value? setting.name = some bytes) :
      (∀ choice, ¬setting.Chooses choice bytes) ∨ setting.Chooses (setting.get {}) bytes := by
    cases setting with
    | consoleLogging =>
      obtain rfl := Option.some.inj value
      have nothing : read? consoleLogging (some "maybe".toUTF8) = none := by cbv
      left
      intro choice chosen
      rw [read?_eq_some_iff.mpr chosen] at nothing
      contradiction
    | minLogLevel =>
      obtain rfl := Option.some.inj value
      right
      exact read?_eq_some_iff.mp (by cbv)
    | _ => exact absurd value.symm (Option.some_ne_none bytes)
  obtain ⟨agreeing, influence, -, changing, respelling, -⟩ := preferences_of_environment environment
  obtain ⟨-, -, -, -, -, default⟩ := preferences_of_environment plain
  exact ⟨by cbv, agree, agreeing further agree, known, influence _ known, lost,
    changing loaderTiming none lost, changes, respelling respelled changes, plainly,
    default plainly⟩

end CharLexer
