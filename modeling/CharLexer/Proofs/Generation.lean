import CharLexer.Limits.Generate
import CharLexer.Proofs.ProgramText
import CharLexer.Proofs.Utf8
import Mathlib.Data.List.Nodup

/-!
# Generated constants

Constants are written when the configuration file is there to be read, gives the three numbers
(`Limits.DescribedBy`) and these keep to all bounds (`Limits.Within`); the first of these that fails
is the error, and nothing is written then. The problems that are told are the bounds that are
broken, each once (`Limits.mem_problems`).

The name of the profile, whatever its characters are, stands twice in what is written
(`Limits.IsConstants`): no character of it leads out of the comment or out of the text it stands
in, there are as many lines as for any other name, and the literals that a reader of program texts
finds are the name and the three numbers (`Limits.generate_of_complete`).
-/
namespace CharLexer

open ProgramText

/-! ### Numbers of a document -/

namespace Toml.Value

/-- Only an integer that is not negative has a number. -/
theorem nat?_eq_some {value : Value} {number : Nat} :
    value.nat? = some number ↔ value = .integer number := by
  constructor
  · intro has
    cases value with
    | integer integer =>
      change (if 0 ≤ integer then some integer.toNat else none) = some number at has
      by_cases positive : 0 ≤ integer
      · rw [if_pos positive, Option.some.injEq] at has
        rw [← has, Int.toNat_of_nonneg positive]
      · rw [if_neg positive] at has
        contradiction
    | _ => contradiction
  · rintro rfl
    rw [nat?, if_pos (Int.natCast_nonneg number), Int.toNat_natCast]

/-- Whether a document gives a number, under a name in the section of a name. Where an array takes
the place of a table, the place of the section counts, and the first element of it. -/
def Gives (document : Value) (sectionName : String) (place : Nat) (name : String) (number : Nat) :
    Prop :=
  ∃ table, document.field? sectionName place = some table ∧
    table.field? name 0 = some (.integer number)

end Toml.Value

namespace Limits

/-- Whether a document gives the numbers of some limits. -/
structure DescribedBy (limits : Limits) (document : Toml.Value) : Prop where
  maxFileSize : document.Gives "file_processing" 0 "max_file_size" limits.maxFileSize
  tokenCapacityDivisor :
    document.Gives "lexical" 1 "token_capacity_divisor" limits.tokenCapacityDivisor
  maxLogMessageLength :
    document.Gives "logging" 2 "max_log_message_length" limits.maxLogMessageLength

/-- A document describes one choice of limits at most, which is the one it is read as. -/
theorem ofDocument?_eq_some {document : Toml.Value} {limits : Limits} :
    ofDocument? document = some limits ↔ limits.DescribedBy document := by
  constructor
  · intro read
    simp only [ofDocument?, Option.bind_eq_bind, Option.bind_eq_some_iff, Option.pure_def,
      Option.some.injEq] at read
    obtain ⟨fileProcessing, hasFirst, lexical, hasSecond, logging, hasThird,
      sizeValue, sizeField, size, sizeNumber, divisorValue, divisorField, divisor, divisorNumber,
      lengthValue, lengthField, length, lengthNumber, rfl⟩ := read
    rw [Toml.Value.nat?_eq_some] at sizeNumber divisorNumber lengthNumber
    subst sizeNumber divisorNumber lengthNumber
    exact ⟨⟨fileProcessing, hasFirst, sizeField⟩, ⟨lexical, hasSecond, divisorField⟩,
      ⟨logging, hasThird, lengthField⟩⟩
  · rintro ⟨⟨fileProcessing, hasFirst, sizeField⟩, ⟨lexical, hasSecond, divisorField⟩,
      ⟨logging, hasThird, lengthField⟩⟩
    have number : ∀ number : Nat, (Toml.Value.integer number).nat? = some number :=
      fun number => Toml.Value.nat?_eq_some.mpr rfl
    simp [ofDocument?, hasFirst, hasSecond, hasThird, sizeField, divisorField, lengthField, number]

/-! ### Bounds -/

/-- Whether limits keep to the bounds of a profile. -/
structure Within (limits : Limits) (profile : String) : Prop where
  one_le_size : 1 ≤ limits.maxFileSize
  size_le : limits.maxFileSize ≤ 1000000000
  size_le_of_production : profile = "production" → limits.maxFileSize ≤ 50000000
  one_le_divisor : 1 ≤ limits.tokenCapacityDivisor
  le_length : 64 ≤ limits.maxLogMessageLength

/-- Whether limits break the bound of a problem. -/
def Breaks (limits : Limits) (profile : String) : Problem → Prop
  | .fileSizeOutside size =>
    size = limits.maxFileSize ∧ ¬ (1 ≤ limits.maxFileSize ∧ limits.maxFileSize ≤ 1000000000)
  | .fileSizeAboveProduction => profile = "production" ∧ ¬ limits.maxFileSize ≤ 50000000
  | .noCapacityDivisor => ¬ 1 ≤ limits.tokenCapacityDivisor
  | .messagesTooShort => ¬ 64 ≤ limits.maxLogMessageLength

/-- No two problems have one text: the texts end in different characters, and one holds a number. -/
theorem Problem.message_injective : Function.Injective Problem.message := by
  have last : ∀ size, (Problem.fileSizeOutside size).message.toList.getLast? = some '9' := by
    intro size
    change ("max_file_size " ++ toString size ++ " outside 1..=1e9").toList.getLast? = some '9'
    rw [String.toList_append, List.getLast?_append]
    rfl
  intro first second same
  have ends := congrArg (fun text => text.toList.getLast?) same
  cases first with
  | fileSizeOutside size =>
    simp only [last] at ends
    cases second with
    | fileSizeOutside other =>
      have digits : size.repr = other.repr :=
        String.append_right_inj _ |>.mp (String.append_left_inj _ |>.mp same)
      have read := congrArg String.toNat? digits
      rw [Nat.toNat?_repr, Nat.toNat?_repr, Option.some.injEq] at read
      rw [read]
    | _ => contradiction
  | fileSizeAboveProduction | noCapacityDivisor | messagesTooShort =>
    cases second with
    | fileSizeOutside other =>
      simp only [last] at ends
      contradiction
    | _ => first | rfl | contradiction

variable {limits : Limits} {profile : String}

/-- The problems are the bounds that are broken. -/
theorem mem_problems {problem : Problem} :
    problem ∈ limits.problems profile ↔ limits.Breaks profile problem := by
  unfold problems
  cases problem with
  | fileSizeOutside size => simp [Breaks]; omega
  | fileSizeAboveProduction => simp [Breaks]
  | noCapacityDivisor => simp [Breaks]
  | messagesTooShort => simp [Breaks]

/-- No bound is told twice. -/
theorem nodup_problems : (limits.problems profile).Nodup := by
  have told : ∀ (broken : Prop) [Decidable broken] (problem : Problem),
      (if broken then [problem] else []).Sublist [problem] := by
    intro broken _ problem
    split
    · exact List.Sublist.refl _
    · exact List.nil_sublist _
  have all : List.Nodup [Problem.fileSizeOutside limits.maxFileSize, .fileSizeAboveProduction,
      .noCapacityDivisor, .messagesTooShort] := by
    simp
  apply List.Sublist.nodup _ all
  exact (((told _ _).append (told _ _)).append (told _ _)).append (told _ _)

/-- Limits keep to all bounds when they break none. -/
theorem within_iff : limits.Within profile ↔ ∀ problem, ¬ limits.Breaks profile problem := by
  constructor
  · intro within problem
    cases problem with
    | fileSizeOutside size => exact fun broken => broken.2 ⟨within.one_le_size, within.size_le⟩
    | fileSizeAboveProduction =>
      exact fun broken => broken.2 (within.size_le_of_production broken.1)
    | noCapacityDivisor => exact fun broken => broken within.one_le_divisor
    | messagesTooShort => exact fun broken => broken within.le_length
  · intro none
    have size : 1 ≤ limits.maxFileSize ∧ limits.maxFileSize ≤ 1000000000 :=
      by_contra fun outside => none (.fileSizeOutside limits.maxFileSize) ⟨rfl, outside⟩
    exact {
      one_le_size := size.1
      size_le := size.2
      size_le_of_production := fun production =>
        by_contra fun above => none .fileSizeAboveProduction ⟨production, above⟩
      one_le_divisor := by_contra (none .noCapacityDivisor)
      le_length := by_contra (none .messagesTooShort) }

/-- Limits without problems keep to all bounds. -/
theorem problems_eq_nil : limits.problems profile = [] ↔ limits.Within profile := by
  rw [within_iff, List.eq_nil_iff_forall_not_mem]
  exact forall_congr' fun problem => not_congr mem_problems

/-! ### What is written -/

/-- What a program text of constants is to hold for a profile, whatever its name. -/
structure IsConstants (text profile : String) (limits : Limits) : Prop where
  /-- There are thirteen lines, for every reader of texts. -/
  lines : ∃ lines : List String, lines.length = 13 ∧ (∀ line ∈ lines, Unbroken line) ∧
    text = String.join (lines.map (· ++ "\n"))
  /-- The name stands in a comment first, which none of its characters ends. -/
  comment : ∃ before after, text = before ++ quoted profile ++ after ∧
    ∀ read, read <+: (quoted profile).toList →
      placeAfter (before.toList ++ read) = some .comment
  /-- It stands in a text then, which none of its characters ends either. -/
  inText : ∃ before after, text = before ++ quoted profile ++ after ∧
    ∀ read, read <+: quotedChars profile →
      ∃ place, placeAfter (before.toList ++ '"' :: read) = some place ∧ place.InText
  /-- What is read of the literals are the name and the numbers. -/
  literals : ProgramText.literals text = some [.text profile, .number limits.maxFileSize,
    .number limits.tokenCapacityDivisor, .number limits.maxLogMessageLength]

variable (limits profile)

/-- No line of the constants breaks. -/
theorem unbroken_of_mem_constantLines : ∀ line ∈ limits.constantLines profile, Unbroken line := by
  have text : ∀ {opening closing : String}, Unbroken opening → Unbroken closing →
      Unbroken (opening ++ quoted profile ++ closing) :=
    fun first last => (first.append (unbroken_quoted profile)).append last
  have number : ∀ {opening closing : String} {value : Nat}, Unbroken opening → Unbroken closing →
      Unbroken (opening ++ toString value ++ closing) :=
    fun first last => (first.append (unbroken_repr _)).append last
  have semicolon : Unbroken ";" := unbroken_of_all (by decide)
  have brace : Unbroken "    \x7d" := unbroken_of_all (by decide)
  unfold constantLines
  simp only [List.forall_mem_cons]
  exact ⟨text (unbroken_of_all (by decide +kernel)) (unbroken_of_all (by decide +kernel)),
    unbroken_of_all (by decide +kernel),
    text (unbroken_of_all (by decide +kernel)) semicolon,
    unbroken_of_all (by decide +kernel),
    number (unbroken_of_all (by decide +kernel)) semicolon, brace,
    unbroken_of_all (by decide +kernel),
    number (unbroken_of_all (by decide +kernel)) semicolon, brace,
    unbroken_of_all (by decide +kernel),
    number (unbroken_of_all (by decide +kernel)) semicolon, brace,
    unbroken_of_all (by decide +kernel),
    fun _ member => absurd member List.not_mem_nil⟩

/-- The first line is a comment. -/
theorem lineHas_first :
    LineHas ("// Generated by build.rs from the " ++ quoted profile ++ " profile") [] := by
  have closing : Unbroken " profile" := unbroken_of_all (by decide)
  rw [String.append_assoc]
  exact lineHas_comment rfl ((unbroken_quoted profile).append closing)

/-- The literals of the constants, line by line. -/
theorem lineHas_constantLines :
    List.Forall₂ LineHas (limits.constantLines profile)
      [[], [], [.text profile], [], [.number limits.maxFileSize], [], [],
        [.number limits.tokenCapacityDivisor], [], [], [.number limits.maxLogMessageLength], [],
        []] := by
  refine .cons (lineHas_first profile) (.cons ?_ (.cons ?_ (.cons ?_ (.cons ?_ (.cons ?_ (.cons ?_
    (.cons ?_ (.cons ?_ (.cons ?_ (.cons ?_ (.cons ?_ (.cons ?_ .nil))))))))))))
  case refine_2 => exact lineHas_text (by rfl) profile
  case refine_4 | refine_7 | refine_10 => exact lineHas_number (by rfl) _
  all_goals rfl

/-- The constants hold what they are to hold. -/
theorem isConstants_constants : IsConstants (limits.constants profile) profile limits where
  lines := ⟨limits.constantLines profile, rfl, unbroken_of_mem_constantLines limits profile, rfl⟩
  comment := by
    refine ⟨"// Generated by build.rs from the ",
      " profile\n" ++ String.join ((limits.constantLines profile).tail.map (· ++ "\n")), ?_, ?_⟩
    · rw [constants, constantLines, List.map_cons, String.join_cons]
      simp only [String.append_assoc]
      rfl
    · intro read front
      have lineFeed : '\n' ∉ read := fun member =>
        unbroken_quoted profile '\n' (front.subset member) (by decide)
      have opens : Leads "// Generated by build.rs from the ".toList .code .comment := rfl
      rw [placeAfter_append opens, run_comment [] lineFeed]
      rfl
  inText := by
    have lines : limits.constantLines profile = (limits.constantLines profile).take 2 ++
        ("    pub const PROFILE: &str = " ++ quoted profile ++ ";") ::
          (limits.constantLines profile).drop 3 := rfl
    refine ⟨String.join (((limits.constantLines profile).take 2).map (· ++ "\n")) ++
        "    pub const PROFILE: &str = ",
      ";" ++ ("\n" ++ String.join (((limits.constantLines profile).drop 3).map (· ++ "\n"))),
      ?_, ?_⟩
    · rw [constants, lines, List.map_append, String.join_append, List.map_cons, String.join_cons]
      simp only [String.append_assoc]
      rfl
    · intro read front
      obtain ⟨next, reached, inside⟩ := inText_of_prefix front
      have has : List.Forall₂ LineHas ((limits.constantLines profile).take 2) [[], []] :=
        .cons (lineHas_first profile) (.cons (by rfl) .nil)
      have above : Leads _ .code .code := run_lines has
      have opens : Leads "    pub const PROFILE: &str = ".toList .code .code := by rfl
      have quote : (⟨[], .code⟩ : Reader).step '"' = some ⟨[], .text []⟩ := rfl
      refine ⟨next.place, ?_, inside⟩
      rw [String.toList_append, placeAfter_append (above.append opens), run_cons, quote,
        Option.bind_some, reached]
      rfl
  literals := by
    rw [ProgramText.literals, constants, run_lines (lineHas_constantLines limits profile)]
    rfl

end Limits

/-! ### What is generated -/

/-- Whether a file is a text that gives some limits. -/
def FileTree.GivesLimits (tree : FileTree) (file : Path) (limits : Limits) : Prop :=
  ∃ text document, tree.read file = .ok text.toUTF8 ∧ Toml.parse text = some document ∧
    limits.DescribedBy document

namespace Limits

namespace GenerateSettings

variable (settings : GenerateSettings) {tree : FileTree} {file : Path} {limits : Limits}

/-- What is not there to be read as a text is an error. -/
theorem limits_of_unreadable (unreadable : ∀ text : String, tree.read file ≠ .ok text.toUTF8) :
    ∃ cause, settings.limits tree file = .error (.unreadable file cause) := by
  unfold GenerateSettings.limits
  cases read : tree.read file with
  | error cause => exact ⟨cause, rfl⟩
  | ok bytes =>
    cases decoded : textOfBytes bytes with
    | error => exact ⟨.notUtf8, by simp only [decoded]⟩
    | ok text =>
      rw [textOfBytes_eq_ok.mp decoded] at read
      exact absurd read (unreadable text)

/-- A text that gives no limits is an error. -/
theorem limits_of_invalid {text : String} (read : tree.read file = .ok text.toUTF8)
    (none : ∀ limits, ¬ tree.GivesLimits file limits) :
    settings.limits tree file = .error (.invalid file) := by
  have nothing : (Toml.parse text).bind ofDocument? = .none := by
    rw [Option.eq_none_iff_forall_ne_some]
    intro limits given
    obtain ⟨document, parsed, described⟩ := Option.bind_eq_some_iff.mp given
    exact none limits ⟨text, document, read, parsed, ofDocument?_eq_some.mp described⟩
  unfold GenerateSettings.limits
  simp only [read, textOfBytes_eq_ok.mpr rfl, nothing]

/-- The limits of a file that keep to all bounds are taken. -/
theorem limits_of_within (gives : tree.GivesLimits file limits)
    (within : limits.Within settings.profile) : settings.limits tree file = .ok limits := by
  obtain ⟨text, document, read, parsed, described⟩ := gives
  unfold GenerateSettings.limits
  simp only [read, textOfBytes_eq_ok.mpr rfl, parsed, Option.bind_some,
    ofDocument?_eq_some.mpr described, problems_eq_nil.mpr within]

/-- Limits of a file that break a bound are an error. -/
theorem limits_of_not_within (gives : tree.GivesLimits file limits)
    (beyond : ¬ limits.Within settings.profile) :
    settings.limits tree file = .error (.problems file (limits.problems settings.profile)) := by
  obtain ⟨text, document, read, parsed, described⟩ := gives
  unfold GenerateSettings.limits
  simp only [read, textOfBytes_eq_ok.mpr rfl, parsed, Option.bind_some,
    ofDocument?_eq_some.mpr described]
  cases told : limits.problems settings.profile with
  | nil => exact absurd (problems_eq_nil.mp told) beyond
  | cons first rest => rfl

/-- The limits that are taken are those the file gives, within all bounds. -/
theorem limits_eq_ok : settings.limits tree file = .ok limits ↔
    tree.GivesLimits file limits ∧ limits.Within settings.profile := by
  constructor
  · intro taken
    by_cases readable : ∃ text : String, tree.read file = .ok text.toUTF8
    · obtain ⟨text, read⟩ := readable
      by_cases given : ∃ limits, tree.GivesLimits file limits
      · obtain ⟨others, gives⟩ := given
        by_cases within : others.Within settings.profile
        · rw [settings.limits_of_within gives within] at taken
          cases taken
          exact ⟨gives, within⟩
        · rw [settings.limits_of_not_within gives within] at taken
          contradiction
      · rw [settings.limits_of_invalid read (not_exists.mp given)] at taken
        contradiction
    · obtain ⟨cause, error⟩ := settings.limits_of_unreadable (not_exists.mp readable)
      rw [error] at taken
      contradiction
  · rintro ⟨gives, within⟩
    exact settings.limits_of_within gives within

/-- The configuration file stands beside the package. -/
theorem file_of_parent {package above : Path} (hasPackage : settings.package? = some package)
    (hasParent : package.parent? = some above) :
    settings.file = .ok ((above.join (settings.configuration?.getD ⟨"config"⟩)).join
      ⟨settings.profile ++ ".toml"⟩) := by
  unfold GenerateSettings.file
  simp only [hasPackage, hasParent]

/-- The constants go into the output directory. -/
theorem written_of_output {output : Path} (hasOutput : settings.output? = some output)
    (writable : tree.writable (output.join ⟨"constants.rs"⟩) = .ok ()) (limits : Limits) :
    settings.written tree limits =
      .ok ⟨output.join ⟨"constants.rs"⟩, limits.constants settings.profile⟩ := by
  unfold GenerateSettings.written
  simp only [hasOutput, writable]

/-- What is generated is what is written of the limits of the file. -/
theorem outcome_generate (located : settings.file = .ok file) :
    (settings.generate tree).outcome =
      (settings.limits tree file).bind (settings.written tree) := by
  unfold GenerateSettings.generate
  rw [located]
  rfl

/-- Constants are written exactly when the file gives limits that keep to all bounds. -/
theorem outcome_eq_ok {target : Path} (located : settings.file = .ok file)
    (writes : ∀ limits, settings.written tree limits =
      .ok ⟨target, limits.constants settings.profile⟩) (written : Written) :
    (settings.generate tree).outcome = .ok written ↔
      ∃ limits, tree.GivesLimits file limits ∧ limits.Within settings.profile ∧
        written = ⟨target, limits.constants settings.profile⟩ := by
  rw [settings.outcome_generate located]
  constructor
  · intro done
    cases taken : settings.limits tree file with
    | error error =>
      rw [taken] at done
      contradiction
    | ok limits =>
      obtain ⟨gives, within⟩ := settings.limits_eq_ok.mp taken
      rw [taken] at done
      change settings.written tree limits = .ok written at done
      rw [writes, Except.ok.injEq] at done
      exact ⟨limits, gives, within, done.symm⟩
  · rintro ⟨limits, gives, within, rfl⟩
    rw [settings.limits_of_within gives within]
    exact writes limits

/-- The problems are the error where the limits of the file break a bound. -/
theorem outcome_of_not_within (located : settings.file = .ok file)
    (gives : tree.GivesLimits file limits) (beyond : ¬ limits.Within settings.profile) :
    (settings.generate tree).outcome =
      .error (.problems file (limits.problems settings.profile)) := by
  rw [settings.outcome_generate located, settings.limits_of_not_within gives beyond]
  rfl

/-- The file is the error where it gives no limits. -/
theorem outcome_of_none (located : settings.file = .ok file)
    (none : ∀ limits, ¬ tree.GivesLimits file limits) :
    (settings.generate tree).outcome = .error (.invalid file) ∨
      ∃ cause, (settings.generate tree).outcome = .error (.unreadable file cause) := by
  rw [settings.outcome_generate located]
  by_cases readable : ∃ text : String, tree.read file = .ok text.toUTF8
  · obtain ⟨text, read⟩ := readable
    left
    rw [settings.limits_of_invalid read none]
    rfl
  · obtain ⟨cause, error⟩ := settings.limits_of_unreadable (not_exists.mp readable)
    right
    rw [error]
    exact ⟨cause, rfl⟩

end GenerateSettings

/-- Texts behind a separator each are the separator and the texts with it in between. -/
theorem join_map_append (separator : String) {texts : List String} (some : texts ≠ []) :
    String.join (texts.map (separator ++ ·)) = separator ++ separator.intercalate texts := by
  induction texts with
  | nil => contradiction
  | cons text rest ih =>
    rw [List.map_cons, String.join_cons]
    cases rest with
    | nil => simp
    | cons next others =>
      rw [ih (List.cons_ne_nil next others), String.intercalate_cons_cons]
      simp only [String.append_assoc]

/-- The text of the error tells each problem on a line. -/
theorem message_problems (file : Path) {found : List Problem} (some : found ≠ []) :
    (GenerateError.problems file found).message =
      file.text ++ ":" ++ String.join ((found.map Problem.message).map ("\n  " ++ ·)) := by
  have mapped : found.map Problem.message ≠ [] := by simpa using some
  have opening : ":\n  " = ":" ++ "\n  " := by rfl
  change file.text ++ ":\n  " ++ String.intercalate "\n  " (found.map Problem.message) = _
  rw [join_map_append "\n  " mapped, opening, String.append_assoc, String.append_assoc,
    String.append_assoc]

/-- What comes of settings that are complete, for whatever profile and configuration directory: the
constants are written when the file gives limits that keep to all bounds, and hold the name of the
profile and the three numbers then; else nothing is written, and where there are limits the bounds
they break are told, all of them and no others. -/
theorem generate_of_complete {settings : GenerateSettings} {tree : FileTree}
    {package above output : Path} (hasPackage : settings.package? = some package)
    (hasParent : package.parent? = some above) (hasOutput : settings.output? = some output)
    (writable : tree.writable (output.join ⟨"constants.rs"⟩) = .ok ()) :
    let file := (above.join (settings.configuration?.getD ⟨"config"⟩)).join
      ⟨settings.profile ++ ".toml"⟩
    let outcome := (settings.generate tree).outcome
    (∀ written, outcome = .ok written ↔
      ∃ limits, tree.GivesLimits file limits ∧ limits.Within settings.profile ∧
        written = ⟨output.join ⟨"constants.rs"⟩, limits.constants settings.profile⟩) ∧
    (∀ limits, tree.GivesLimits file limits → ¬ limits.Within settings.profile →
      ∃ found, outcome = .error (.problems file found) ∧
        (GenerateError.problems file found).message =
          file.text ++ ":" ++ String.join ((found.map Problem.message).map ("\n  " ++ ·)) ∧
        (found.map Problem.message).Nodup ∧
        ∀ problem, problem.message ∈ found.map Problem.message ↔
          limits.Breaks settings.profile problem) ∧
    ((∀ limits, ¬ tree.GivesLimits file limits) →
      outcome = .error (.invalid file) ∨ ∃ cause, outcome = .error (.unreadable file cause)) ∧
    ∀ limits, IsConstants (limits.constants settings.profile) settings.profile limits := by
  intro file outcome
  have located : settings.file = .ok file := settings.file_of_parent hasPackage hasParent
  refine ⟨settings.outcome_eq_ok located (settings.written_of_output hasOutput writable), ?_,
    settings.outcome_of_none located, fun limits => isConstants_constants limits settings.profile⟩
  intro limits gives beyond
  have some : limits.problems settings.profile ≠ [] := mt problems_eq_nil.mp beyond
  refine ⟨limits.problems settings.profile, settings.outcome_of_not_within located gives beyond,
    message_problems file some, List.Nodup.map Problem.message_injective nodup_problems, ?_⟩
  intro problem
  rw [List.mem_map_of_injective Problem.message_injective, mem_problems]

/-- A configuration file of the least numbers. -/
def leastFile : String :=
  "[file_processing]\nmax_file_size=1\n[lexical]\ntoken_capacity_divisor=1\n[logging]\n" ++
    "max_log_message_length=64\n"

/-- A tree with a configuration directory, in which the file of one profile stands. -/
def leastTree (bytes : ByteArray) : FileTree :=
  ⟨.directory [("w", .directory [("config", .directory [("\".toml", .file bytes)])])], []⟩

/-- The configuration file can be read. -/
theorem read_leastTree (bytes : ByteArray) :
    (leastTree bytes).read ⟨"w/config/\".toml"⟩ = .ok bytes := by
  have steps : (⟨"w/config/\".toml"⟩ : Path).steps = ["w", "config", "\".toml"] := by rfl
  have sizes : "w/config/\".toml".utf8ByteSize = 15 ∧ "w".utf8ByteSize = 1 ∧
      "config".utf8ByteSize = 6 ∧ "\".toml".utf8ByteSize = 6 := by
    decide
  simp [steps, sizes, leastTree, FileTree.read, FileTree.node, FileTree.resolve, FileTree.follow,
    FileTree.origin, FileTree.pathLimit, FileTree.nameLimit, Path.isAbsolute, Node.at?, Node.file,
    Node.entry?, bind, Except.bind, pure, Except.pure]

/-- The constants can be written beside the configuration directory. -/
theorem writable_leastTree (bytes : ByteArray) :
    (leastTree bytes).writable ⟨"w/constants.rs"⟩ = .ok () := by
  have steps : (⟨"w/constants.rs"⟩ : Path).steps = ["w", "constants.rs"] := by rfl
  have absent : List.lookup "constants.rs"
      [("config", Node.directory [("\".toml", .file bytes)])] = none := by rfl
  have sizes : "w/constants.rs".utf8ByteSize = 14 ∧ "w".utf8ByteSize = 1 ∧
      "constants.rs".utf8ByteSize = 12 := by
    decide
  simp [steps, absent, sizes, leastTree, FileTree.writable, FileTree.resolve, FileTree.follow,
    FileTree.origin, FileTree.pathLimit, FileTree.nameLimit, Path.isAbsolute, Node.at?,
    Node.entry?, bind, Except.bind, pure, Except.pure]

/-- A profile whose name is a quote has its constants written. -/
theorem generate_of_quote :
    let tree := leastTree leastFile.toUTF8
    let settings : GenerateSettings := {
      package? := some ⟨"w/l"⟩, output? := some ⟨"w"⟩, profile? := some "\"" }
    let limits : Limits := ⟨1, 1, 64⟩
    (⟨"w/l"⟩ : Path).parent? = some ⟨"w"⟩ ∧
      tree.writable ((⟨"w"⟩ : Path).join ⟨"constants.rs"⟩) = .ok () ∧
      tree.GivesLimits (((⟨"w"⟩ : Path).join ⟨"config"⟩).join ⟨"\"" ++ ".toml"⟩) limits ∧
      limits.Within "\"" ∧
      (settings.generate tree).outcome =
        .ok ⟨(⟨"w"⟩ : Path).join ⟨"constants.rs"⟩, limits.constants "\""⟩ := by
  intro tree settings limits
  have parent : (⟨"w/l"⟩ : Path).parent? = some ⟨"w"⟩ := by rfl
  have writable : tree.writable ((⟨"w"⟩ : Path).join ⟨"constants.rs"⟩) = .ok () := by
    have target : (⟨"w"⟩ : Path).join ⟨"constants.rs"⟩ = ⟨"w/constants.rs"⟩ := by rfl
    rw [target]
    exact writable_leastTree leastFile.toUTF8
  have gives : tree.GivesLimits (((⟨"w"⟩ : Path).join ⟨"config"⟩).join ⟨"\"" ++ ".toml"⟩)
      limits := by
    have file : ((⟨"w"⟩ : Path).join ⟨"config"⟩).join ⟨"\"" ++ ".toml"⟩ =
        ⟨"w/config/\".toml"⟩ := by rfl
    have parsed : (Toml.parse leastFile).bind ofDocument? = some ⟨1, 1, 64⟩ := by decide +kernel
    obtain ⟨document, isDocument, described⟩ := Option.bind_eq_some_iff.mp parsed
    rw [file]
    exact ⟨leastFile, document, read_leastTree _, isDocument, ofDocument?_eq_some.mp described⟩
  have within : limits.Within "\"" := by constructor <;> decide
  exact ⟨parent, writable, gives, within,
    ((@generate_of_complete settings tree _ _ _ rfl parent rfl writable).1 _).mpr
      ⟨limits, gives, within, rfl⟩⟩

end Limits

end CharLexer
