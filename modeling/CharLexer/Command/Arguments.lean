import CharLexer.Files.Path

/-!
# Command-line arguments

Arguments are read from left to right. A value is judged when the argument after it, or the end,
is reached; the first fault ends the reading, and so does a request for the version or for help,
whatever comes after it. Options are given once at most. Short options without a value may be
joined, and a value may be joined to its option, with or without an equals sign to a short one. An
argument behind a double dash is no option.
-/
namespace CharLexer.Command

/-- How tokens are shown. -/
inductive Format
  | text
  | json
  deriving DecidableEq

/-- The format of a written name. -/
def Format.ofName? : String → Option Format
  | "text" => some .text
  | "json" => some .json
  | _ => none

/-- An option without a value. -/
inductive Flag
  | compressWhitespace
  | lines
  | noRecursive
  | verbose
  | version
  | help
  deriving DecidableEq

/-- An option with a value. -/
inductive Setting
  | format
  | letters
  | digits
  | symbols
  | whitespace
  | quotes
  deriving DecidableEq

/-- The option of a long name. -/
def longOption? : String → Option (Flag ⊕ Setting)
  | "compress-whitespace" => some (.inl .compressWhitespace)
  | "lines" => some (.inl .lines)
  | "no-recursive" => some (.inl .noRecursive)
  | "verbose" => some (.inl .verbose)
  | "version" => some (.inl .version)
  | "help" => some (.inl .help)
  | "format" => some (.inr .format)
  | "letters" => some (.inr .letters)
  | "digits" => some (.inr .digits)
  | "symbols" => some (.inr .symbols)
  | "whitespace" => some (.inr .whitespace)
  | "quotes" => some (.inr .quotes)
  | _ => none

/-- The option of a short name. -/
def shortOption? : Char → Option (Flag ⊕ Setting)
  | 'c' => some (.inl .compressWhitespace)
  | 'l' => some (.inl .lines)
  | 'v' => some (.inl .verbose)
  | 'V' => some (.inl .version)
  | 'h' => some (.inl .help)
  | 'f' => some (.inr .format)
  | _ => none

/-- What is wrong with arguments. -/
inductive UsageError
  | unknownOption (argument : String)
  | flagRepeated (flag : Flag)
  | settingRepeated (setting : Setting)
  | valueMissing (setting : Setting)
  | valueUnexpected (flag : Flag)
  | formatUnknown (value : String)
  | pathMissing
  | pathEmpty
  | argumentUnexpected (argument : String)
  deriving DecidableEq

/-- Why the reading of arguments ended before their end. -/
inductive Stop
  | fault (error : UsageError)
  | version
  | help
  deriving DecidableEq

/-- A value that is not judged yet. -/
inductive Pending
  /-- The value of a setting, once it has been read. -/
  | setting (setting : Setting) (value? : Option String)
  /-- The path. -/
  | path (value : String)

/-- Arguments as far as they have been read. -/
structure Draft where
  path? : Option Path := none
  flags : List Flag := []
  settings : List (Setting × String) := []
  pending? : Option Pending := none
  /-- Whether a double dash has been read. -/
  plainOnly : Bool := false

namespace Draft

/-- The value of a setting. -/
def setting? (draft : Draft) (setting : Setting) : Option String := draft.settings.lookup setting

/-- Judge the value of a setting. -/
def acceptSetting (draft : Draft) (setting : Setting) (value : String) : Except Stop Draft :=
  if (draft.setting? setting).isSome then .error (.fault (.settingRepeated setting))
  else if setting = .format ∧ (Format.ofName? value).isNone then
    .error (.fault (.formatUnknown value))
  else .ok { draft with settings := draft.settings ++ [(setting, value)] }

/-- Judge the value that waits, if there is one. -/
def settle (draft : Draft) : Except Stop Draft :=
  let settled := { draft with pending? := none }
  match draft.pending? with
  | none => .ok settled
  | some (.setting setting none) => .error (.fault (.valueMissing setting))
  | some (.setting setting (some value)) => settled.acceptSetting setting value
  | some (.path value) =>
    if value.isEmpty then .error (.fault .pathEmpty)
    else .ok { settled with path? := some ⟨value⟩ }

/-- Take a flag. -/
def takeFlag (draft : Draft) (flag : Flag) : Except Stop Draft := do
  let settled ← draft.settle
  match flag with
  | .version => throw .version
  | .help => throw .help
  | flag =>
    if settled.flags.contains flag then throw (.fault (.flagRepeated flag))
    else return { settled with flags := settled.flags ++ [flag] }

/-- Take a setting whose value may be joined to it. -/
def takeSetting (draft : Draft) (setting : Setting) (joined? : Option String) :
    Except Stop Draft := do
  let settled ← draft.settle
  match joined? with
  | some value => settled.acceptSetting setting value
  | none => return { settled with pending? := some (.setting setting none) }

/-- Take an argument that starts with two dashes, by the characters behind them. -/
def takeLong (draft : Draft) (argument : List Char) : Except Stop Draft :=
  let (name, tail) := argument.span (· != '=')
  let joined? := if tail.isEmpty then none else some (String.ofList (tail.drop 1))
  match longOption? (String.ofList name), joined? with
  | some (.inl flag), none => draft.takeFlag flag
  | some (.inl flag), some _ => .error (.fault (.valueUnexpected flag))
  | some (.inr setting), joined? => draft.takeSetting setting joined?
  | none, _ => .error (.fault (.unknownOption ("--" ++ String.ofList argument)))

/-- Take joined short options. The rest behind a setting is its value. -/
def takeShort (draft : Draft) : List Char → Except Stop Draft
  | [] => .ok draft
  | c :: rest =>
    match shortOption? c with
    | some (.inl flag) => do takeShort (← draft.takeFlag flag) rest
    | some (.inr setting) =>
      match rest with
      | [] => draft.takeSetting setting none
      | '=' :: value => draft.takeSetting setting (some (String.ofList value))
      | value => draft.takeSetting setting (some (String.ofList value))
    | none => .error (.fault (.unknownOption (String.ofList ['-', c])))

/-- Take an argument that is no option. -/
def takePlain (draft : Draft) (argument : String) : Except Stop Draft :=
  match draft.pending?, draft.plainOnly with
  | some (.setting setting none), false =>
    .ok { draft with pending? := some (.setting setting (some argument)) }
  | _, _ => do
    let settled ← draft.settle
    if settled.path?.isSome then throw (.fault (.argumentUnexpected argument))
    else return { settled with pending? := some (.path argument) }

/-- Take an argument. -/
def take (draft : Draft) (argument : String) : Except Stop Draft :=
  if draft.plainOnly then draft.takePlain argument
  else match argument.toList with
    | ['-', '-'] => .ok { draft with plainOnly := true }
    | '-' :: '-' :: rest => draft.takeLong rest
    | '-' :: c :: rest => draft.takeShort (c :: rest)
    | _ => draft.takePlain argument

end Draft

/-- What a run of the command is asked to do. -/
structure Options where
  path : Path
  compressWhitespace : Bool
  lines : Bool
  format : Format
  letters? : Option String
  digits? : Option String
  symbols? : Option String
  whitespace? : Option String
  quotes? : Option String
  recursive : Bool
  verbose : Bool
  deriving DecidableEq

/-- The options that are asked for, without a fault. -/
def Draft.options (draft : Draft) : Except Stop Options := do
  let settled ← draft.settle
  match settled.path? with
  | none => throw (.fault .pathMissing)
  | some path =>
    return {
      path
      compressWhitespace := settled.flags.contains .compressWhitespace
      lines := settled.flags.contains .lines
      format := ((settled.setting? .format).bind Format.ofName?).getD .text
      letters? := settled.setting? .letters
      digits? := settled.setting? .digits
      symbols? := settled.setting? .symbols
      whitespace? := settled.setting? .whitespace
      quotes? := settled.setting? .quotes
      recursive := !settled.flags.contains .noRecursive
      verbose := settled.flags.contains .verbose }

/-- Read the arguments of the command. -/
def parseArguments (arguments : List String) : Except Stop Options := do
  (← arguments.foldlM Draft.take {}).options

end CharLexer.Command
