import CharLexer.Files.Tree
import CharLexer.Limits.Profile
import CharLexer.Text.Utf8

/-!
# Generating constants

The configuration file of a profile stands in the configuration directory beside the package. It is
read and checked, and its constants are written into the output directory. The first step that
fails ends the work before anything is written. What is told on the way does not depend on
that: the variables that count, and the file as soon as its path is known.
-/
namespace CharLexer.Limits

/-- The variables that say what is generated, where they are set. -/
structure GenerateSettings where
  /-- The directory of the package. -/
  package? : Option Path := none
  /-- The directory that receives the constants. -/
  output? : Option Path := none
  /-- The name of the profile. -/
  profile? : Option String := none
  /-- The configuration directory. -/
  configuration? : Option Path := none

/-- Why no constants were written. -/
inductive GenerateError
  | packageUnset
  | packageWithoutParent
  | unreadable (file : Path) (cause : FileError)
  /-- The file is no document of the format, or not one of limits. -/
  | invalid (file : Path)
  | problems (file : Path) (found : List Problem)
  | outputUnset
  | unwritable (file : Path) (cause : FileError)

/-- The text of an error. -/
def GenerateError.message : GenerateError → String
  | .packageUnset => "CARGO_MANIFEST_DIR unset"
  | .packageWithoutParent => "luthor crate has no parent directory"
  | .unreadable file cause => "cannot read " ++ file.text ++ ": " ++ cause.message
  | .invalid file => "invalid " ++ file.text
  | .problems file found =>
    file.text ++ ":\n  " ++ String.intercalate "\n  " (found.map Problem.message)
  | .outputUnset => "OUT_DIR unset"
  | .unwritable file cause => "cannot write " ++ file.text ++ ": " ++ cause.message

/-- A text to be written to a file. -/
structure Written where
  file : Path
  text : String

/-- What is told while generating, and its end. -/
structure Generated where
  told : List String
  outcome : Except GenerateError Written

namespace GenerateSettings

/-- The name of the profile that is generated. -/
def profile (settings : GenerateSettings) : String :=
  settings.profile?.getD "development"

/-- The path of the configuration file. -/
def file (settings : GenerateSettings) : Except GenerateError Path :=
  match settings.package? with
  | none => .error .packageUnset
  | some package =>
    match package.parent? with
    | none => .error .packageWithoutParent
    | some above =>
      .ok ((above.join (settings.configuration?.getD ⟨"config"⟩)).join
        ⟨settings.profile ++ ".toml"⟩)

/-- The limits of the configuration file, checked. -/
def limits (settings : GenerateSettings) (tree : FileTree) (file : Path) :
    Except GenerateError Limits :=
  match tree.read file with
  | .error cause => .error (.unreadable file cause)
  | .ok bytes =>
    match textOfBytes bytes with
    | .error _ => .error (.unreadable file .notUtf8)
    | .ok text =>
      match (Toml.parse text).bind ofDocument? with
      | none => .error (.invalid file)
      | some limits =>
        match limits.problems settings.profile with
        | [] => .ok limits
        | found => .error (.problems file found)

/-- The constants of some limits, for a file in the output directory. -/
def written (settings : GenerateSettings) (tree : FileTree) (limits : Limits) :
    Except GenerateError Written :=
  match settings.output? with
  | none => .error .outputUnset
  | some output =>
    let file := output.join ⟨"constants.rs"⟩
    match tree.writable file with
    | .error cause => .error (.unwritable file cause)
    | .ok _ => .ok ⟨file, limits.constants settings.profile⟩

/-- Generate the constants of the profile. -/
def generate (settings : GenerateSettings) (tree : FileTree) : Generated :=
  let told := ["cargo:rerun-if-env-changed=LUTHOR_BUILD_PROFILE",
    "cargo:rerun-if-env-changed=LUTHOR_CONFIG_DIR"]
  match settings.file with
  | .error error => ⟨told, .error error⟩
  | .ok file =>
    ⟨told ++ ["cargo:rerun-if-changed=" ++ file.text], do
      settings.written tree (← settings.limits tree file)⟩

end GenerateSettings

end CharLexer.Limits
