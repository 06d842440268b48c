import CharLexer.Command.Run
import Std.Time.DateTime.Timestamp

/-!
# The command

The outer layer of the command: it reads the variables, the clock and what stands at the path, lets
the command run on them, and prints what the run leaves behind.
-/
namespace CharLexer.Main

/-- Why a file or a directory could not be read. -/
def cause : IO.Error → FileError
  | .permissionDenied .. => .permissionDenied
  | _ => .inputOutput

/-- The directory entries and files at a path of the file system, with links among the entries left
as links. -/
partial def snapshot (path : String) : IO (Option Node) := do
  let place := (← IO.currentDir) / path
  let kind ← try pure (some (← place.metadata).type) catch _ => pure none
  match kind with
  | some .file =>
    let size := (← place.metadata).byteSize.toNat
    try return some (.regular size (.ok (← IO.FS.readBinFile place)))
    catch error => return some (.regular size (.error (cause error)))
  | some .dir =>
    let listed : Except FileError (Array IO.FS.DirEntry) ←
      try pure (.ok (← place.readDir)) catch error => pure (.error (cause error))
    match listed with
    | .error cause => return some (.directory [] { list? := some cause })
    | .ok found =>
      let mut entries := #[]
      for entry in found do
        let kind := (← entry.path.symlinkMetadata).type
        if kind == .symlink then
          entries := entries.push (entry.fileName, Node.link ⟨""⟩)
        else if let some node ← snapshot entry.path.toString then
          entries := entries.push (entry.fileName, node)
      return some (.directory entries.toList)
  | some _ => return some .device
  | none => return none

/-- The variables that set preferences, with their values. -/
def environment : IO Environment := do
  let mut values := []
  for name in Environment.known do
    if let some value ← IO.getEnv name then
      values := (name, value.toUTF8) :: values
  return .ofList values

/-- The moment that it is. -/
def now : IO Log.Timestamp := do
  let nanos := (← Std.Time.Timestamp.now).toNanosecondsSinceUnixEpoch.val
  return ⟨nanos.fdiv 1000000000, (nanos.fmod 1000000000).toNat⟩

/-- Run the command on a file tree that holds what stands at the path. -/
def run (arguments : List String) : IO Command.Outcome := do
  let environment ← environment
  let moment ← now
  let started ← IO.monoNanosNow
  let bare := FileTree.ofWorkingDirectory ⟨(← IO.currentDir).toString⟩
  let tree ← match Command.parseArguments arguments with
    | .ok options => do
      match ← snapshot options.path.text with
      | some node => pure (bare.put options.path node)
      | none => pure bare
    | .error _ => pure bare
  let micros := ((← IO.monoNanosNow) - started) / 1000
  return Command.run tree environment moment micros arguments

end CharLexer.Main

/-- Tokenize the file or the directory that the arguments name. -/
def main (arguments : List String) : IO UInt32 := do
  let outcome ← CharLexer.Main.run arguments
  (← IO.getStdout).putStr outcome.output
  (← IO.getStderr).putStr outcome.errors
  return UInt32.ofNat outcome.exitCode
