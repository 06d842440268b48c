/-!
# Log levels

A level says how closely a log is to be followed. They are ordered from the fewest events to the
most: a log kept at one level holds the events of that level and of those before it.
-/
namespace CharLexer.Log

/-- How closely a log is followed. -/
inductive Level
  | error
  | info
  | debug
  deriving DecidableEq, Ord

namespace Level

/-- Every level, in order. -/
def all : List Level := [.error, .info, .debug]

/-- The written name of a level. -/
def name : Level → String
  | .error => "ERROR"
  | .info => "INFO"
  | .debug => "DEBUG"

/-- The level of a written name. -/
def ofName? (name : String) : Option Level :=
  all.find? fun level => level.name == name

/-- Whether a log kept at a level holds the events of another. -/
def admits (kept level : Level) : Bool :=
  (compare level kept).isLE

/-- A log holds errors at any level, the events of its own, and at the last level all of them. -/
theorem admits_iff {kept level : Level} :
    kept.admits level = true ↔ level = .error ∨ level = kept ∨ kept = .debug := by
  cases kept <;> cases level <;> decide

end Level

end CharLexer.Log
