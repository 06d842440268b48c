import CharLexer.Toml.Value

/-!
# Building TOML tables

A line puts a value or a table at the end of a path of keys. Tables that the path needs are made on
the way. A dotted key goes only through tables that no header has defined, a header through any but
those between braces, and both go through the last of the tables of a double-bracketed header. No
key is given twice.
-/
namespace CharLexer.Toml.Value

/-- The entries with another value under a key. -/
def replaceEntry (entries : List (String × Value)) (key : String) (value : Value) :
    List (String × Value) :=
  entries.map fun entry => if entry.1 == key then (key, value) else entry

/-- Change the table at the end of a path of keys, which are those of a dotted key or of a
header. -/
def changeAt (dotted : Bool) (change : Value → Option Value) : List String → Value → Option Value
  | [], found => change found
  | key :: rest, .table origin entries =>
    match entries.lookup key with
    | none => do
      let made : Value := .table (if dotted then .dotted else .implied) []
      let child ← changeAt dotted change rest made
      return .table origin (entries ++ [(key, child)])
    | some (.table below held) =>
      if below = .closed ∨ (dotted ∧ below = .defined) then none
      else do
        let child ← changeAt dotted change rest (.table below held)
        return .table origin (replaceEntry entries key child)
    | some (.tables elements) =>
      match elements.reverse with
      | [] => none
      | last :: before => do
        let child ← changeAt dotted change rest last
        return .table origin (replaceEntry entries key (.tables (child :: before).reverse))
    | some _ => none
  | _ :: _, _ => none

/-- A table with one entry more. A dotted key ends in a table made by dotted keys, and a plain key
in one that was not. -/
def addEntry (dotted : Bool) (key : String) (value : Value) : Value → Option Value
  | .table origin entries =>
    if (origin == .dotted) != dotted then none
    else if (entries.lookup key).isSome then none
    else some (.table origin (entries ++ [(key, value)]))
  | _ => none

/-- Put a value at the end of a key, which is dotted when it has a path. -/
def assign (path : List String) (key : String) (value : Value) (into : Value) :
    Option Value :=
  changeAt true (addEntry (!path.isEmpty) key value) path into

/-- A table with a header for one below it: a new one, or one known only by those below it. -/
def defineEntry (key : String) : Value → Option Value
  | .table origin entries =>
    match entries.lookup key with
    | none => some (.table origin (entries ++ [(key, .table .defined [])]))
    | some (.table .implied held) =>
      some (.table origin (replaceEntry entries key (.table .defined held)))
    | some _ => none
  | _ => none

/-- A table with a double-bracketed header for one below it. -/
def extendEntry (key : String) : Value → Option Value
  | .table origin entries =>
    match entries.lookup key with
    | none => some (.table origin (entries ++ [(key, .tables [.table .defined []])]))
    | some (.tables elements) =>
      some (.table origin (replaceEntry entries key (.tables (elements ++ [.table .defined []]))))
    | some _ => none
  | _ => none

/-- The table between braces of some keys and values. -/
def closedTable (pairs : List (List String × String × Value)) : Option Value :=
  pairs.foldlM (fun made pair => assign pair.1 pair.2.1 pair.2.2 made) (.table .closed [])

end CharLexer.Toml.Value
