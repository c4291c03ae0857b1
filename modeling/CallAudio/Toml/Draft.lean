import CallAudio.Toml.Value

/-! # Building a TOML document

A document is a list of statements: keys with values, and headers that say where the keys that
follow belong. While it is built, each table remembers what brought it into being, since a table
may be defined only once and each way of defining it closes it to the others.
-/

namespace CallAudio.Toml

/-- A line of a document. Paths are never empty. -/
inductive Statement
  | pair (path : List String) (key : String) (value : Value)
  /-- `[path.key]` -/
  | table (path : List String) (key : String)
  /-- `[[path.key]]` -/
  | element (path : List String) (key : String)

/-- What brought a table into being. -/
inductive Origin
  /-- A header of its own, or the document itself. -/
  | header
  | implied
  | dotted
  deriving DecidableEq

inductive Draft
  | leaf (value : Value)
  | table (origin : Origin) (entries : List (String × Draft))
  /-- An array whose elements are tables with headers of their own. -/
  | tables (items : List Draft)

namespace Draft

abbrev Entries := List (String × Draft)

mutual

def value : Draft → Value
  | leaf value => value
  | table _ entries => .table (entryValues entries)
  | tables items => .array (itemValues items)

def entryValues : List (String × Draft) → List (String × Value)
  | [] => []
  | (key, draft) :: rest => (key, draft.value) :: entryValues rest

def itemValues : List Draft → List Value
  | [] => []
  | draft :: rest => draft.value :: itemValues rest

end

def replace (key : String) (draft : Draft) (entries : Entries) : Entries :=
  entries.map fun entry => if entry.1 = key then (key, draft) else entry

/-- Changes the table at the end of a path, making the tables on the way that are missing. The
last table of an array stands for the array. A dotted path may not enter a table that has a
header of its own. -/
def edit (dotted : Bool) (path : List String) (change : Origin → Entries → Option Entries)
    (origin : Origin) (entries : Entries) : Option Entries :=
  match path with
  | [] => change origin entries
  | key :: path =>
    match entries.lookup key with
    | none =>
      let origin := if dotted then .dotted else .implied
      (edit dotted path change origin []).map fun inner => entries ++ [(key, table origin inner)]
    | some (leaf _) => none
    | some (table origin inner) =>
      if dotted && origin = .header then none
      else (edit dotted path change origin inner).map fun inner =>
        replace key (table origin inner) entries
    | some (tables items) =>
      match items.getLast? with
      | some (table origin inner) => (edit dotted path change origin inner).map fun inner =>
          replace key (tables (items.dropLast ++ [table origin inner])) entries
      | _ => none

/-- Adds a key with a value to a table. The key has to be new, and a dotted path has to end in a
table made by dotted keys. -/
def addPair (path : List String) (key : String) (value : Value) (origin : Origin)
    (entries : Entries) : Option Entries :=
  edit true path
    (fun origin entries =>
      if (origin = .dotted) = (path = []) then none
      else if (entries.lookup key).isSome then none
      else some (entries ++ [(key, leaf value)]))
    origin entries

/-- Opens a table under its own header. It has to be new or implied. -/
def openTable (key : String) (entries : Entries) : Option Entries :=
  match entries.lookup key with
  | none => some (entries ++ [(key, table .header [])])
  | some (table .implied inner) => some (replace key (table .header inner) entries)
  | some _ => none

def openElement (key : String) (entries : Entries) : Option Entries :=
  match entries.lookup key with
  | none => some (entries ++ [(key, tables [table .header []])])
  | some (tables items) => some (replace key (tables (items ++ [table .header []])) entries)
  | some _ => none

def add (state : List String × Entries) (statement : Statement) :
    Option (List String × Entries) :=
  let (current, entries) := state
  match statement with
  | .pair path key value =>
    (edit false current (addPair path key value) .header entries).map fun entries =>
      (current, entries)
  | .table path key =>
    (edit false path (fun _ => openTable key) .header entries).map fun entries =>
      (path ++ [key], entries)
  | .element path key =>
    (edit false path (fun _ => openElement key) .header entries).map fun entries =>
      (path ++ [key], entries)

end Draft

def Value.ofStatements? (statements : List Statement) : Option Value :=
  (statements.foldlM Draft.add ([], [])).map fun state => .table (Draft.entryValues state.2)

def Value.ofPairs? (pairs : List (List String × String × Value)) : Option Value :=
  (pairs.foldlM (fun entries pair => Draft.addPair pair.1 pair.2.1 pair.2.2 .header entries) []).map
    fun entries => .table (Draft.entryValues entries)

end CallAudio.Toml
