import Remedy.Json.Value

/-!
# Tables of a TOML document

A table is made once: by its header, on the way to a header further inside, or by dotted keys.
Dotted keys only enter tables that dotted keys made; a header only takes over a table that was made
on the way. A table of an array of tables is entered through the last one.
-/

namespace Remedy.Toml

/-- How a table was made. -/
inductive Origin where
  /-- By its own header. -/
  | header
  /-- On the way to a header further inside. -/
  | passed
  /-- By dotted keys. -/
  | dotted
deriving Repr, DecidableEq

/-- What a key of a table stands for. -/
inductive Item where
  /-- A value that is complete: arrays and inline tables too. -/
  | value (value : Json)
  | table (origin : Origin) (entries : List (String × Item))
  /-- An array of tables, each with a header of its own. -/
  | series (tables : List (List (String × Item)))
deriving Inhabited

abbrev Entries := List (String × Item)

namespace Entries

/-- The entries with another item for a key. -/
def set (entries : Entries) (key : String) (item : Item) : Entries :=
  entries.map fun e => if e.1 = key then (key, item) else e

/-- Changes the table at the end of a path; tables that are missing on the way are made. A change
sees how the table was made. -/
def change (dotted : Bool) (f : Origin → Entries → Option Entries) :
    (path : List String) → Origin → Entries → Option Entries
  | [], origin, entries => f origin entries
  | key :: path, _, entries =>
    match entries.lookup key with
    | none => do
      let origin := if dotted then Origin.dotted else .passed
      pure (entries ++ [(key, .table origin (← change dotted f path origin []))])
    | some (.value _) => none
    | some (.table origin inner) =>
      if dotted ∧ origin = .header then none
      else do pure (entries.set key (.table origin (← change dotted f path origin inner)))
    | some (.series tables) =>
      match tables.getLast? with
      | none => none
      | some last => do
        let last ← change dotted f path .header last
        pure (entries.set key (.series (tables.dropLast ++ [last])))

/-- A value for a key that is new. -/
def add? (key : String) (value : Json) (entries : Entries) : Option Entries :=
  match entries.lookup key with
  | some _ => none
  | none => some (entries ++ [(key, .value value)])

/-- Gives a value to a dotted key; the path leads to the table of the last part. -/
def assign? (path : List String) (key : String) (value : Json) (entries : Entries) :
    Option Entries :=
  change true (fun origin inner =>
    if path.isEmpty ∨ origin = .dotted then add? key value inner else none) path .header entries

def openTable? (path : List String) (key : String) (root : Entries) : Option Entries :=
  change false (fun _ entries =>
    match entries.lookup key with
    | none => some (entries ++ [(key, .table .header [])])
    | some (.table .passed inner) => some (entries.set key (.table .header inner))
    | some _ => none) path .header root

/-- Opens a further table of an array of tables. -/
def openSeries? (path : List String) (key : String) (root : Entries) : Option Entries :=
  change false (fun _ entries =>
    match entries.lookup key with
    | none => some (entries ++ [(key, .series [[]])])
    | some (.series tables) => some (entries.set key (.series (tables ++ [[]])))
    | some _ => none) path .header root

/-- Gives a value to a dotted key in the table that a header opened. -/
def assignIn? (opened path : List String) (key : String) (value : Json) (root : Entries) :
    Option Entries :=
  change false (fun _ entries => assign? path key value entries) opened .header root

end Entries

mutual

def Item.toJson : Item → Json
  | .value v => v
  | .table _ entries => .ofFields (fieldsOf entries)
  | .series tables => .arr (objectsOf tables)

def fieldsOf : Entries → List (String × Json)
  | [] => []
  | (key, item) :: rest => (key, item.toJson) :: fieldsOf rest

def objectsOf : List Entries → List Json
  | [] => []
  | entries :: rest => .ofFields (fieldsOf entries) :: objectsOf rest

end

end Remedy.Toml
