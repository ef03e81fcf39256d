/-!
# JSON values

The fields of an object are sorted by key and each key occurs once; of two fields with one key the
later one wins. A number is an integer, or a double given by its bits.
-/

namespace Remedy

inductive Json.Number where
  | int (value : Int)
  | float (bits : UInt64)
deriving Repr, DecidableEq

inductive Json where
  | null
  | bool (value : Bool)
  | num (value : Json.Number)
  | str (value : String)
  | arr (items : List Json)
  | obj (fields : List (String × Json))
deriving Repr, Inhabited

namespace Json

/-- Adds a field at its place in the order of the keys, in the stead of a field of that key. -/
def insertField (key : String) (value : Json) : List (String × Json) → List (String × Json)
  | [] => [(key, value)]
  | (k, v) :: fields =>
    if key = k then (key, value) :: fields
    else if key < k then (key, value) :: (k, v) :: fields
    else (k, v) :: insertField key value fields

/-- The object with the given fields, a later one in the stead of an earlier one of its key. -/
def ofFields (fields : List (String × Json)) : Json :=
  .obj (fields.foldl (fun sorted (key, value) => insertField key value sorted) [])

def ofInt (n : Int) : Json := .num (.int n)

def ofNat (n : Nat) : Json := .num (.int n)

def ofOption {α : Type} (encode : α → Json) : Option α → Json
  | none => .null
  | some a => encode a

def ofText? (s : Option String) : Json := ofOption .str s

def ofList {α : Type} (encode : α → Json) (items : List α) : Json := .arr (items.map encode)

def field? (key : String) : Json → Option Json
  | .obj fields => fields.lookup key
  | _ => none

def Number.toFloat : Number → Float
  | .int n => Float.ofInt n
  | .float bits => Float.ofBits bits

end Json

end Remedy
