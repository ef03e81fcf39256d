import Remedy.Json.Value

/-!
# Reading records from JSON

A record is an object whose fields have names, or an array of its fields in order. Fields of other
names are ignored. A field that may be absent may also be null; a field with a default may be left
out, but it may not be null.
-/

namespace Remedy.Archive

/-! ## Values -/

def text? : Json → Option String
  | .str s => some s
  | _ => none

def bool? : Json → Option Bool
  | .bool b => some b
  | _ => none

/-- A whole number from `low` up to but not including `high`. -/
def intIn? (low high : Int) : Json → Option Int
  | .num (.int n) => if low ≤ n ∧ n < high then some n else none
  | _ => none

def int32? : Json → Option Int := intIn? (-0x80000000) 0x80000000

def int64? : Json → Option Int := intIn? (-0x8000000000000000) 0x8000000000000000

def nat32? (j : Json) : Option Nat := (intIn? 0 0x100000000 j).map Int.toNat

def nat64? (j : Json) : Option Nat := (intIn? 0 0x10000000000000000 j).map Int.toNat

def option? {α : Type} (read : Json → Option α) : Json → Option (Option α)
  | .null => some none
  | j => (read j).map some

def list? {α : Type} (read : Json → Option α) : Json → Option (List α)
  | .arr items => items.mapM read
  | _ => none

/-- A name, written as a text or as the only field of an object, whose value is null. -/
def name? : Json → Option String
  | .str s => some s
  | .obj [(s, .null)] => some s
  | _ => none

/-! ## Records -/

abbrev Fields := String → Option Json

/-- The fields of a record with the given names. An array has at least `required` of them, and no
others. -/
def fields? (names : List String) (required : Nat) : Json → Option Fields
  | .obj fields => some fun name => fields.lookup name
  | .arr items =>
    if required ≤ items.length ∧ items.length ≤ names.length then
      some fun name => (names.zip items).lookup name
    else none
  | _ => none

/-- The fields of a record all of whose fields count. -/
def record? (names : List String) : Json → Option Fields := fields? names names.length

/-- The fields of a record all of whose fields have defaults. -/
def settings? (names : List String) : Json → Option Fields := fields? names 0

/-- The tag of a tagged record and what holds its other fields: the object with the tag under
`type`, or the rest of the array that starts with the tag. -/
def tagged? : Json → Option (String × Json)
  | .obj fields => do pure (← text? (← fields.lookup "type"), .obj fields)
  | .arr (tag :: rest) => do pure (← text? tag, .arr rest)
  | _ => none

/-- A field that has to be there. -/
def Fields.get? {α : Type} (fields : Fields) (name : String) (read : Json → Option α) : Option α :=
  (fields name).bind read

/-- A field that may be absent or null. -/
def Fields.getOption? {α : Type} (fields : Fields) (name : String) (read : Json → Option α) :
    Option (Option α) :=
  match fields name with
  | none => some none
  | some j => option? read j

def Fields.getD? {α : Type} (fields : Fields) (name : String) (fallback : α)
    (read : Json → Option α) : Option α :=
  match fields name with
  | none => some fallback
  | some j => read j

/-! ## Small laws -/

@[simp] theorem text?_str (s : String) : text? (.str s) = some s := rfl

@[simp] theorem bool?_bool (b : Bool) : bool? (.bool b) = some b := rfl

@[simp] theorem name?_str (s : String) : name? (.str s) = some s := rfl

theorem intIn?_ofInt {low high n : Int} :
    intIn? low high (.ofInt n) = some n ↔ low ≤ n ∧ n < high := by
  simp [intIn?, Json.ofInt]

@[simp] theorem list?_ofList {α : Type} {toJson : α → Json} {read : Json → Option α}
    {items : List α} (h : ∀ a ∈ items, read (toJson a) = some a) :
    list? read (.ofList toJson items) = some items := by
  simp only [list?, Json.ofList]
  induction items with
  | nil => rfl
  | cons a items ih => simp_all

end Remedy.Archive
