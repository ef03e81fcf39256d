import Remedy.Text.Lines
import Remedy.Text.Search

/-!
# File trees

Directories and files below a root, each at a place: the list of the names on the way to it. A path
is read from a directory on; it may lead upwards, and the directory above the root is the root.
-/

namespace Remedy

/-- The names on the way from the root to a file or directory. -/
abbrev Place := List String

namespace Path

/-- The steps of a path: its pieces between slashes. -/
def steps (path : String) : List String :=
  (Text.splitAt '/' path.toList).map String.ofList

def isAbsolute (path : String) : Bool := path.toList.head? == some '/'

/-- A name inside a directory. A name put to the empty path stays alone. -/
def join (directory name : String) : String :=
  if directory.isEmpty || directory.toList.getLast? == some '/' then directory ++ name
  else directory ++ "/" ++ name

end Path

/-- Directories and files with contents of type `α`. The root is always there. -/
structure FileTree (α : Type) where
  directories : List Place := []
  files : List (Place × α) := []
deriving Repr, Inhabited

namespace FileTree

variable {α : Type}

/-- Whether a name can be given to a file: it has at most 255 bytes, and no NUL. -/
def isName (name : String) : Bool := name.utf8ByteSize ≤ 255 && !name.toList.contains '\x00'

def isDirectory (t : FileTree α) (p : Place) : Bool := p.isEmpty || t.directories.contains p

def file? (t : FileTree α) (p : Place) : Option α := t.files.lookup p

def holds (t : FileTree α) (p : Place) : Bool := t.isDirectory p || (t.file? p).isSome

/-- Goes some steps from a directory to a directory. -/
def walk (t : FileTree α) : (start : Place) → (steps : List String) → Option Place
  | start, [] => some start
  | start, step :: steps =>
    if step = "" || step = "." then walk t start steps
    else if step = ".." then walk t start.dropLast steps
    else if t.isDirectory (start ++ [step]) then walk t (start ++ [step]) steps
    else none

/-- Goes some steps and makes the directories that are missing on the way. -/
def walkMaking : FileTree α → (start : Place) → (steps : List String) →
    Option (FileTree α × Place)
  | t, start, [] => some (t, start)
  | t, start, step :: steps =>
    if step = "" || step = "." then walkMaking t start steps
    else if step = ".." then walkMaking t start.dropLast steps
    else
      let next := start ++ [step]
      if t.isDirectory next then walkMaking t next steps
      else if (t.file? next).isSome || !isName step then none
      else walkMaking { t with directories := t.directories ++ [next] } next steps

def startOf (current : Place) (path : String) : Place :=
  if Path.isAbsolute path then [] else current

/-- The place that a path means, seen from a directory: the directories on the way are there, and
the last step may lead to something new. -/
def resolve? (t : FileTree α) (current : Place) (path : String) : Option Place := do
  let steps := Path.steps path
  let here ← t.walk (startOf current path) steps.dropLast
  let last ← steps.getLast?
  if last = "" || last = "." then pure here
  else if last = ".." then pure here.dropLast
  else pure (here ++ [last])

/-- Puts a content at a place, in the stead of what the file there held. -/
def put (t : FileTree α) (p : Place) (content : α) : FileTree α :=
  { t with
    files := if (t.file? p).isSome then
        t.files.map fun e => if e.1 = p then (p, content) else e
      else t.files ++ [(p, content)] }

/-- Writes a file at a path. The directory has to be there, and no directory in its stead. -/
def write? (t : FileTree α) (current : Place) (path : String) (content : α) :
    Option (FileTree α) := do
  let p ← t.resolve? current path
  let name ← p.getLast?
  if t.isDirectory p || !isName name then none else pure (t.put p content)

def writeMaking? (t : FileTree α) (current : Place) (path : String) (content : α) :
    FileTree α × Bool :=
  match t.walkMaking (startOf current path) (Path.steps path).dropLast with
  | none => (t, false)
  | some (t, _) =>
    match t.write? current path content with
    | none => (t, false)
    | some t => (t, true)

def read? (t : FileTree α) (current : Place) (path : String) : Option α := do
  t.file? (← t.resolve? current path)

def list (t : FileTree α) (p : Place) : List String :=
  let inside := fun (q : Place) => if q.dropLast = p then q.getLast? else none
  (t.directories.filterMap inside ++ t.files.filterMap fun e => inside e.1).mergeSort

/-- The files below a directory with their paths from there, sorted by path. -/
def filesBelow (t : FileTree α) (p : Place) : List (String × α) :=
  (t.files.filterMap fun e =>
    if p.isPrefixOf e.1 then some ("/".intercalate (e.1.drop p.length), e.2) else none).mergeSort
      fun a b => a.1 ≤ b.1

/-! ## Small laws -/

theorem lookup_map_replace {p : Place} {content : α} {files : List (Place × α)}
    (h : (files.lookup p).isSome) :
    (files.map fun e => if e.1 = p then (p, content) else e).lookup p = some content := by
  induction files with
  | nil => simp at h
  | cons e files ih =>
    obtain ⟨q, old⟩ := e
    by_cases he : q = p
    · simp [he]
    · have hb : (p == q) = false := by simpa using fun h => he h.symm
      simp only [List.lookup_cons, hb, List.map_cons, if_neg he] at h ⊢
      exact ih h

theorem lookup_append_new {p : Place} {content : α} {files : List (Place × α)}
    (h : ¬ (files.lookup p).isSome) :
    (files ++ [(p, content)]).lookup p = some content := by
  induction files with
  | nil => simp
  | cons e files ih =>
    obtain ⟨q, old⟩ := e
    by_cases he : p = q
    · simp [he] at h
    · have hb : (p == q) = false := by simpa using he
      simp only [List.lookup_cons, hb, List.cons_append] at h ⊢
      exact ih h

@[simp] theorem file?_put_self (t : FileTree α) (p : Place) (content : α) :
    (t.put p content).file? p = some content := by
  unfold put
  by_cases h : (t.file? p).isSome
  · rw [if_pos h]; exact lookup_map_replace h
  · rw [if_neg h]; exact lookup_append_new h

@[simp] theorem directories_put (t : FileTree α) (p : Place) (content : α) :
    (t.put p content).directories = t.directories := rfl

end FileTree

end Remedy
