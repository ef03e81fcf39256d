import Remedy.Text.Lines
import Remedy.Text.Search

/-!
# Languages of the programs under repair

A language has one name and some file extensions. The extension of a path is what follows the last
dot of its last component, if something stands before that dot.
-/

namespace Remedy

inductive Language where
  | python | c | cpp | java | javaScript | go | shell
deriving Repr, DecidableEq, Inhabited

namespace Language

/-- Every language, in a fixed order. -/
def all : List Language := [python, c, cpp, java, javaScript, go, shell]

/-- The place of a language in `all`. -/
def rank : Language → Nat
  | python => 0
  | c => 1
  | cpp => 2
  | java => 3
  | javaScript => 4
  | go => 5
  | shell => 6

def name : Language → String
  | python => "python"
  | c => "c"
  | cpp => "cpp"
  | java => "java"
  | javaScript => "javascript"
  | go => "go"
  | shell => "shell"

def ofName? (s : String) : Option Language := all.find? fun l => l.name = s

/-- The language of a file extension without its dot, in either case. -/
def ofExtension? (extension : String) : Option Language :=
  match Text.lowerAscii extension with
  | "py" => some python
  | "c" => some c
  | "cpp" | "cc" | "cxx" => some cpp
  | "java" => some java
  | "js" | "mjs" => some javaScript
  | "go" => some go
  | "sh" => some shell
  | _ => none

def isCompiled : Language → Bool
  | c | cpp | java | go => true
  | python | javaScript | shell => false

theorem rank_inj {a b : Language} : a.rank = b.rank ↔ a = b := by
  cases a <;> cases b <;> decide

theorem ofName?_name (l : Language) : ofName? l.name = some l := by
  cases l <;> decide

end Language

namespace Path

/-- The components of a path: the pieces between slashes, without empty ones and without `.` except
at the start of a relative path. -/
def components (path : List Char) : List (List Char) :=
  let pieces := Text.splitAt '/' path
  let inner := fun (ps : List (List Char)) => ps.filter fun p => !p.isEmpty && p != ['.']
  match pieces with
  | [] => []
  | [] :: rest => inner rest
  | first :: rest => first :: inner rest

/-- The last component of a path, unless it leads upwards or the path has none. -/
def fileName? (path : List Char) : Option (List Char) :=
  match (components path).getLast? with
  | some [] | some ['.'] | some ['.', '.'] => none
  | last => last

def extension? (path : List Char) : Option (List Char) := do
  let name ← fileName? path
  let (stem, extension) ← Text.splitLast? '.' name
  if stem.isEmpty then none else pure extension

end Path

/-- The language of a file, by the extension of its path. -/
def Language.ofPath? (path : String) : Option Language := do
  let extension ← Path.extension? path.toList
  Language.ofExtension? (String.ofList extension)

end Remedy
