import Remedy.Files.Tree
import Remedy.Sandbox.Engine
import Remedy.Shell.Glob
import Remedy.Shell.Reader
import Remedy.Text.Utf8

/-!
# The state of a shell

A shell has variables, arguments, functions, traps and options, a working directory in a file tree,
and streams that its descriptors refer to; descriptors that refer to one stream share its position.
An action changes the state, and may stop what is running.
-/

namespace Remedy.Shell

open Remedy.Text

/-- A variable; one that was exported may be without a value. -/
structure Variable where
  value : Option Bytes
  exported : Bool := false
  fixed : Bool := false
deriving Inhabited

inductive Stream where
  /-- Collects what is written, the last piece first. -/
  | sink (pieces : List Bytes)
  /-- Gives what is still to be read. -/
  | source (rest : Bytes)
  /-- A file, at some position; with `appends`, writing goes to its end. -/
  | file (path : Place) (position : Nat) (reads writes appends : Bool)
  /-- Takes anything and gives nothing. -/
  | null
deriving Inhabited

structure State where
  /-- What the shell was called as. -/
  name : Bytes
  args : List Bytes := []
  vars : List (Bytes × Variable) := []
  functions : List (Bytes × Command) := []
  status : Nat := 0
  /-- The status of the last command that was run for its output. -/
  outputStatus : Nat := 0
  streams : List Stream
  /-- Descriptors and the numbers of their streams. -/
  fds : List (Nat × Nat)
  files : FileTree Bytes
  current : Place
  /-- What is to be run on a signal; on signal zero, at the end. -/
  traps : List (Nat × Bytes) := []
  options : List Char := []
  /-- Limits by their letters, in seconds or bytes; what has none is unlimited. -/
  limits : List (Char × Nat) := []
  documents : List (Nat × Word) := []
  /-- The line of the command that runs. -/
  line : Nat := 1
  /-- The builtin that runs. -/
  running : Option Bytes := none
  /-- Variables that functions made local, and what they were before. -/
  locals : List (List (Bytes × Option Variable)) := []
  /-- How many functions are being called. -/
  calls : Nat := 0
  loops : Nat := 0
  /-- The state of scanning options by `getopts`: the position inside an argument. -/
  optionOffset : Nat := 0
  /-- Whether this is the shell that the number of the process means. -/
  isMain : Bool := true
  /-- The traps of that shell, and its signals whose traps are still to be run. -/
  mainTraps : List (Nat × Bytes) := []
  pending : List Nat := []
  /-- The status before the trap that runs. -/
  before : Option Nat := none
  /-- The numbers of what ran in the background, and the statuses. -/
  jobs : List (Nat × Nat) := []

inductive Stop where
  | exit
  /-- After an error; a builtin that is not special survives it. -/
  | failed
  | killed (signal : Nat)
  /-- Leaves some loops. -/
  | breakLoop (count : Nat)
  /-- Leaves some loops but the last, which goes on. -/
  | continueLoop (count : Nat)
  /-- Leaves a function. -/
  | fromFunction
  /-- There are no steps left. -/
  | overdue
deriving Repr, DecidableEq

abbrev Act := ExceptT Stop (StateM State)

namespace Act

def text (s : String) : Bytes := bytesOf s

/-! ## Variables -/

def var? (name : Bytes) : Act (Option Variable) := return (← get).vars.lookup name

def value? (name : Bytes) : Act (Option Bytes) := return (← var? name).bind (·.value)

def putVar (name : Bytes) (v : Variable) (vars : List (Bytes × Variable)) :
    List (Bytes × Variable) :=
  (name, v) :: vars.filter (·.1 ≠ name)

def setStatus (n : Nat) : Act Unit := modify fun s => { s with status := n }

def hasOption (c : Char) : Act Bool := return (← get).options.contains c

/-! ## Streams -/

/-- The stream of a descriptor, with its number. -/
def stream? (fd : Nat) : Act (Option (Nat × Stream)) := do
  let s ← get
  return do
    let id ← s.fds.lookup fd
    let stream ← s.streams[id]?
    pure (id, stream)

def setStream (id : Nat) (stream : Stream) : Act Unit :=
  modify fun s => { s with streams := s.streams.set id stream }

/-- Adds a stream and gives its number. -/
def addStream (stream : Stream) : Act Nat := do
  let id := (← get).streams.length
  modify fun s => { s with streams := s.streams ++ [stream] }
  return id

/-- A content with some bytes written at a position. -/
def overwrite (content : Bytes) (position : Nat) (bytes : Bytes) : Bytes :=
  let start := content.take position
  start ++ List.replicate (position - start.length) '\x00' ++ bytes
    ++ content.drop (position + bytes.length)

/-- Writes to a stream; tells whether that worked. -/
def writeTo (id : Nat) (bytes : Bytes) : Act Bool := do
  let s ← get
  match s.streams[id]? with
  | some (.sink pieces) =>
    setStream id (.sink (bytes :: pieces))
    return true
  | some (.file path position reads true appends) =>
    let content := (s.files.file? path).getD []
    let position := if appends then content.length else position
    set { s with files := s.files.put path (overwrite content position bytes) }
    setStream id (.file path (position + bytes.length) reads true appends)
    return true
  | some .null => return true
  | _ => return false

def write (fd : Nat) (bytes : Bytes) : Act Bool := do
  match (← get).fds.lookup fd with
  | some id => writeTo id bytes
  | none => return false

def unread (fd : Nat) : Act (Option Bytes) := do
  match ← stream? fd with
  | some (_, .source rest) => return some rest
  | some (_, .file path position true _ _) =>
    return some ((((← get).files.file? path).getD []).drop position)
  | some (_, .null) => return some []
  | _ => return none

/-- Makes a descriptor refer to a stream, or to none. -/
def setFd (fd : Nat) (id : Option Nat) : Act Unit :=
  modify fun s => { s with
    fds := (id.map fun i => (fd, i)).toList ++ s.fds.filter (·.1 ≠ fd) }

def skip (fd count : Nat) : Act Unit := do
  match ← stream? fd with
  | some (id, .source rest) => setStream id (.source (rest.drop count))
  | some (id, .file path position true writes appends) =>
    setStream id (.file path (position + count) true writes appends)
  | _ => return ()

def collected : Stream → Bytes
  | .sink pieces => pieces.foldl (fun rest piece => piece ++ rest) []
  | _ => []

/-- Why an action stopped; none if it came to its end. -/
def attempt (body : Act Unit) : Act (Option Stop) :=
  tryCatch (do body; return none) fun stop => return some stop

/-! ## Errors -/

def complain (message : Bytes) : Act Unit := do
  let s ← get
  let running := match s.running with
    | some name => name ++ text ": "
    | none => []
  let _ ← write 2
    (s.name ++ text (": " ++ toString s.line ++ ": ") ++ running ++ message ++ ['\n'])

/-- An error that stops what is running. -/
def fail {α : Type} (message : Bytes) : Act α := do
  complain message
  setStatus 2
  throw .failed

def assign (name value : Bytes) : Act Unit := do
  let old := (← var? name).getD ⟨none, false, false⟩
  if old.fixed then fail (name ++ text ": is read only")
  let exported := old.exported || (← hasOption 'a')
  modify fun s => { s with vars := putVar name { old with value := some value, exported } s.vars }

def assignExported (name value : Bytes) : Act Unit := do
  assign name value
  let v := (← var? name).getD { value := none }
  modify fun s => { s with vars := putVar name { v with exported := true } s.vars }

/-! ## Files -/

def readFile? (path : Bytes) : Act (Option Bytes) := do
  let s ← get
  return s.files.read? s.current (decodeBytes path)

def isThere (path : Bytes) : Act Bool := do
  let s ← get
  return path == text "/dev/null" ||
    (s.files.resolve? s.current (decodeBytes path)).any s.files.holds

def isDirectory (path : Bytes) : Act Bool := do
  let s ← get
  return (s.files.resolve? s.current (decodeBytes path)).any s.files.isDirectory

end Act

end Remedy.Shell
