import Remedy.Sandbox.Engine
import Remedy.Shell.Run

/-!
# A machine with a shell

The machine keeps files and has one program, a shell. A step starts it in the working directory with
nothing to read, and its output is kept up to a limit.
-/

namespace Remedy.Shell

open Remedy.Text Act

def installed : List String := ["sh"]

namespace Workplace

def place : Place := ["tmp", "mender-a7c2e9"]

def fresh : FileTree Bytes := { directories := [["tmp"], place] }

/-- The variables that a step is started with. -/
def environment : List (String × Bytes) :=
  let here := Builtin.pathOf place
  [("PATH", text "/usr/local/sbin:/usr/local/bin:/usr/sbin:/usr/bin:/sbin:/bin"),
    ("HOME", here), ("TMPDIR", here), ("GOCACHE", here ++ text "/.gocache"),
    ("GOPATH", here ++ text "/.gopath"), ("PYTHONDONTWRITEBYTECODE", text "1")]

/-- The variables of a shell that got some exported ones. -/
def initialVariables : List (Bytes × Variable) :=
  ((environment ++ [("PWD", Builtin.pathOf place)]).map fun (name, value) =>
      (text name, { value := some value, exported := true })) ++
    [("IFS", text " \t\n"), ("OPTIND", text "1"), ("PS1", text "$ "), ("PS2", text "> "),
      ("PS4", text "+ ")].map fun (name, value) => (text name, { value := some value })

/-- The number of commands and rounds that a step may take. -/
def steps : Nat := 1000000

/-- The number of bytes that are kept of an output. -/
def keptBytes : Nat := 1024 * 1024

def output (s : State) (id : Nat) : String :=
  decodeBytes ((collected ((s.streams[id]?).getD .null)).take keptBytes)

/-- The limits that a shell sees. It leaves no memory image behind. -/
def limits (c : Confinement) : List (Char × Nat) :=
  [('t', c.cpuSecs), ('c', 0)] ++ (c.memoryBytes.map fun n => ('v', n)).toList

/-- Why a program of that name cannot be started. -/
def refusal (files : FileTree Bytes) (program : String) (args : List String) : String :=
  if (program :: args).any fun a => a.toList.contains '\x00' then "nul byte found in provided data"
  else if program.toList.contains '/' && (files.resolve? place program).any files.holds then
    "Permission denied (os error 13)"
  else "No such file or directory (os error 2)"

def writeRefusal (files : FileTree Bytes) (fileName : String) : String :=
  if fileName.toList.contains '\x00' then "file name contained an unexpected NUL byte"
  else
    match files.resolve? place fileName with
    | none => "No such file or directory (os error 2)"
    | some p =>
      if files.isDirectory p then "Is a directory (os error 21)"
      else "File name too long (os error 36)"

def start (program : String) (args : List String) (confinement : Confinement)
    (files : FileTree Bytes) : Step × FileTree Bytes :=
  if Builtin.isShell (text program) && !args.any (·.toList.contains '\x00') then
    let state : State :=
      { name := text program
        vars := initialVariables
        streams := [.null, .sink [], .sink []]
        fds := [(0, 0), (1, 1), (2, 2)]
        files
        current := place
        limits := limits confinement }
    let (end?, s) := (Run.shell steps (args.map text)).run.run state
    let ended := fun (ending : Ending) =>
      ({ ending, stdout := output s 1, stderr := output s 2 : Step }, s.files)
    match end? with
    | .error (.killed n) => ended (.killed n)
    | .error .overdue => ({ ending := .overdue }, s.files)
    | _ => ended (.exited (s.status % 256))
  else
    ({ ending := .notStarted
        ("failed to spawn " ++ program ++ ": " ++ refusal files program args) }, files)

end Workplace

def machine : Machine (FileTree Bytes) where
  store := fun fileName source =>
    match Workplace.fresh.write? Workplace.place fileName (bytesOf source) with
    | some files => .ok files
    | none => .error (Workplace.writeRefusal Workplace.fresh fileName)
  start := fun program args _ confinement files => Workplace.start program args confinement files

end Remedy.Shell
