import Remedy.Repair.Outcome
import Remedy.Sandbox.Limits

/-!
# What happens during a repair

A repair talks to three partners: an executor that runs programs, generators that propose patches,
and a sink that takes backups. Each may answer as it likes, also depending on all that it was asked
before. A session is the log of all of this, with the events that the repair tells about itself and
its counters.
-/

namespace Remedy

/-- What a program is run for. -/
inductive Purpose where
  /-- The text under repair. -/
  | current
  /-- A harness around it. -/
  | harness
  /-- A candidate. -/
  | candidate
deriving Repr, DecidableEq

abbrev Answer := Except SandboxFault RunResult

/-- A program that was run, and the answer. -/
structure Call where
  purpose : Purpose
  source : String
  answer : Answer

/-- Runs a program of a language under limits, knowing all earlier calls. -/
abbrev Executor := (earlier : List Call) → Language → Limits → (source : String) → Answer

/-- A diagnosis for which candidates were asked. -/
structure Request where
  diagnosis : ErrorRecord
  source : String
  efficiency : Bool

/-- Proposes candidates for a diagnosis of a text, knowing all earlier requests; the flag allows
faster programs. -/
abbrev Generator := (earlier : List Request) → Request → List Candidate

/-- The generators of some languages, in the order of the languages. -/
structure GeneratorTable where
  entries : List (Language × Generator)

namespace GeneratorTable

/-- An entry in its place in the order of the languages, in the stead of one of its language. -/
def insert (language : Language) (generator : Generator) :
    List (Language × Generator) → List (Language × Generator)
  | [] => [(language, generator)]
  | (l, g) :: rest =>
    if language = l then (language, generator) :: rest
    else if language.rank < l.rank then (language, generator) :: (l, g) :: rest
    else (l, g) :: insert language generator rest

def register (t : GeneratorTable) (language : Language) (generator : Generator) :
    GeneratorTable := ⟨insert language generator t.entries⟩

def get? (t : GeneratorTable) (language : Language) : Option Generator :=
  t.entries.lookup language

def languages (t : GeneratorTable) : List Language := t.entries.map (·.1)

end GeneratorTable

/-- A text that a patch is about to replace. -/
structure Backup where
  label : String
  source : String
deriving Repr, DecidableEq, Inhabited

/-- Takes a backup, knowing all earlier ones, or says why it could not. -/
abbrev BackupSink := (earlier : List Backup) → Backup → Except String Unit

inductive Event where
  /-- A repair of the text of some label begins. -/
  | span (label : String)
  | repairStarted (label : String) (language : Language) (maxIterations : Nat)
  | candidateScored (id : String) (score exitCode : Int)
  | selectionFailed (scored : List CandidateScore)
  | iterationFinished (index : Nat) (status : IterationStatus) (patch : Option String)
  | repairFinished (label : String) (status : RepairStatus) (iterations : Nat)
  | counted (sandboxRuns timeouts candidatesEvaluated patchesCommitted : Nat)
deriving Repr, DecidableEq

structure Counters where
  sandboxRuns : Nat := 0
  timeouts : Nat := 0
  candidatesEvaluated : Nat := 0
  patchesCommitted : Nat := 0
deriving Repr, DecidableEq, Inhabited

/-- The log of a repair, each list in the order things happened. -/
structure Session where
  calls : List Call := []
  requests : List Request := []
  backups : List Backup := []
  events : List Event := []
  counters : Counters := {}

abbrev Repairing := StateM Session

namespace Repairing

/-- What a session of its own gives, with its log. -/
def perform {α : Type} (p : Repairing α) : α × Session := p {}

def run (executor : Executor) (language : Language) (limits : Limits) (purpose : Purpose)
    (source : String) : Repairing Answer := fun s =>
  let answer := executor s.calls language limits source
  (answer, { s with calls := s.calls ++ [⟨purpose, source, answer⟩] })

def tell (event : Event) : Repairing Unit := fun s =>
  ((), { s with events := s.events ++ [event] })

def count (change : Counters → Counters) : Repairing Unit := fun s =>
  ((), { s with counters := change s.counters })

/-- Asks for candidates; without a generator there are none. -/
def generate (generators : GeneratorTable) (language : Language) (request : Request) :
    Repairing (List Candidate) := fun s =>
  match generators.get? language with
  | some generator =>
    (generator s.requests request, { s with requests := s.requests ++ [request] })
  | none => ([], s)

/-- Hands a text to the sink. What the sink answers is of no consequence. -/
def backUp (sink : BackupSink) (backup : Backup) : Repairing Unit := fun s =>
  match sink s.backups backup with
  | .ok _ | .error _ => ((), { s with backups := s.backups ++ [backup] })

end Repairing

def Event.scoreText (scored : List CandidateScore) : String :=
  ", ".intercalate (scored.map fun c => c.id ++ "=" ++ toString c.score)

end Remedy
