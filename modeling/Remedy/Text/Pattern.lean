import Remedy.Text.Blank
import Remedy.Text.Word

/-!
# Text patterns

A pattern says which pieces of a text are wanted. Of several ways to match, the first wins: an
earlier alternative before a later one, a repetition as often as possible (`many`) or as rarely as
possible (`fewest`), and of several places the leftmost. `Pattern.run` hands every place where the
pattern can end, best first, to the rest of the match, and takes the first that the rest accepts.
-/

namespace Remedy.Text

inductive Pattern where
  /-- Matches the empty text. -/
  | nothing
  /-- One character of a class. -/
  | char (test : Char → Bool)
  /-- One pattern, then the other. -/
  | seq (first second : Pattern)
  /-- Either pattern, the first preferred. -/
  | alt (first second : Pattern)
  /-- Any number of repetitions, as many (`greedy`) or as few as possible. -/
  | repeated (greedy : Bool) (body : Pattern)
  /-- Remembers the text that `body` matches under a number. -/
  | group (number : Nat) (body : Pattern)
  /-- The empty text at a place where the characters before and after satisfy the test. -/
  | edge (test : Option Char → Option Char → Bool)

/-- A place in a text: the character before it, the text after it and its length, and the groups
found on the way, the latest first. -/
structure Place where
  before : Option Char
  rest : List Char
  left : Nat
  groups : List (Nat × List Char)

namespace Place

def start (s : List Char) : Place := ⟨none, s, s.length, []⟩

def next? (p : Place) : Option (Char × Place) :=
  match p.rest with
  | [] => none
  | c :: s => some (c, { p with before := some c, rest := s, left := p.left - 1 })

def textTo (p q : Place) : List Char := p.rest.take (p.left - q.left)

end Place

namespace Pattern

/-- Repeats `step` from a place, at most `fuel` times and each time with progress; `done` is the
rest of the match. -/
def iterate {α : Type} (greedy : Bool) (step : Place → (Place → Option α) → Option α)
    (done : Place → Option α) : (fuel : Nat) → Place → Option α
  | 0, p => done p
  | fuel + 1, p =>
    let again := fun (_ : Unit) =>
      step p fun q => if q.left < p.left then iterate greedy step done fuel q else none
    if greedy then (again ()).orElse fun _ => done p else (done p).orElse again

/-- The first way to match at `p` that `done` accepts. -/
def run {α : Type} : Pattern → Place → (Place → Option α) → Option α
  | .nothing, p, done => done p
  | .char test, p, done =>
    match p.next? with
    | some (c, q) => if test c then done q else none
    | none => none
  | .seq first second, p, done => first.run p fun q => second.run q done
  | .alt first second, p, done => (first.run p done).orElse fun _ => second.run p done
  | .repeated greedy body, p, done => iterate greedy (fun q k => body.run q k) done p.left p
  | .group number body, p, done =>
    body.run p fun q => done { q with groups := (number, p.textTo q) :: q.groups }
  | .edge test, p, done => if test p.before p.rest.head? then done p else none

/-! ## Building patterns -/

/-- One pattern after the other. -/
def all : List Pattern → Pattern
  | [] => nothing
  | [p] => p
  | p :: ps => seq p (all ps)

/-- One of several patterns, the earlier ones preferred. -/
def any : List Pattern → Pattern
  | [] => char fun _ => false
  | [p] => p
  | p :: ps => alt p (any ps)

def lit (s : String) : Pattern := all (s.toList.map fun c => char (· == c))

def oneOf (texts : List String) : Pattern := any (texts.map lit)

/-- Any number of repetitions, as many as possible. -/
def many (p : Pattern) : Pattern := repeated true p

/-- At least one repetition, as many as possible. -/
def some (p : Pattern) : Pattern := seq p (many p)

/-- Any number of repetitions, as few as possible. -/
def fewest (p : Pattern) : Pattern := repeated false p

def someFewest (p : Pattern) : Pattern := seq p (fewest p)

/-- The pattern or nothing, the pattern preferred. -/
def optional (p : Pattern) : Pattern := alt p nothing

def blank : Pattern := char isBlank

def inked : Pattern := char fun c => !isBlank c

def wordChar : Pattern := char isWordChar

def digit : Pattern := char isDigit

def inLine : Pattern := char (· != '\n')

def noneOf (s : String) : Pattern := char fun c => !s.toList.contains c

def among (s : String) : Pattern := char fun c => s.toList.contains c

def blanks : Pattern := many blank

def someBlanks : Pattern := some blank

def word : Pattern := some wordChar

/-- A number without a sign. -/
def digits : Pattern := some digit

def textStart : Pattern := edge fun before _ => before.isNone

def textEnd : Pattern := edge fun _ next => next.isNone

def lineStart : Pattern := edge fun before _ => before.isNone || before == Option.some '\n'

def lineEnd : Pattern := edge fun _ next => next.isNone || next == Option.some '\n'

/-- A place where a word starts or ends. -/
def wordEdge : Pattern := edge fun before next =>
  (before.map isWordChar).getD false != (next.map isWordChar).getD false

/-! ## Looking for a pattern -/

structure Found where
  start : Place
  stop : Place

def Found.text (m : Found) : String := String.ofList (m.start.textTo m.stop)

/-- The text of a group, if the group took part in the match. -/
def Found.group? (m : Found) (number : Nat) : Option String :=
  (m.stop.groups.lookup number).map String.ofList

/-- The text of a group; empty if the group took no part in the match. -/
def Found.group (m : Found) (number : Nat) : String := (m.group? number).getD ""

def matchAt? (p : Pattern) (place : Place) : Option Found :=
  p.run { place with groups := [] } fun q => Option.some ⟨place, q⟩

/-- The leftmost match at or after a place, at most `fuel` characters away. -/
def findFrom? (p : Pattern) : (fuel : Nat) → Place → Option Found
  | fuel, place =>
    match p.matchAt? place with
    | Option.some m => Option.some m
    | none =>
      match fuel, place.next? with
      | fuel + 1, Option.some (_, next) => findFrom? p fuel next
      | _, _ => none

/-- The leftmost match in a text. -/
def find? (p : Pattern) (s : List Char) : Option Found := p.findFrom? s.length (.start s)

def occurs (p : Pattern) (s : List Char) : Bool := (p.find? s).isSome

/-- The matches from a place on, from the left and without overlap, at most `fuel` of them. -/
def findAllFrom (p : Pattern) : (fuel : Nat) → Place → List Found
  | 0, _ => []
  | fuel + 1, place =>
    match p.findFrom? place.left place with
    | Option.some m => m :: findAllFrom p fuel m.stop
    | none => []

/-- The matches in a text, from the left and without overlap, for a pattern that never matches the
empty text. -/
def findAll (p : Pattern) (s : List Char) : List Found := p.findAllFrom s.length (.start s)

end Pattern

end Remedy.Text
