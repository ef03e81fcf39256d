import Remedy.Diagnosis.Finding
import Remedy.Text.Blank
import Remedy.Text.Lines

/-!
# Error records

Why a run failed, in the same words for every language. A record without a kind says that there was
no error.
-/

namespace Remedy

/-- What kind of error ended a run. `runtime` carries the name of an error that has no kind of its
own, `logical` a defect of a program that did not crash. -/
inductive ErrorKind where
  | parse | indentation | unresolvedReference | unboundLocal | type | index | key | value
  | missingAttribute | divideByZero | importFailure | recursion | assertion | nullReference | compile
  | link | segmentationFault | panic | timedOut | memoryExceeded
  | logical (category : FindingCategory)
  | runtime (name : String)
deriving Repr, DecidableEq, Inhabited

namespace ErrorKind

def plain : List ErrorKind :=
  [parse, indentation, unresolvedReference, unboundLocal, type, index, key, value, missingAttribute,
    divideByZero, importFailure, recursion, assertion, nullReference, compile, link,
    segmentationFault, panic, timedOut, memoryExceeded]

/-- The kind of an exception or error class. -/
def ofExceptionName : String → ErrorKind
  | "SyntaxError" => parse
  | "IndentationError" | "TabError" => indentation
  | "NameError" | "ReferenceError" => unresolvedReference
  | "UnboundLocalError" => unboundLocal
  | "TypeError" | "ClassCastException" => type
  | "IndexError" | "IndexOutOfBoundsException" | "ArrayIndexOutOfBoundsException"
  | "StringIndexOutOfBoundsException" => index
  | "KeyError" | "NoSuchElementException" => key
  | "ValueError" | "NumberFormatException" | "IllegalArgumentException" => value
  | "AttributeError" => missingAttribute
  | "ZeroDivisionError" | "ArithmeticException" => divideByZero
  | "ImportError" | "ModuleNotFoundError" | "ClassNotFoundException" => importFailure
  | "RecursionError" | "StackOverflowError" => recursion
  | "AssertionError" => assertion
  | "NullPointerException" => nullReference
  | "MemoryError" | "OutOfMemoryError" => memoryExceeded
  | other => runtime other

/-- Whether the kind tends to bring further errors with it. -/
def isCascading : ErrorKind → Bool
  | parse | indentation | unresolvedReference | unboundLocal => true
  | _ => false

def isResourceViolation : ErrorKind → Bool
  | timedOut | memoryExceeded => true
  | _ => false

/-- The name of a kind, without its payload. -/
def tag : ErrorKind → String
  | parse => "syntax"
  | indentation => "indentation"
  | unresolvedReference => "unresolved_reference"
  | unboundLocal => "unbound_local"
  | type => "type"
  | index => "index"
  | key => "key"
  | value => "value"
  | missingAttribute => "attribute"
  | divideByZero => "divide_by_zero"
  | importFailure => "import"
  | recursion => "recursion"
  | assertion => "assertion"
  | nullReference => "null_reference"
  | compile => "compile"
  | link => "link"
  | segmentationFault => "segmentation_fault"
  | panic => "panic"
  | timedOut => "timed_out"
  | memoryExceeded => "memory_exceeded"
  | logical _ => "logical"
  | runtime _ => "runtime"

def label : ErrorKind → String
  | logical category => "logical:" ++ category.name
  | runtime name => "runtime:" ++ name
  | kind => kind.tag

def ofTag? (s : String) : Option ErrorKind := plain.find? fun k => k.tag = s

end ErrorKind

/-- Why a run failed. -/
structure ErrorRecord where
  kind : Option ErrorKind := none
  /-- The line in the user's text, counted from one. -/
  line : Option Nat := none
  message : Option String := none
  /-- The offending line, trimmed. -/
  snippet : Option String := none
  fix : Option String := none
deriving Repr, DecidableEq, Inhabited

namespace Text

/-- The trimmed text of a line, counted from one, if there is such a line and it is not blank. -/
def sourceLine? (source : String) (line : Nat) : Option String :=
  if line = 0 then none
  else
    match (lines source.toList)[line - 1]? with
    | none => none
    | some text => if (trim text).isEmpty then none else some (String.ofList (trim text))

end Text

namespace ErrorRecord

def noError : ErrorRecord := {}

def ofKind (kind : ErrorKind) (message : String) : ErrorRecord :=
  { kind := some kind, message := some message }

def isError (r : ErrorRecord) : Bool := r.kind.isSome

def ofFinding (f : Finding) (source : String) : ErrorRecord :=
  { kind := some (.logical f.category)
    line := f.line
    message := some f.message
    snippet := f.line.bind (Text.sourceLine? source)
    fix := f.fix }

end ErrorRecord

end Remedy
