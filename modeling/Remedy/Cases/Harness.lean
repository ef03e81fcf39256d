import Remedy.Cases.Basic
import Remedy.Sandbox.Result

/-!
# Running a test case

A harness is a program around the program under test: it calls the entry function with the input of
a case and prints a marker with the result, or with the error. The last marked line counts; a
result goes before an error.
-/

namespace Remedy.Cases

open Remedy.Text

def resultMarker : String := "__RESULT__:"

def errorMarker : String := "__ERROR__:"

/-- The text of a value as a string literal: JSON twice over. -/
def inputLiteral (input : Json) : String := Json.quote input.render

/-- The Python harness up to the literal of the program. -/
def pythonFront : String :=
  "import inspect as __mender_inspect\n" ++
  "import json as __mender_json\n" ++
  "\n" ++
  "__mender_ns = \x7b\"__name__\": \"__mender_harness__\", \"__builtins__\": __builtins__\x7d\n" ++
  "exec(compile("

def pythonMiddle : String :=
  ", \"main.py\", \"exec\"), __mender_ns)\n" ++
  "\n" ++
  "\n" ++
  "def __mender_call(fn, data):\n" ++
  "    try:\n" ++
  "        params = list(__mender_inspect.signature(fn).parameters.values())\n" ++
  "    except (TypeError, ValueError):\n" ++
  "        params = []\n" ++
  "    if not params:\n" ++
  "        return fn()\n" ++
  "    if isinstance(data, list) and len(data) == len(params) and len(data) != 1:\n" ++
  "        return fn(*data)\n" ++
  "    if isinstance(data, dict) and data and all(p.name in data for p in params):\n" ++
  "        return fn(**data)\n" ++
  "    return fn(data)\n" ++
  "\n" ++
  "\n" ++
  "try:\n" ++
  "    __mender_entry = next(\n" ++
  "        (__mender_ns[n] for n in (\"main\", \"solution\", \"solve\") if callable(__mender_ns.get(n))),\n" ++
  "        None,\n" ++
  "    )\n" ++
  "    __mender_result = None\n" ++
  "    if __mender_entry is not None:\n" ++
  "        __mender_result = __mender_call(__mender_entry, __mender_json.loads("

def pythonBack : String :=
  "))\n" ++
  "    print(\"" ++ resultMarker ++ "\", __mender_json.dumps(__mender_result))\n" ++
  "except Exception as __mender_error:\n" ++
  "    print(\"" ++ errorMarker ++ "\", __mender_error)\n"

def pythonHarness (source : String) (input : Json) : String :=
  pythonFront ++ Json.quote source ++ pythonMiddle ++ inputLiteral input ++ pythonBack

def javaScriptHarness (source : String) (input : Json) : String :=
  source ++ "\n" ++
  "\n" ++
  ";(() => \x7b\n" ++
  "  const input = " ++ input.render ++ ";\n" ++
  "  const entry =\n" ++
  "    typeof main === 'function' ? main :\n" ++
  "    typeof solution === 'function' ? solution :\n" ++
  "    typeof solve === 'function' ? solve : null;\n" ++
  "  try \x7b\n" ++
  "    let result = null;\n" ++
  "    if (entry) \x7b\n" ++
  "      if (entry.length === 0) result = entry();\n" ++
  "      else if (Array.isArray(input) && input.length === entry.length && input.length !== 1) result = entry(...input);\n" ++
  "      else result = entry(input);\n" ++
  "    \x7d\n" ++
  "    console.log('" ++ resultMarker ++ " ' + JSON.stringify(result === undefined ? null : result));\n" ++
  "  \x7d catch (e) \x7b\n" ++
  "    console.log('" ++ errorMarker ++ " ' + (e && e.message));\n" ++
  "  \x7d\n" ++
  "\x7d)();\n"

def harness? (language : Language) (source : String) (input : Json) : Option String :=
  match language with
  | .python => some (pythonHarness source input)
  | .javaScript => some (javaScriptHarness source input)
  | .c | .cpp | .java | .go | .shell => none

/-- The trimmed rest of the last line with a marker, after the first marker in it. -/
def marked? (marker : String) (output : List (List Char)) : Option (List Char) :=
  output.reverse.findSome? fun line =>
    (splitFirst? marker.toList line).map fun (_, rest) => trim rest

/-- What a harness printed: a value, or an error. -/
def outputOf (stdout stderr : String) : Option Json × Option String :=
  let output := lines stdout.toList
  match marked? resultMarker output with
  | some raw =>
    let text := String.ofList raw
    match Json.parse text with
    | .ok value => (some value, none)
    | .error fault => (none, some ("unreadable result '" ++ text ++ "': " ++ fault.message text))
  | none =>
    match marked? errorMarker output with
    | some message => (none, some (String.ofList message))
    | none =>
      let last? := (lines stderr.toList).reverse.find? fun l => !isBlankText l
      (none, some ((last?.map fun l => String.ofList (trim l)).getD "no output"))

def judge (case : TestCase) (run : RunResult) : CaseResult :=
  let (actual, error) := outputOf run.stdout run.stderr
  { case, actual, error, passed := actual.any (valuesMatch case.expected) }

end Remedy.Cases
