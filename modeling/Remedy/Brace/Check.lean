import Remedy.Brace.Body
import Remedy.Diagnosis.Finding
import Remedy.Sandbox.Language
import Remedy.Text.Lines
import Remedy.Text.Pattern

/-!
# Checks of brace languages

Each check looks for a pattern line by line, so the findings are less certain than those of a tree.
-/

namespace Remedy.Brace

open Remedy.Text

/-- How far below the head of an unconditional loop a `break` is looked for. -/
def breakWindow : Nat := 20

/-- An unconditional loop with parentheses. -/
def endlessHead : Pattern :=
  .any [
    .all [.wordEdge, .lit "while", .blanks, .lit "(", .blanks, .oneOf ["true", "1"], .blanks,
      .lit ")"],
    .all [.wordEdge, .lit "for", .blanks, .lit "(", .blanks, .lit ";", .blanks, .lit ";", .blanks,
      .lit ")"]]

def endlessGoHead : Pattern := .all [.textStart, .blanks, .lit "for", .blanks, .lit "\x7b"]

def breakWord : Pattern := .all [.wordEdge, .lit "break", .wordEdge]

/-- A counted loop that runs from one through a bound; the first two groups are the variables. -/
def countedLoop : Pattern :=
  .all [.wordEdge, .lit "for", .blanks, .optional (.lit "("), .blanks,
    .optional (.all [.oneOf ["int", "long", "size_t", "let", "var", "auto"], .someBlanks]),
    .group 1 .word, .blanks, .optional (.lit ":"), .lit "=", .blanks, .lit "1", .blanks, .lit ";",
    .blanks, .group 2 .word, .blanks, .lit "<=", .blanks, .some (.noneOf ";"), .lit ";"]

/-- A control statement that a semicolon ends. -/
def strayHead : Pattern :=
  .all [.textStart, .blanks, .oneOf ["if", "while", "for"], .blanks, .lit "(", .many .inLine,
    .lit ")", .blanks, .lit ";", .blanks, .textEnd]

/-- A condition in parentheses after `if`. -/
def condition : Pattern :=
  .all [.wordEdge, .lit "if", .blanks, .lit "(", .group 1 (.many .inLine), .lit ")"]

def typedHead : Pattern :=
  .all [.textStart, .blanks,
    .many (.all [.oneOf ["public", "private", "protected", "static", "final", "inline", "const"],
      .someBlanks]),
    .oneOf ["int", "long", "short", "double", "float", "bool", "boolean", "char", "String",
      "std::string", "size_t"],
    .blanks, .optional (.among "*&"), .someBlanks, .group 1 .word, .blanks, .lit "(",
    .many (.noneOf ";"), .lit ")", .blanks, .optional (.lit "\x7b"), .blanks, .textEnd]

def typedGoHead : Pattern :=
  let inParentheses : Pattern := .all [.lit "(", .many (.noneOf ")"), .lit ")"]
  let typeChar : Pattern := .char fun c => isWordChar c || c == '[' || c == ']' || c == '*' || c == '.'
  .all [.textStart, .blanks, .lit "func", .someBlanks,
    .optional (.all [inParentheses, .blanks]), .group 1 .word, .blanks, inParentheses, .blanks,
    .any [.some typeChar, inParentheses], .blanks, .lit "\x7b", .blanks, .textEnd]

def returnWord : Pattern := .all [.wordEdge, .lit "return", .wordEdge]

/-- An equals sign that is part of no comparison and no arrow; `before` is the character before the
text. -/
def bareAssignment : (before : Option Char) → List Char → Bool
  | _, [] => false
  | before, c :: s =>
    (c == '=' && !before.any "=!<>".toList.contains && !s.head?.any "=>".toList.contains)
      || bareAssignment (some c) s

/-- The findings of a check that looks at each line and the lines from it on. -/
def eachLine (check : Nat → List Char → List (List Char) → Option Finding) :
    (number : Nat) → List (List Char) → List Finding
  | _, [] => []
  | number, line :: below =>
    (check number line (line :: below)).toList ++ eachLine check (number + 1) below

def loopHead (language : Language) : Pattern := if language = .go then endlessGoHead else endlessHead

/-- Whether the word `break` stands in the first of some lines or one of those below it. -/
def breakNear (below : List (List Char)) : Bool :=
  (below.take (breakWindow + 1)).any breakWord.occurs

def endlessLoop (language : Language) (number : Nat) (line : List Char)
    (below : List (List Char)) : Option Finding :=
  if (loopHead language).occurs (code line) && !breakNear below then
    some
      { category := .infiniteLoop, line := some number, severity := .high
        confidence := .ofPercent 70
        message := "Unconditional loop with no break nearby"
        fix := some "Add a break condition or bound the loop" }
  else none

def inclusiveLoop (number : Nat) (line : List Char) : Option Finding :=
  (countedLoop.find? (code line)).bind fun m =>
    if m.group 1 = m.group 2 then
      some
        { category := .offByOne, line := some number, severity := .medium
          confidence := .ofPercent 50
          message := "Loop runs '" ++ m.group 1 ++ "' from 1 through the bound inclusively"
          fix := some "Start at 0 and use '<' if the bound is a length" }
    else none

def strayEnd (number : Nat) (line : List Char) : Option Finding :=
  if strayHead.occurs (code line) then
    some
      { category := .deadCode, line := some number, severity := .low
        confidence := .ofPercent 70
        message := "Control statement has an empty body (stray ';')"
        fix := some "Remove the ';' after the condition" }
  else none

def assignedCondition (number : Nat) (line : List Char) : Option Finding :=
  (condition.find? (code line)).bind fun m =>
    if bareAssignment none (m.group 1).toList then
      some
        { category := .wrongComparison, line := some number, severity := .medium
          confidence := .ofPercent 60
          message := "Assignment inside an 'if' condition"
          fix := some "Use '==' to compare" }
    else none

/-- The name of the function with a result type whose head a line is. -/
def headName? (language : Language) (line : List Char) : Option String :=
  ((if language = .go then typedGoHead else typedHead).find? line).map (·.group 1)

/-- Whether the function whose head is the first of some lines has a body, and no `return` in it. -/
def neverReturns (below : List (List Char)) : Bool :=
  (functionBody? below).any fun body => !returnWord.occurs body

def unreturned (number : Nat) (name : String) : Finding :=
  { category := .missingReturn, line := some number, severity := .medium
    confidence := .ofPercent 70
    message := "Function '" ++ name ++ "' declares a return type but never returns"
    fix := some ("Add a return statement to '" ++ name ++ "'") }

/-- Functions with a result type and no `return`; `main` needs none. -/
def missingReturn (language : Language) (number : Nat) (line : List Char)
    (below : List (List Char)) : Option Finding :=
  ((headName? language line).filter fun name => name != "main" && neverReturns below).map
    (unreturned number)

def findings (language : Language) (source : String) : List Finding :=
  let text := lines source.toList
  eachLine (endlessLoop language) 1 text
    ++ eachLine (fun number line _ => inclusiveLoop number line) 1 text
    ++ eachLine (fun number line _ => strayEnd number line) 1 text
    ++ (if language = .go then []
        else eachLine (fun number line _ => assignedCondition number line) 1 text)
    ++ (if language = .javaScript then [] else eachLine (missingReturn language) 1 text)

/-- The findings in a program text of a brace language, in normal form. -/
def analyze (language : Language) (source : String) : List Finding :=
  Finding.normalize (findings language source)

end Remedy.Brace
