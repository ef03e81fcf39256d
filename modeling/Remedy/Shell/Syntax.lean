/-!
# Shell programs

A command is made of words, and a word of pieces: characters, and places where the value of a
parameter, the output of a command or the value of an arithmetic expression is put in. Characters
and values know whether they stood in quotes. All text is bytes, each as the character of its
number.
-/

namespace Remedy.Shell

abbrev Bytes := List Char

/-- What is put in for a parameter. With `emptyToo`, an empty parameter counts as unset. -/
inductive ParamUse where
  | value
  | length
  /-- The value, or else another word. -/
  | orElse (emptyToo : Bool)
  /-- The value, or else another word that the parameter is set to. -/
  | orAssign (emptyToo : Bool)
  /-- The value, or else an error. -/
  | orFail (emptyToo : Bool)
  /-- Another word, if the parameter is set. -/
  | ifSet (emptyToo : Bool)
  /-- The value without what a pattern matches at its start. -/
  | dropStart (longest : Bool)
  /-- The value without what a pattern matches at its end. -/
  | dropEnd (longest : Bool)
  /-- No known use. -/
  | unknown
deriving Repr, DecidableEq

inductive RedirKind where
  | read | write | append | readWrite
  /-- Like `write`, even where files are kept from being overwritten. -/
  | overwrite
  /-- The stream of another number takes its place. -/
  | copy
  /-- The text of a here-document is read. -/
  | here (id : Nat)
deriving Repr, DecidableEq

mutual

inductive Piece where
  | char (c : Char) (quoted : Bool)
  /-- A pair of quotes: a word with them is there even if it is empty. -/
  | quotes
  | param (name : Bytes) (use : ParamUse) (arg : List Piece) (quoted : Bool)
  | command (body : Command) (quoted : Bool)
  | arithmetic (body : List Piece) (quoted : Bool)

inductive Redir where
  | mk (fd : Nat) (kind : RedirKind) (target : List Piece)

inductive Command where
  | nothing
  | simple (line : Nat) (assigns : List (Bytes × List Piece)) (words : List (List Piece))
      (redirs : List Redir)
  | redirected (line : Nat) (redirs : List Redir) (body : Command)
  | negated (body : Command)
  | pipe (first second : Command)
  | both (first second : Command)
  | either (first second : Command)
  | inOrder (first second : Command)
  | background (body : Command)
  | subshell (body : Command)
  | branch (test yes no : Command)
  /-- Runs the body as long as the test succeeds, or with `until`, fails. -/
  | loop (untilTrue : Bool) (test body : Command)
  /-- Runs the body for each word, or for each argument. -/
  | each (line : Nat) (name : Bytes) (words : Option (List (List Piece))) (body : Command)
  | choose (line : Nat) (subject : List Piece) (arms : List (List (List Piece) × Command))
  | function (name : Bytes) (body : Command)

end

instance : Inhabited Piece := ⟨.quotes⟩
instance : Inhabited Command := ⟨.nothing⟩

abbrev Word := List Piece

/-- The text of a word that holds no quotes and nothing to be put in. -/
def Word.plain? : Word → Option Bytes
  | [] => some []
  | .char c false :: w => (Word.plain? w).map (c :: ·)
  | _ => none

def isNameStart (c : Char) : Bool := c.isAlpha || c = '_'

def isNameChar (c : Char) : Bool := c.isAlphanum || c = '_'

def isName : Bytes → Bool
  | [] => false
  | c :: s => isNameStart c && s.all isNameChar

end Remedy.Shell
