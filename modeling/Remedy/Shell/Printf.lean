import Remedy.Shell.Syntax
import Remedy.Text.Utf8

/-!
# Formatted output of the shell

Escapes in the text of `echo` and of a format, and the directives of a format: each takes an
argument, and the format is used again as long as it uses some up.
-/

namespace Remedy.Shell

open Remedy.Text

namespace Printf

def isOctal (c : Char) : Bool := '0' ≤ c && c ≤ '7'

/-- The byte of a number, its last eight bits. -/
def byte (n : Nat) : Char := Char.ofNat (n % 256)

/-- The byte that one to three octal digits tell, and the rest. -/
def octal (s : Bytes) : Char × Bytes :=
  let digits := (s.take 3).takeWhile isOctal
  (byte (digits.foldl (fun n c => n * 8 + (c.toNat - 48)) 0), s.drop digits.length)

def letter? (c : Char) : Option Char :=
  match c with
  | '\\' => some '\\'
  | 'a' => some '\x07'
  | 'b' => some '\x08'
  | 'e' => some '\x1b'
  | 'f' => some '\x0c'
  | 'n' => some '\n'
  | 'r' => some '\r'
  | 't' => some '\t'
  | 'v' => some '\x0b'
  | _ => none

/-- The byte of what follows a backslash, and the rest. A backslash that begins no escape stands for
itself. -/
def escape (s : Bytes) : Char × Bytes :=
  match s with
  | [] => ('\\', [])
  | c :: rest =>
    match letter? c with
    | some d => (d, rest)
    | none => if isOctal c then octal s else ('\\', s)

/-- A text with its escapes read, and whether it told to stop there. Octal digits may have another
zero in front. -/
def unescape : (fuel : Nat) → Bytes → Bytes × Bool
  | 0, _ => ([], false)
  | _ + 1, [] => ([], false)
  | fuel + 1, c :: s =>
    if c ≠ '\\' then
      let (text, stops) := unescape fuel s
      (c :: text, stops)
    else
      match s with
      | 'c' :: _ => ([], true)
      | _ =>
        let s := match s with
          | '0' :: d :: t => if isOctal d then d :: t else s
          | s => s
        let (d, rest) := escape s
        let (text, stops) := unescape fuel rest
        (d :: text, stops)

/-- A text with its escapes read, and whether it told to stop there. -/
def plain (s : Bytes) : Bytes × Bool := unescape (s.length + 1) s

/-- What `echo` writes for its arguments, without the line end; and whether one may follow. -/
def echoed : List Bytes → Bytes × Bool
  | [] => ([], true)
  | [a] =>
    let (text, stops) := plain a
    (text, !stops)
  | a :: args =>
    let (text, stops) := plain a
    if stops then (text, false)
    else
      let (rest, lineEnd) := echoed args
      (text ++ ' ' :: rest, lineEnd)

def echo (args : List Bytes) : Bytes :=
  let (silent, args) := match args with
    | ['-', 'n'] :: args => (true, args)
    | args => (false, args)
  let (text, lineEnd) := echoed args
  if lineEnd && !silent then text ++ ['\n'] else text

/-! ## Directives -/

structure Directive where
  flags : Bytes
  width : Int
  precision : Option Int
  kind : Char
deriving Repr

namespace Directive

def has (d : Directive) (c : Char) : Bool := d.flags.contains c

def isLeft (d : Directive) : Bool := d.has '-' || d.width < 0

/-- The precision, if it counts. -/
def digits? (d : Directive) : Option Nat :=
  match d.precision with
  | some p => if p < 0 then none else some p.toNat
  | none => none

/-- A text with blanks on one side up to the width. -/
def pad (d : Directive) (s : Bytes) : Bytes :=
  let blanks := List.replicate (d.width.natAbs - s.length) ' '
  if d.isLeft then s ++ blanks else blanks ++ s

/-- A number with a sign or a base in front, padded with zeros where that is asked for. -/
def number (d : Directive) (front : Bytes) (digits : Bytes) : Bytes :=
  let least := match d.digits? with
    | some p => p
    | none => if d.has '0' && !d.isLeft then d.width.natAbs - front.length else 1
  d.pad (front ++ List.replicate (least - digits.length) '0' ++ digits)

/-- The digits of a number; none for zero, which the padding adds. -/
def digitsOf (base : Nat) (n : Nat) : Bytes := if n = 0 then [] else Nat.toDigits base n

def signed (d : Directive) (n : Int) : Bytes :=
  let front :=
    if n < 0 then ['-'] else if d.has '+' then ['+'] else if d.has ' ' then [' '] else []
  d.number front (digitsOf 10 n.natAbs)

def unsigned (d : Directive) (n : Nat) : Bytes :=
  match d.kind with
  | 'o' =>
    let digits := digitsOf 8 n
    d.number [] (if d.has '#' then '0' :: digits else digits)
  | 'x' => d.number (if d.has '#' && n ≠ 0 then ['0', 'x'] else []) (digitsOf 16 n)
  | 'X' =>
    d.number (if d.has '#' && n ≠ 0 then ['0', 'X'] else []) ((digitsOf 16 n).map Char.toUpper)
  | _ => d.number [] (digitsOf 10 n)

/-- A text, cut to the precision. -/
def cut (d : Directive) (s : Bytes) : Bytes :=
  d.pad (match d.digits? with
    | some p => s.take p
    | none => s)

end Directive

/-! ## Arguments -/

/-- What is left of the arguments, what was written, and what went wrong. -/
structure Progress where
  args : List Bytes
  output : Bytes := []
  warnings : List Bytes := []
  stopped : Bool := false

/-- The number at the front of a text, as C writes numbers, and the rest. -/
def numberAt? (s : Bytes) : Option (Int × Bytes) :=
  let t := s.dropWhile fun c => c = ' ' || ('\t' ≤ c && c ≤ '\r')
  let (negative, t) := match t with
    | '-' :: t => (true, t)
    | '+' :: t => (false, t)
    | t => (false, t)
  let value := fun (c : Char) =>
    if c.isDigit then c.toNat - 48 else if c.isAlpha then c.toLower.toNat - 87 else 99
  let (base, t) := match t with
    | '0' :: x :: d :: u => if (x = 'x' || x = 'X') && value d < 16 then (16, d :: u) else (8, t)
    | '0' :: _ => (8, t)
    | t => (10, t)
  let digits := t.takeWhile fun c => value c < base
  if digits.isEmpty then none
  else
    let n : Int := digits.foldl (fun n c => n * base + (value c : Nat)) 0
    some (if negative then -n else n, t.drop digits.length)

/-- The number of the next argument, brought between two bounds; zero if there is none. The number
of a quote and a byte is that of the byte. -/
def takeNumber (least greatest : Int) (p : Progress) : Int × Progress :=
  match p.args with
  | [] => (0, p)
  | a :: args =>
    let p := { p with args }
    let warn := fun (message : String) =>
      { p with warnings := p.warnings ++ [a ++ bytesOf (": " ++ message)] }
    match a with
    | '"' :: s | '\'' :: s => (((s.head?.map Char.toNat).getD 0 : Nat), p)
    | _ =>
      match numberAt? a with
      | none => (0, if a.isEmpty then p else warn "expected numeric value")
      | some (n, rest) =>
        let value := max least (min greatest n)
        if !rest.isEmpty then (value, warn "not completely converted")
        else if value ≠ n then (value, warn "Numerical result out of range")
        else (value, p)

def leastSigned : Int := -0x8000000000000000

def greatestSigned : Int := 0x7fffffffffffffff

def greatestUnsigned : Int := 0xffffffffffffffff

def takeText (p : Progress) : Bytes × Progress :=
  match p.args with
  | [] => ([], p)
  | a :: args => (a, { p with args })

/-- A width or precision: digits, or a star for the next argument. -/
def takeSize (s : Bytes) (p : Progress) : Int × Bytes × Progress :=
  match s with
  | '*' :: s =>
    let (n, p) := takeNumber leastSigned greatestSigned p
    (Int.bmod n 0x100000000, s, p)
  | s =>
    let digits := s.takeWhile (·.isDigit)
    ((digits.foldl (fun n c => n * 10 + (c.toNat - 48)) 0 : Nat), s.drop digits.length, p)

/-- What a directive writes; nothing if there is no such directive. -/
def fill? (d : Directive) (p : Progress) : Option Progress :=
  let wrote := fun (text : Bytes) (p : Progress) => some { p with output := p.output ++ text }
  if d.kind = 's' then
    let (a, p) := takeText p
    wrote (d.cut a) p
  else if d.kind = 'b' then
    let (a, p) := takeText p
    let (text, stops) := plain a
    (wrote (d.cut text) p).map fun p => { p with stopped := stops }
  else if d.kind = 'c' then
    let (a, p) := takeText p
    wrote (d.pad [a.headD '\x00']) p
  else if d.kind = 'd' || d.kind = 'i' then
    let (n, p) := takeNumber leastSigned greatestSigned p
    wrote (d.signed n) p
  else if d.kind = 'u' || d.kind = 'o' || d.kind = 'x' || d.kind = 'X' then
    let (n, p) := takeNumber (-greatestUnsigned) greatestUnsigned p
    wrote (d.unsigned (n % 0x10000000000000000).toNat) p
  else none

/-- Goes through a format once; an error stops it. -/
def once : (fuel : Nat) → Bytes → Progress → Progress × Option Bytes
  | 0, _, p => (p, none)
  | _ + 1, [], p => (p, none)
  | fuel + 1, '\\' :: s, p =>
    let (c, rest) := escape s
    once fuel rest { p with output := p.output ++ [c] }
  | fuel + 1, '%' :: '%' :: s, p => once fuel s { p with output := p.output ++ ['%'] }
  | fuel + 1, '%' :: s, p =>
    let flags := s.takeWhile fun c => "#-+ 0".toList.contains c
    let (width, rest, p) := takeSize (s.drop flags.length) p
    let (precision, rest, p) := match rest with
      | '.' :: rest =>
        let (n, rest, p) := takeSize rest p
        (some n, rest, p)
      | rest => (none, rest, p)
    match rest with
    | [] => (p, some (bytesOf "missing format character"))
    | kind :: after =>
      match fill? { flags, width, precision, kind } p with
      | none =>
        let text := '%' :: s.take (s.length - after.length)
        (p, some (text ++ bytesOf ": invalid directive"))
      | some p => if p.stopped then (p, none) else once fuel after p
  | fuel + 1, c :: s, p => once fuel s { p with output := p.output ++ [c] }

/-- Goes through a format as long as it uses up arguments. -/
def again (format : Bytes) : (fuel : Nat) → Progress → Progress × Option Bytes
  | 0, p => (p, none)
  | fuel + 1, p =>
    let (q, fault) := once (format.length + 1) format p
    if fault.isSome || q.stopped || q.args.isEmpty || q.args.length = p.args.length then (q, fault)
    else again format fuel q

/-- What a format writes for some arguments, and the error that ended it. -/
def format (format : Bytes) (args : List Bytes) : Progress × Option Bytes :=
  again format (args.length + 1) { args }

end Printf

end Remedy.Shell
