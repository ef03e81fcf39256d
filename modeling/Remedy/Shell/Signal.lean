import Remedy.Shell.Syntax

/-!
# Signals

A signal has a number and a name. A process that does nothing about it is killed by most, stopped by
some, and does not notice a few.
-/

namespace Remedy.Shell

/-- What a signal does to a process that has no plans for it. -/
inductive SignalEffect where
  | kills | stops | passes
deriving Repr, DecidableEq

namespace Signal

/-- The names of the signals, from number zero on; zero stands for the end of the shell. -/
def names : List String :=
  ["EXIT", "HUP", "INT", "QUIT", "ILL", "TRAP", "ABRT", "BUS", "FPE", "KILL", "USR1", "SEGV",
    "USR2", "PIPE", "ALRM", "TERM", "STKFLT", "CHLD", "CONT", "STOP", "TSTP", "TTIN", "TTOU", "URG",
    "XCPU", "XFSZ", "VTALRM", "PROF", "WINCH", "IO", "PWR", "SYS"]

def bound : Nat := 65

/-- The signal that ends a process if none is named. -/
def terminate : Nat := 15

/-- The signal that no process can have plans for. -/
def kill : Nat := 9

def ofDigits? (s : Bytes) : Option Nat :=
  if s.isEmpty || !s.all (·.isDigit) then none
  else
    let n := s.foldl (fun n c => n * 10 + (c.toNat - 48)) 0
    if n < bound then some n else none

/-- The signal of that number or name, in letters of either case; names count from some number
on. -/
def ofText? (least : Nat) (s : Bytes) : Option Nat :=
  match ofDigits? s with
  | some n => some n
  | none =>
    let name := String.ofList (s.map Char.toUpper)
    let found := names.findIdx (· = name)
    if found < names.length && least ≤ found then some found else none

/-- The name of a signal, or its number. -/
def nameOf (n : Nat) : String := names.getD n (toString n)

def effect (n : Nat) : SignalEffect :=
  if n = 17 || n = 18 || n = 23 || n = 28 then .passes
  else if n = 19 || n = 20 || n = 21 || n = 22 then .stops
  else .kills

/-- What a shell tells of a program that a signal killed; nothing of two signals. -/
def report (n : Nat) : String :=
  match n with
  | 1 => "Hangup"
  | 3 => "Quit"
  | 4 => "Illegal instruction"
  | 5 => "Trace/breakpoint trap"
  | 6 => "Aborted"
  | 7 => "Bus error"
  | 8 => "Floating point exception"
  | 9 => "Killed"
  | 10 => "User defined signal 1"
  | 11 => "Segmentation fault"
  | 12 => "User defined signal 2"
  | 14 => "Alarm clock"
  | 15 => "Terminated"
  | 16 => "Stack fault"
  | 24 => "CPU time limit exceeded"
  | 25 => "File size limit exceeded"
  | 26 => "Virtual timer expired"
  | 27 => "Profiling timer expired"
  | 29 => "I/O possible"
  | 30 => "Power failure"
  | 31 => "Bad system call"
  | 2 | 13 => ""
  | n => "Real-time signal " ++ toString (n - 34)

end Signal

end Remedy.Shell
