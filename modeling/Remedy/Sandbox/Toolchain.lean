import Remedy.Sandbox.Language
import Remedy.Text.Pattern

/-!
# Toolchains

A toolchain says how a program of one language is stored, compiled and run. Its commands are
templates: `{source}` stands for the file name and `{stem}` for the name without its extension, and
the file name is filled in first.
-/

namespace Remedy

inductive SourceNaming where
  /-- Always the same stem. -/
  | fixed (stem : String)
  /-- The name of the public class, or of any class, or else a fallback. -/
  | publicClass (fallback : String)
deriving Repr, DecidableEq, Inhabited

/-- How programs of one language are stored, compiled and run. -/
structure Toolchain where
  language : Language
  /-- The extension of the source file, without its dot. -/
  extension : String
  naming : SourceNaming
  compileStep : Option (List String)
  runCommand : List String
  /-- Whether the run step gets the limit on its address space. -/
  limitsMemory : Bool
deriving Repr, DecidableEq, Inhabited

namespace Toolchain

open Text.Pattern in
def publicClass : Text.Pattern :=
  all [lit "public", someBlanks, lit "class", someBlanks, .group 1 word]

open Text.Pattern in
def anyClass : Text.Pattern := all [wordEdge, lit "class", someBlanks, .group 1 word]

/-- The name of the public class of a program, or else of its first class. -/
def className? (source : String) : Option String :=
  ((publicClass.find? source.toList).or (anyClass.find? source.toList)).map (·.group 1)

/-- A toolchain without a compile step. -/
def interpreted (language : Language) (extension : String) (runCommand : List String) :
    Toolchain :=
  { language, extension, naming := .fixed "main", compileStep := none, runCommand,
    limitsMemory := true }

def stem (t : Toolchain) (source : String) : String :=
  match t.naming with
  | .fixed stem => stem
  | .publicClass fallback => (className? source).getD fallback

def fileName (t : Toolchain) (source : String) : String := t.stem source ++ "." ++ t.extension

/-- A command template with its places filled in. -/
def fill (fileName stem : String) (template : List String) : List String :=
  template.map fun arg =>
    Text.replace "\x7bstem\x7d" stem (Text.replace "\x7bsource\x7d" fileName arg)

def compileCommand? (t : Toolchain) (source : String) : Option (List String) :=
  t.compileStep.map (fill (t.fileName source) (t.stem source))

def runCommandFor (t : Toolchain) (source : String) : List String :=
  fill (t.fileName source) (t.stem source) t.runCommand

/-- The program that the first step of a toolchain starts. -/
def firstProgram (t : Toolchain) : String := ((t.compileStep.getD t.runCommand).head?).getD ""

def standard : Language → Toolchain
  | .python => interpreted .python "py" ["python3", "\x7bsource\x7d"]
  | .c =>
    { interpreted .c "c" ["./program"] with
      compileStep := some ["gcc", "\x7bsource\x7d", "-o", "program", "-std=c11", "-Wall"] }
  | .cpp =>
    { interpreted .cpp "cpp" ["./program"] with
      compileStep := some ["g++", "\x7bsource\x7d", "-o", "program", "-std=c++17", "-Wall"] }
  | .java =>
    { interpreted .java "java" ["java", "-cp", ".", "\x7bstem\x7d"] with
      compileStep := some ["javac", "\x7bsource\x7d"]
      naming := .publicClass "Main"
      limitsMemory := false }
  | .javaScript =>
    { interpreted .javaScript "js" ["node", "\x7bsource\x7d"] with
      compileStep := some ["node", "--check", "\x7bsource\x7d"]
      limitsMemory := false }
  | .go =>
    { interpreted .go "go" ["./program"] with
      compileStep := some ["go", "build", "-o", "program", "\x7bsource\x7d"]
      limitsMemory := false }
  | .shell => interpreted .shell "sh" ["sh", "\x7bsource\x7d"]

end Toolchain

/-- Toolchains by language, in the order of the languages. -/
structure ToolchainTable where
  entries : List (Language × Toolchain)
  sorted : entries.Pairwise fun a b => a.1.rank < b.1.rank
deriving Repr, DecidableEq

namespace ToolchainTable

def empty : ToolchainTable := ⟨[], .nil⟩

instance : Inhabited ToolchainTable := ⟨empty⟩

/-- Puts an entry at its place, in the stead of the entry of that language. -/
def insertEntry (language : Language) (t : Toolchain) :
    List (Language × Toolchain) → List (Language × Toolchain)
  | [] => [(language, t)]
  | (l, u) :: rest =>
    if language = l then (language, t) :: rest
    else if language.rank < l.rank then (language, t) :: (l, u) :: rest
    else (l, u) :: insertEntry language t rest

theorem mem_insertEntry {language : Language} {t : Toolchain} {e : Language × Toolchain}
    {entries : List (Language × Toolchain)} (h : e ∈ insertEntry language t entries) :
    e = (language, t) ∨ e ∈ entries := by
  induction entries with
  | nil => simp_all [insertEntry]
  | cons a entries ih =>
    simp only [insertEntry] at h
    split at h
    · rcases List.mem_cons.1 h with rfl | h
      · exact .inl rfl
      · exact .inr (List.mem_cons_of_mem _ h)
    · split at h
      · simp_all
      · rcases List.mem_cons.1 h with rfl | h
        · simp
        · rcases ih h with rfl | h <;> simp_all

theorem pairwise_insertEntry {language : Language} {t : Toolchain}
    {entries : List (Language × Toolchain)}
    (h : entries.Pairwise fun a b => a.1.rank < b.1.rank) :
    (insertEntry language t entries).Pairwise fun a b => a.1.rank < b.1.rank := by
  induction entries with
  | nil => simp [insertEntry]
  | cons a entries ih =>
    obtain ⟨ha, hr⟩ := List.pairwise_cons.1 h
    simp only [insertEntry]
    split
    · next heq => exact List.pairwise_cons.2 ⟨by simpa [heq] using ha, hr⟩
    · next hne =>
      split
      · next hlt =>
        exact List.pairwise_cons.2 ⟨by
          intro b hb
          rcases List.mem_cons.1 hb with rfl | hb
          · exact hlt
          · exact Nat.lt_trans hlt (ha b hb), h⟩
      · next hge =>
        refine List.pairwise_cons.2 ⟨fun b hb => ?_, ih hr⟩
        rcases mem_insertEntry hb with rfl | hb
        · exact Nat.lt_of_le_of_ne (Nat.not_lt.1 hge) fun h => hne (Language.rank_inj.1 h).symm
        · exact ha b hb

/-- The table with a toolchain for a language, in the stead of an earlier one. -/
def insert (table : ToolchainTable) (language : Language) (t : Toolchain) : ToolchainTable :=
  ⟨insertEntry language t table.entries, pairwise_insertEntry table.sorted⟩

def register (table : ToolchainTable) (t : Toolchain) : ToolchainTable :=
  table.insert t.language t

def standard : ToolchainTable :=
  ⟨Language.all.map fun l => (l, Toolchain.standard l), by decide⟩

def get? (table : ToolchainTable) (language : Language) : Option Toolchain :=
  table.entries.lookup language

def languages (table : ToolchainTable) : List Language := table.entries.map (·.1)

/-- The languages whose first program is not installed. Programs in the working directory come from
the compile step and are not looked for. -/
def missing (table : ToolchainTable) (isInstalled : String → Bool) : List Language :=
  table.entries.filterMap fun (_, t) =>
    if "./".toList.isPrefixOf t.firstProgram.toList || isInstalled t.firstProgram then none
    else some t.language

end ToolchainTable

end Remedy
