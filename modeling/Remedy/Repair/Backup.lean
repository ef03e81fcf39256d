import Remedy.Files.Tree
import Remedy.Repair.Session
import Remedy.Sandbox.Language

/-!
# Backups in files

A backup is kept in a file with `.backup` after its name: beside the file that the label names, or
in a directory of its own, where the name is the last component of the label. A later backup of the
same name replaces an earlier one.
-/

namespace Remedy

inductive BackupPlace where
  /-- Beside the file that the label names. -/
  | beside
  /-- In a directory. -/
  | within (directory : String)
deriving Repr, DecidableEq, Inhabited

namespace BackupPlace

/-- The name of the backup of a label that has no last component. -/
def defaultName : String := "source"

def path (place : BackupPlace) (label : String) : String :=
  match place with
  | beside => label ++ ".backup"
  | within directory =>
    let name := ((Path.fileName? label.toList).map String.ofList).getD defaultName
    Path.join directory (name ++ ".backup")

/-- Keeps a backup, seen from a directory of a tree; tells whether that worked. -/
def keep (place : BackupPlace) (current : Place) (tree : FileTree String) (backup : Backup) :
    FileTree String × Bool :=
  tree.writeMaking? current (place.path backup.label) backup.source

def kept? (place : BackupPlace) (current : Place) (tree : FileTree String) (label : String) :
    Option String :=
  tree.read? current (place.path label)

end BackupPlace

end Remedy
