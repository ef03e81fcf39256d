import Remedy.Archive.Repair
import Remedy.Toml.Document

/-!
# Settings of a repair in a file

The file is a TOML document; what it leaves out has its default. Settings that were read are
checked before they are used.
-/

namespace Remedy

/-- Why settings cannot be read from a file. -/
inductive SettingsFault where
  /-- The text is no TOML document, or a value in it does not fit. -/
  | unreadable
  /-- The settings have problems, or there is no file. -/
  | invalid (message : String)
deriving Repr, DecidableEq

namespace RepairConfig

def ofToml (document : String) : Except SettingsFault RepairConfig :=
  match (Toml.parse document).bind RepairConfig.ofJson? with
  | none => .error .unreadable
  | some config =>
    match config.validate with
    | .ok _ => .ok config
    | .error fault => .error (.invalid fault.message)

/-- The settings in the file of a path, if there is one. -/
def load (path : String) (content : Option String) : Except SettingsFault RepairConfig :=
  match content with
  | none =>
    .error (.invalid
      ("reading repair config " ++ path ++ ": No such file or directory (os error 2)"))
  | some document =>
    match ofToml document with
    | .ok config => .ok config
    | .error .unreadable => .error .unreadable
    | .error (.invalid message) =>
      .error (.invalid ("loading repair config " ++ path ++ ": " ++ message))

end RepairConfig

end Remedy
