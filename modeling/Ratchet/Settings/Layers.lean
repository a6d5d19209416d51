import Ratchet.Change.Git
import Ratchet.Compiler.Toggle
import Ratchet.Settings.Include
import Ratchet.Settings.Place

namespace Ratchet

/-!
# Layers of settings

Settings come in layers, each over the one before: the defaults of the
program, the user's file, the project's file, and the files that the command
line names.  A file that does not exist is no layer.
-/

namespace Layers

/-- The settings that hold where no file says otherwise. -/
def defaults : Mapping := [
  (.text "config", .record [
    ("log-level", .text "info"),
    ("git", .record [
      ("workdir", .text "."),
      ("target_branch", .text "master"),
      ("ignore_branches", .list [])]),
    ("compiler", .record [
      ("command", .text "tsc"),
      ("match_mode", .text "substring"),
      ("diagnostic_exit_codes", .list [.int 1, .int 2]),
      ("options", .record (Toggle.all.map fun toggle => (toggle.flag, .bool true)))]),
    ("commands", .record [
      ("git", .record (Git.defaults.map fun (name, template) => (name, .text template)))]),
    ("logger", .record [
      ("console", .record [("enabled", .bool true), ("colors", .text "auto")]),
      ("file", .record [("enabled", .bool false)])])])]

/-- The name of a settings file, in the project and in the user's place. -/
def fileName : String := "strictify.yaml"

/-- The user's settings file. -/
def userFile (host : Host) : Path :=
  (host.place .userConfig (some Host.programName)).join (.ofText fileName)

/-- The files that arguments name: whatever follows an argument `--include`.
The first argument is the program's name and names nothing. -/
def included (arguments : List String) : List String :=
  ((arguments.drop 1).zip (arguments.drop 2)).filterMap fun (flag, value) =>
    if flag = "--include" then some value else none

/-- The layer that a path leads to, if there is a file. -/
def layerAt (host : Host) (disk : Disk) (path : Path) : Except Include.Error (List Mapping) :=
  if disk.isFile host.directory path then do
    return [← Include.load host disk path]
  else return []

/-- The layer that a name leads to, if there is a file. -/
def layerNamed (host : Host) (disk : Disk) (name : String) : Except Include.Error (List Mapping) :=
  match host.expandHome? (.ofText name) with
  | some path => layerAt host disk path
  | none => throw .noHome

/-- All layers, the lowest first, with those of the named files on top. -/
def layers (host : Host) (disk : Disk) (names : List String) :
    Except Include.Error (List Mapping) := do
  let user ← layerAt host disk (userFile host)
  let named ← names.mapM (layerNamed host disk)
  return defaults :: user ++ named.flatten

/-- The settings of all layers together. -/
def read (host : Host) (disk : Disk) (names : List String) : Except Include.Error Mapping :=
  Mapping.layered <$> layers host disk names

/-- The names of the files to read: those that a caller gives or else the
project's file, and then those that the arguments name. -/
def fileNames (given : List String) (arguments : List String) : List String :=
  (if given.isEmpty then [fileName] else given) ++ included arguments

end Layers

end Ratchet
