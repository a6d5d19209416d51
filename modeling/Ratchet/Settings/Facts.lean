import Ratchet.Template.Subject

namespace Ratchet

/-!
# Facts about the machine

Texts of the settings may name facts about the machine that a program runs on.
They are kept in collections, which lead to one another.
-/

/-- A collection of facts. -/
inductive Facts where
  /-- The operating system. -/
  | system
  /-- How paths are written. -/
  | paths
  /-- What holds of paths however they are written. -/
  | commonPaths
  /-- What is recorded about files. -/
  | fileStatus
  | interpreter
  /-- Which version of the interpreter it is. -/
  | version
  /-- Which decimal numbers the interpreter computes with. -/
  | decimals
  | abstraction
  deriving DecidableEq

namespace Facts

def name : Facts → String
  | .system => "os"
  | .paths => "posixpath"
  | .commonPaths => "genericpath"
  | .fileStatus => "stat"
  | .interpreter => "sys"
  | .version => "sys.version_info"
  | .decimals => "sys.float_info"
  | .abstraction => "abc"

/-- The facts of a collection that is a record. -/
def record? : Facts → Option (List (String × Value))
  | .version => some
    [("major", .int 3), ("minor", .int 11), ("micro", .int 10), ("releaselevel", .text "final"),
      ("serial", .int 0)]
  | .decimals => some
    [("max", .float (.ofFloat 1.7976931348623157e308)), ("max_exp", .int 1024),
      ("max_10_exp", .int 308), ("min", .float (.ofFloat 2.2250738585072014e-308)),
      ("min_exp", .int (-1021)), ("min_10_exp", .int (-307)), ("dig", .int 15),
      ("mant_dig", .int 53), ("epsilon", .float (.ofFloat 2.220446049250313e-16)),
      ("radix", .int 2), ("rounds", .int 1)]
  | _ => none

/-- The form of a collection inside a text. -/
def inText (facts : Facts) : String :=
  match facts.record? with
  | some fields =>
    facts.name ++ "(" ++ Text.join ", " (fields.map fun (key, v) => key ++ "=" ++ v.shown) ++ ")"
  | none =>
    "<module '" ++ facts.name ++ "' (" ++
      (if facts = .interpreter then "built-in" else "frozen") ++ ")>"

/-- The collection that a name inside a collection leads to. -/
def part? (facts : Facts) (name : String) : Option Facts :=
  match facts, name with
  | .system, "path" => some .paths
  | .system, "st" | .paths, "stat" | .commonPaths, "stat" => some .fileStatus
  | .system, "abc" => some .abstraction
  | .system, "sys" | .paths, "sys" => some .interpreter
  | .paths, "os" | .commonPaths, "os" => some .system
  | .paths, "genericpath" => some .commonPaths
  | .interpreter, "version_info" => some .version
  | .interpreter, "float_info" => some .decimals
  | _, _ => none

/-- How paths are written. -/
def pathFact? (name : String) : Option Value :=
  match name with
  | "sep" => some (.text "/")
  | "curdir" | "extsep" => some (.text ".")
  | "pardir" => some (.text "..")
  | "pathsep" => some (.text ":")
  | "defpath" => some (.text "/bin:/usr/bin")
  | "devnull" => some (.text "/dev/null")
  | "altsep" => some .null
  | _ => none

/-- A fact of a collection that is no record. -/
def plainFact? (facts : Facts) (name : String) : Option Value :=
  match facts, name with
  | _, "__name__" => some (.text facts.name)
  | _, "__package__" => some (.text "")
  | .system, "name" => some (.text "posix")
  | .system, "linesep" => some (.text "\n")
  | .system, "supports_bytes_environ" => some (.bool true)
  | .paths, "supports_unicode_filenames" => some (.bool false)
  | .system, name | .paths, name => pathFact? name
  | .interpreter, "platform" => some (.text "linux")
  | .interpreter, "byteorder" => some (.text "little")
  | .interpreter, "maxsize" => some (.int 0x7fffffffffffffff)
  | .interpreter, "maxunicode" => some (.int 0x10ffff)
  | .interpreter, "api_version" => some (.int 1013)
  | .interpreter, "float_repr_style" => some (.text "short")
  | .interpreter, "platlibdir" => some (.text "lib")
  | .interpreter, "abiflags" => some (.text "")
  | .interpreter, "warnoptions" => some (.list [])
  | .interpreter, "pycache_prefix" => some .null
  | _, _ => none

/-- A fact by its name. -/
def fact? (facts : Facts) (name : String) : Option Value :=
  match facts.record? with
  | some fields => fields.lookup name
  | none => plainFact? facts name

end Facts

end Ratchet
