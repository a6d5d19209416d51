import Ratchet.Log.Level
import Ratchet.Value

namespace Ratchet

/-!
# Records

A message for the log: the name of its level, a text that may hold fields in
braces, and named values.
-/

/-- One message. -/
structure Record where
  level : String
  message : String
  attributes : List (String × Value)
  deriving Inhabited

namespace Record

/-- A message at one of the levels. -/
def ofLevel (level : Level) (message : String) (attributes : List (String × Value)) : Record :=
  ⟨level.name, message, attributes⟩

/-- The level at which a record counts. -/
def importance (r : Record) : Level :=
  .ofName r.level

/-- A value that recording a message needs itself, and that an attribute must
not be named for. -/
structure Clash where
  /-- The operation that needs the value. -/
  operation : String
  name : String
  deriving DecidableEq

def Clash.message (clash : Clash) : String :=
  s!"Logger.{clash.operation}() got multiple values for argument '{clash.name}'"

/-- The operation that records at any level. -/
def generalOperation : String := "log"

/-- The clash of a record's attributes, if there is one.  Each of the usual
levels has an operation of its own, which hands the level to the general
one. -/
def clash? (r : Record) : Option Clash :=
  let first? (operation : String) (needed : List String) : Option Clash :=
    ((r.attributes.map Prod.fst).find? needed.contains).map fun name => ⟨operation, name⟩
  if Level.all.any fun level => level.name == r.level then
    first? r.level ["self", "msg"] <|> first? generalOperation ["level"]
  else first? generalOperation ["self", "level", "msg"]

end Record

end Ratchet
