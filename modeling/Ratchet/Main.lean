import Ratchet.Program

/-!
# The command line

Files are read when the settings ask for them.  Commands are left to whoever
started the program: each full command is printed on a line after `$ `, and
its outcome is expected on standard input, one mapping a line with `stdout`,
`stderr`, `exited` and `timed_out`.  A run depends on nothing but the replies,
so it is begun anew with every further reply until none is missing.
-/

namespace Ratchet

namespace Program

/-- The text of a file, if it can be read. -/
def contentOf? (path : Path) : IO (Option String) := do
  try
    return some (← IO.FS.readFile path.text)
  catch _ =>
    return none

/-- The environment, in which every variable ends with the character zero. -/
def environment : IO (List (String × String)) := do
  let all := (← contentOf? (.ofText "/proc/self/environ")).getD ""
  return (Text.pieces (Char.ofNat 0) all).filterMap fun entry =>
    (Cut.atFirst? '=' entry.toList).map fun (name, value) =>
      (String.ofList name, String.ofList value)

/-- Adds to the disk the files that can be read. -/
def fetched (disk : Disk) (paths : List Path) : IO Disk := do
  let found ← paths.filterMapM fun path => do
    return (← contentOf? path).map fun content => (path, content)
  return { disk with files := found ++ disk.files }

/-- The next reply on standard input. -/
def nextReply (input : IO.FS.Stream) : IO Reply := do
  let line ← input.getLine
  return ((Json.read? line).map replyOf).getD unanswered

/-- Runs until no reply and no file is missing. -/
partial def converse (host : Host) (disk : Disk) (arguments : List String) (tried : List Path)
    (replies : List (String × Reply)) : IO (Noted End) := do
  let ended := runWith host disk arguments replies
  match pending? replies ended.journal, wanted? ended.value with
  | some command, _ =>
    IO.println ("$ " ++ command)
    (← IO.getStdout).flush
    let reply ← nextReply (← IO.getStdin)
    converse host disk arguments tried ((command, reply) :: replies)
  | none, some path =>
    if tried.contains path then return ended
    else converse host (← fetched disk [path]) arguments (path :: tried) replies
  | none, none => return ended

end Program

end Ratchet

open Ratchet in
def main (arguments : List String) : IO UInt32 := do
  let environment ← Program.environment
  let place (name : String) : Path := .ofText ((environment.lookup name).getD "/")
  let host : Host := { directory := place "PWD", home := place "HOME", environment }
  let arguments := Host.programName :: arguments
  let named := (Layers.fileNames [] arguments).filterMap fun name => host.expandHome? (.ofText name)
  let first := Layers.userFile host ::
    (.ofText Launch.variableFileName :: named).map (Path.resolve host.directory)
  let disk ← Program.fetched { files := [], directories := [host.directory] } first
  let ended ← Program.converse host disk arguments [] []
  IO.print (Verdict.screen ended.journal)
  match ended.value with
  | .exit code => return code.toUInt32
  | .failed failure =>
    for line in Program.explanation failure do
      IO.eprintln line
    return 1
