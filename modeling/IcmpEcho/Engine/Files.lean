/-
# The files of an engine

An engine has the files of the directory that the program works in, by name.  A path that opens
none of them is refused with the path and the reason of the system.
-/
import IcmpEcho.Engine.Basic
import IcmpEcho.Path

namespace IcmpEcho.Engine

/-- The content of a file, if there is one. -/
def file? (engine : Engine) (name : String) : Option String := engine.files.lookup name

/-- There is a file of this name. -/
def isFile (engine : Engine) (name : String) : Bool := (engine.file? name).isSome

/-- Puts text at the end of a file, which is made if there is none. -/
def append (engine : Engine) (name text : String) : Engine :=
  let content := (engine.file? name).getD "" ++ text
  let others := engine.files.filter fun file => file.1 ≠ name
  { engine with files := (name, content) :: others }

/-- Opens a file to write at its end, and makes it if there is none: the engine after that, and
the name of the file.  The system sees a path up to its first NUL. -/
def openToAppend (engine : Engine) (path : String) : Except Failure (Engine × String) :=
  match Path.appendTarget engine.isFile (untilNul path) with
  | .error code => .error (.unopened path code)
  | .ok name => .ok (engine.append name "", name)

/-- The content of the file that a path leads to.  A directory can be opened, but not read. -/
def read (engine : Engine) (path : String) : Except Failure String :=
  match Path.readTarget engine.isFile (untilNul path) with
  | .error code => .error (.unopened path code)
  | .ok none => .error (.unreadable .isADirectory)
  | .ok (some name) => .ok ((engine.file? name).getD "")

end IcmpEcho.Engine
