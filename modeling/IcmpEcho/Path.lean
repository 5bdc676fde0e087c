/-
# Where a path leads

The program works in a directory that holds plain files and nothing else.  A path is followed name
after name, as the system does it: every name but the last has to lead to a directory, and the
first that does not decides what is wrong.  A path may leave the directory, but nothing is found
outside of it.

`appendTarget` is the file that a path reaches when it is opened to write at the end, and
`readTarget` the one that it reaches when it is opened to read.  Opening to write makes the file if
there is none, and cannot make a directory: that is why it refuses every path that ends in a slash.
-/
import IcmpEcho.ErrorCode

namespace IcmpEcho
namespace Path

/-! ## 1. The parts of a path -/

/-- The greatest number of bytes in a name. -/
def maxName : Nat := 255

/-- The greatest number of bytes in a path. -/
def maxLength : Nat := 4095

/-- The names between the slashes of a path. -/
def names (path : String) : List String :=
  ((path.toList.splitOn '/').filter (· ≠ [])).map String.ofList

/-- A path whose last name has to be that of a directory. -/
def endsInSlash (path : String) : Bool := path.toList.getLast? = some '/'

/-! ## 2. Following a path -/

/-- The directory that a path has come to. -/
inductive Place
  /-- The directory that the program works in. -/
  | here
  /-- Any other directory. -/
  | outside
  deriving DecidableEq, Repr

/-- The directory in which a path starts. -/
def start (path : String) : Place := if path.toList.head? = some '/' then .outside else .here

/-- The directory that a name leads to. -/
def enter (isFile : String → Bool) (place : Place) (name : String) : Except ErrorCode Place :=
  if name = "." then .ok place
  else if name = ".." then .ok .outside
  else if maxName < name.utf8ByteSize then .error .nameTooLong
  else if place = .here ∧ isFile name then .error .notADirectory
  else .error .noSuchFile

/-- The directory that all names but the last lead to, and the last name; no name if that is a
directory for certain. -/
def follow (isFile : String → Bool) (path : String) : Except ErrorCode (Place × Option String) :=
  if path = "" then .error .noSuchFile
  else if maxLength < path.utf8ByteSize then .error .nameTooLong
  else do
    let place ← (names path).dropLast.foldlM (enter isFile) (start path)
    return (place, (names path).getLast?.filter fun name => name ≠ "." ∧ name ≠ "..")

/-- The name that a file in a directory can have. -/
def fileName (place : Place) (name : String) : Except ErrorCode String :=
  if maxName < name.utf8ByteSize then .error .nameTooLong
  else
    match place with
    | .here => .ok name
    | .outside => .error .noSuchFile

/-! ## 3. Opening -/

/-- The file that is opened to write at its end. -/
def appendTarget (isFile : String → Bool) (path : String) : Except ErrorCode String := do
  match ← follow isFile path with
  | (_, none) => throw .isADirectory
  | (place, some name) =>
    if endsInSlash path then throw .isADirectory else fileName place name

/-- The file that is opened to be read; none if it is a directory that is opened. -/
def readTarget (isFile : String → Bool) (path : String) : Except ErrorCode (Option String) := do
  match ← follow isFile path with
  | (_, none) => return none
  | (place, some name) =>
    let name ← fileName place name
    if !isFile name then throw .noSuchFile
    else if endsInSlash path then throw .notADirectory
    else return some name

end Path
end IcmpEcho
