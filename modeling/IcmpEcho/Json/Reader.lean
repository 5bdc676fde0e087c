/-
# Reading JSON text

`Json.parse` wants the whole text to be one document, with blanks around it; `Json.parseFirst`
reads one document and does not look at what follows it.  Either skips a byte order mark at the
start.  A number too large for a double is refused as soon as it is read, before anything that
may be wrong further on.  A text ends where its bytes end; a NUL is a byte like any other,
and no document has one.
-/
import IcmpEcho.Json.Character
import IcmpEcho.Json.Numeral

namespace IcmpEcho.Json

/-- A value read from the start of a text, and what follows it. -/
abbrev Read (α : Type) := Except JsonFault (α × Bytes)

/-! ## 1. Blanks, words and strings -/

def isBlank (byte : UInt8) : Bool := byte = 0x20 ∨ byte = 0x09 ∨ byte = 0x0A ∨ byte = 0x0D

def skipBlanks (text : Bytes) : Bytes := text.dropWhile isBlank

/-- The rest of a string after its opening quote; `read` holds its characters so far, last
first. -/
def readString (read : List Char) (text : Bytes) : Read String :=
  match text with
  | 0x22 :: rest => .ok (String.ofList read.reverse, rest)
  | text =>
    match h : character? text with
    | some (c, rest) =>
      have := character?_shorter h
      readString (c :: read) rest
    | none => .error .syntaxError
termination_by text.length

/-- A literal word or a number. -/
def readPlain (text : Bytes) : Read Json :=
  match text with
  | 0x74 :: 0x72 :: 0x75 :: 0x65 :: rest => .ok (.bool true, rest)
  | 0x66 :: 0x61 :: 0x6C :: 0x73 :: 0x65 :: rest => .ok (.bool false, rest)
  | 0x6E :: 0x75 :: 0x6C :: 0x6C :: rest => .ok (.null, rest)
  | text =>
    match Numeral.read text with
    | none => .error .syntaxError
    | some (numeral, rest) => numeral.value.map fun value => (value, rest)

/-! ## 2. Values -/

/-- The start of a member: its name and the colon after it. -/
def readName (text : Bytes) : Read String :=
  match skipBlanks text with
  | 0x22 :: rest =>
    match readString [] rest with
    | .error fault => .error fault
    | .ok (name, rest) =>
      match skipBlanks rest with
      | 0x3A :: rest => .ok (name, rest)
      | _ => .error .syntaxError
  | _ => .error .syntaxError

mutual

/-- One value.  Every level of nesting takes a byte, so `fuel` above twice the length of the text
is never used up. -/
def readValue (fuel : Nat) (text : Bytes) : Read Json :=
  match fuel with
  | 0 => .error .syntaxError
  | fuel + 1 =>
    match skipBlanks text with
    | 0x7B :: rest =>
      match skipBlanks rest with
      | 0x7D :: rest => .ok (.object [], rest)
      | rest => readMembers fuel [] rest
    | 0x5B :: rest =>
      match skipBlanks rest with
      | 0x5D :: rest => .ok (.array [], rest)
      | rest => readElements fuel [] rest
    | 0x22 :: rest => (readString [] rest).map fun (value, rest) => (.string value, rest)
    | rest => readPlain rest

/-- The members of an object up to its closing brace; `read` holds those so far, last first. -/
def readMembers (fuel : Nat) (read : List (String × Json)) (text : Bytes) : Read Json :=
  match fuel with
  | 0 => .error .syntaxError
  | fuel + 1 =>
    match readName text with
    | .error fault => .error fault
    | .ok (name, rest) =>
      match readValue fuel rest with
      | .error fault => .error fault
      | .ok (value, rest) =>
        match skipBlanks rest with
        | 0x2C :: rest => readMembers fuel ((name, value) :: read) rest
        | 0x7D :: rest => .ok (.object ((name, value) :: read).reverse, rest)
        | _ => .error .syntaxError

/-- The elements of an array up to its closing bracket; `read` holds those so far, last first. -/
def readElements (fuel : Nat) (read : List Json) (text : Bytes) : Read Json :=
  match fuel with
  | 0 => .error .syntaxError
  | fuel + 1 =>
    match readValue fuel text with
    | .error fault => .error fault
    | .ok (value, rest) =>
      match skipBlanks rest with
      | 0x2C :: rest => readElements fuel (value :: read) rest
      | 0x5D :: rest => .ok (.array (value :: read).reverse, rest)
      | _ => .error .syntaxError

end

/-! ## 3. Documents -/

/-- A text without the byte order mark it may start with. -/
def skipMark : Bytes → Bytes
  | 0xEF :: 0xBB :: 0xBF :: rest => rest
  | text => text

/-- The document at the start of a text, and what follows it. -/
def readDocument (text : Bytes) : Read Json :=
  readValue (2 * text.length + 2) (skipMark text)

/-- The document that a text starts with. -/
def parseFirst (text : Bytes) : Except JsonFault Json :=
  (readDocument text).map Prod.fst

/-- The document that a text is. -/
def parse (text : Bytes) : Except JsonFault Json :=
  match readDocument text with
  | .error fault => .error fault
  | .ok (value, rest) => if skipBlanks rest = [] then .ok value else .error .syntaxError

end IcmpEcho.Json
