/-
# Configuration from a JSON document

A document gives every value of a configuration: what it leaves out has its default, and nothing
is taken over from an earlier configuration.  The result is validated, so reading either fails or
gives an acceptable configuration.

The log level is checked before the other members are looked at; after that the first member of
a wrong type counts, and only then the ranges.
-/
import IcmpEcho.Config
import IcmpEcho.Json.Reader

namespace IcmpEcho.Config

/-- A member of the document that is an object of its own, empty if it is left out. -/
def subtree (tree : Json) (name : String) : Except JsonFault Json :=
  tree.memberOr name .ok (.object [])

/-- The values under `ping`. -/
def pingOptions (tree : Json) : Except JsonFault PingOptions := do
  let size ← tree.memberOr "size" Json.toSize 56
  let timeout ← tree.memberOr "timeout" Json.toInt32 2000
  let ttl ← tree.memberOr "ttl" Json.toInt32 64
  let ident ← tree.memberOr "ident" Json.toInt32 (-1)
  return { size, timeout, ttl, ident }

/-- The values under `socket`. -/
def socketOptions (tree : Json) : Except JsonFault SocketOptions := do
  let device ← tree.memberOr "interface" Json.toText ""
  let bindAddress ← tree.memberOr "bind_address" Json.toText ""
  let sendLimit ← tree.memberOr "send_limit_pps" Json.toSize Rate.defaultLimit
  let sendBuffer ← tree.memberOr "send_buffer_size" Json.toInt32 0
  let receiveBuffer ← tree.memberOr "recv_buffer_size" Json.toInt32 0
  return { device, bindAddress, sendLimit, sendBuffer, receiveBuffer }

/-- The values of a document whose log level has been read. -/
def remainder (tree : Json) (logLevel : Int) : Except JsonFault Config := do
  let targets ← tree.memberOr "targets" Json.toTexts []
  let count ← tree.memberOr "count" Json.toUInt32 5
  let interval ← tree.memberOr "interval" Json.toInt32 1000
  let sharedSocket ← tree.memberOr "shared_socket" Json.toBool true
  let ping ← pingOptions (← subtree tree "ping")
  let socket ← socketOptions (← subtree tree "socket")
  return { logLevel, targets, count, interval, sharedSocket, ping, socket }

/-- The configuration that a document describes. -/
def ofJson (tree : Json) : Except Failure Config :=
  match tree.memberOr "log_level" Json.toInt32 1 with
  | .error fault => .error (.json fault)
  | .ok logLevel =>
    if logLevel < 0 ∨ 5 < logLevel then .error (.config .logLevel)
    else
      match remainder tree logLevel with
      | .error fault => .error (.json fault)
      | .ok config => config.validate.map fun _ => config

/-- The configuration that a text, a whole document, describes. -/
def ofText (text : Bytes) : Except Failure Config :=
  match Json.parse text with
  | .error fault => .error (.json fault)
  | .ok tree => ofJson tree

/-- The configuration in the file at a path; `content` is what reading the file gives.  What
follows the first document in the file is not looked at. -/
def ofFile (path : String) (content : Except Failure Bytes) : Except Failure Config :=
  match content with
  | .error failure => .error failure
  | .ok text =>
    match Json.parseFirst text with
    | .error .syntaxError => .error (.brokenFile path)
    | .error fault => .error (.json fault)
    | .ok tree => ofJson tree

/-- A configuration once a document has been read for it: the one that was read, or the earlier
one and the cause for which nothing was read. -/
def adopt (earlier : Config) (read : Except Failure Config) : Config × Except Failure Unit :=
  match read with
  | .error failure => (earlier, .error failure)
  | .ok config => (config, .ok ())

/-- Takes the values of a document over. -/
def populate (earlier : Config) (tree : Json) : Config × Except Failure Unit :=
  earlier.adopt (ofJson tree)

/-- Takes the values of a text over. -/
def populateText (earlier : Config) (text : Bytes) : Config × Except Failure Unit :=
  earlier.adopt (ofText text)

/-- Takes the values of a file over; `content` is what reading the file gives. -/
def load (earlier : Config) (path : String) (content : Except Failure Bytes) :
    Config × Except Failure Unit :=
  earlier.adopt (ofFile path content)

end IcmpEcho.Config
