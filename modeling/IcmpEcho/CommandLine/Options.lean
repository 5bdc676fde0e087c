/-
# The words of a command line

An option is written `--name value`, `--name=value`, `-n value` or `-nvalue`; options without a
value can share one dash.  After `--` every word is a target, and so is every word that starts
with no dash.  A word that is the short form of an option is never taken for a value.

The words are split into options first, and all of them; only then are the values looked at, in
order.
-/
import IcmpEcho.Failure
import IcmpEcho.Number.Range

namespace IcmpEcho.CommandLine

/-! ## 1. The options there are -/

/-- What can be said on the command line. -/
inductive Name
  | bind
  | config
  | count
  | help
  | device
  | interval
  | log
  | rate
  | single
  | size
  | target
  | timeout
  | ttl
  | version
  deriving DecidableEq, Repr

namespace Name

/-- Every option. -/
def all : List Name :=
  [bind, config, count, help, device, interval, log, rate, single, size, target, timeout, ttl,
    version]

/-- The long form, without its dashes. -/
def long : Name → String
  | bind => "bind"
  | config => "config"
  | count => "count"
  | help => "help"
  | device => "interface"
  | interval => "interval"
  | log => "log"
  | rate => "rate"
  | single => "single"
  | size => "size"
  | target => "target"
  | timeout => "timeout"
  | ttl => "ttl"
  | version => "version"

/-- The letter of the short form. -/
def short? : Name → Option Char
  | config => some 'c'
  | count => some 'n'
  | help => some 'h'
  | device => some 'I'
  | interval => some 'i'
  | log => some 'l'
  | size => some 's'
  | timeout => some 'W'
  | ttl => some 't'
  | version => some 'v'
  | _ => none

/-- The option has no value. -/
def isFlag : Name → Bool
  | help => true
  | single => true
  | version => true
  | _ => false

/-- The option with a long form. -/
def ofLong? (text : String) : Option Name := all.find? fun name => name.long = text

/-- The option with a letter. -/
def ofShort? (letter : Char) : Option Name := all.find? fun name => name.short? = some letter

/-- The option as messages show it. -/
def shown (name : Name) : String := "--" ++ name.long

end Name

/-! ## 2. Splitting words into options -/

/-- An option with its value, empty for a flag. -/
abbrev Setting := Name × String

/-- The value of an option in the words after it. -/
def valueFrom (name : Name) : List String → Except OptionFault (String × List String)
  | [] => .error (.missingArgument name.shown)
  | word :: rest =>
    match word.toList with
    | ['-', letter] =>
      if (Name.ofShort? letter).isSome then .error (.missingArgument name.shown)
      else .ok (word, rest)
    | _ => .ok (word, rest)

/-- The option written by the part of a word after its two dashes, and the words left. -/
def longOption (text : List Char) (rest : List String) :
    Except OptionFault (Setting × List String) :=
  let label := String.ofList (text.takeWhile (· ≠ '='))
  match Name.ofLong? label, text.dropWhile (· ≠ '=') with
  | none, _ => .error (.unrecognised ("--" ++ label))
  | some name, [] =>
    if name.isFlag then .ok ((name, ""), rest)
    else (valueFrom name rest).map fun (value, rest) => ((name, value), rest)
  | some name, _ :: value =>
    if name.isFlag then .error (.unexpectedArgument name.shown)
    else .ok ((name, String.ofList value), rest)

/-- The options written by the letters after one dash, and the words left. -/
def shortOptions (rest : List String) :
    List Char → Except OptionFault (List Setting × List String)
  | [] => .ok ([], rest)
  | letter :: letters =>
    match Name.ofShort? letter with
    | none => .error (.unrecognised (String.ofList ['-', letter]))
    | some name =>
      if name.isFlag then
        (shortOptions rest letters).map fun (settings, rest) => ((name, "") :: settings, rest)
      else if letters = [] then
        (valueFrom name rest).map fun (value, rest) => ([(name, value)], rest)
      else .ok ([(name, String.ofList letters)], rest)

/-- Splits words into options.  Every round takes a word, so `fuel` of one for each is enough. -/
def splitWords : Nat → List String → Except OptionFault (List Setting)
  | _, [] => .ok []
  | 0, _ => .ok []
  | fuel + 1, word :: rest => do
    match word.toList with
    | ['-', '-'] => return rest.map fun target => (.target, target)
    | '-' :: '-' :: text =>
      let (setting, rest) ← longOption text rest
      return setting :: (← splitWords fuel rest)
    | '-' :: letter :: letters =>
      let (settings, rest) ← shortOptions rest (letter :: letters)
      return settings ++ (← splitWords fuel rest)
    | _ => return (.target, word) :: (← splitWords fuel rest)

/-! ## 3. Values -/

/-- What was said on the command line. -/
structure Options where
  bind : Option String := none
  config : Option String := none
  count : Option UInt32 := none
  help : Bool := false
  device : Option String := none
  interval : Option Int := none
  log : Option String := none
  rate : Option Nat := none
  single : Bool := false
  size : Option Nat := none
  targets : List String := []
  timeout : Option Int := none
  ttl : Option Int := none
  version : Bool := false
  deriving Repr

/-- A decimal number. -/
def decimal? (text : List Char) : Option Nat :=
  if text = [] ∨ !text.all Char.isDigit then none
  else some (text.foldl (fun value digit => value * 10 + (digit.toNat - '0'.toNat)) 0)

/-- A decimal number below `bound`. -/
def natural? (bound : Nat) (text : List Char) : Option Nat :=
  (decimal? text).filter fun n => n < bound

/-- A decimal number, perhaps with a minus, that a signed word of 32 bits holds. -/
def signed? (text : List Char) : Option Int :=
  let number : Option Int :=
    match text with
    | '-' :: digits => (decimal? digits).map fun n => -n
    | digits => (decimal? digits).map fun n => n
  number.filter Number.isInt32

/-- The value of an option that was not given before. -/
def once {α : Type} (name : Name) (before : Option α) (value : String)
    (read : List Char → Option α) : Except OptionFault (Option α) :=
  if before.isSome then .error (.repeated name.shown)
  else
    match read value.toList with
    | some found => .ok (some found)
    | none => .error (.invalidArgument value name.shown)

/-- A flag that was not given before. -/
def onceFlag (name : Name) (before : Bool) : Except OptionFault Bool :=
  if before then .error (.repeated name.shown) else .ok true

/-- A text as the value of an option. -/
def text? (value : List Char) : Option String := some (String.ofList value)

namespace Options

/-- Takes one option into account. -/
def store (options : Options) (setting : Setting) : Except OptionFault Options := do
  let (name, value) := setting
  match name with
  | .bind => return { options with bind := ← once name options.bind value text? }
  | .config => return { options with config := ← once name options.config value text? }
  | .count =>
    let read := fun digits => (natural? UInt32.size digits).map UInt32.ofNat
    return { options with count := ← once name options.count value read }
  | .help => return { options with help := ← onceFlag name options.help }
  | .device => return { options with device := ← once name options.device value text? }
  | .interval => return { options with interval := ← once name options.interval value signed? }
  | .log => return { options with log := ← once name options.log value text? }
  | .rate => return { options with rate := ← once name options.rate value (natural? UInt64.size) }
  | .single => return { options with single := ← onceFlag name options.single }
  | .size => return { options with size := ← once name options.size value (natural? UInt64.size) }
  | .target => return { options with targets := options.targets ++ [value] }
  | .timeout => return { options with timeout := ← once name options.timeout value signed? }
  | .ttl => return { options with ttl := ← once name options.ttl value signed? }
  | .version => return { options with version := ← onceFlag name options.version }

/-- What the words of a command line say. -/
def ofWords (words : List String) : Except OptionFault Options := do
  (← splitWords words.length words).foldlM store {}

end Options

end IcmpEcho.CommandLine
