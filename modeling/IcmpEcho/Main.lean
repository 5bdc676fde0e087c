/-
# The command

Runs the program in an engine whose network answers nothing.  The files that the command line
names are read before the run and written back after it if they have changed; then what the
engine logged and wrote is printed.
-/
import IcmpEcho.CommandLine.Program

namespace IcmpEcho.CommandLine

/-- The names of the files that the words of a command line mention. -/
def fileNames (words : List String) : List String :=
  match Options.ofWords words with
  | .ok options =>
    (options.config.toList ++ options.log.toList).filterMap fun path =>
      (Path.appendTarget (fun _ => false) path).toOption
  | .error _ => []

/-- The files with these names, as far as they can be read. -/
def readFiles (names : List String) : IO (List (String × String)) := do
  let mut files := []
  for name in names do
    try
      files := (name, ← IO.FS.readFile name) :: files
    catch _ =>
      pure ()
  return files

/-- Writes the files that have changed. -/
def writeFiles (before after : List (String × String)) : IO Unit := do
  for (name, text) in after do
    if before.lookup name ≠ some text then IO.FS.writeFile name text

/-- Prints what has happened: log lines to standard error, other lines to standard output. -/
def printOutcome (engine : Engine) : IO Unit := do
  for event in engine.journal.reverse do
    match event with
    | .log line => IO.eprintln line
    | _ => pure ()
  for line in engine.output.reverse do
    IO.println line

/-- A run of the command with these words; its exit status. -/
def execute (words : List String) : IO UInt32 := do
  let files ← readFiles (fileNames words)
  let (engine, status) := run { files } words
  writeFiles files engine.files
  printOutcome engine
  return UInt32.ofNat status

end IcmpEcho.CommandLine

def main (words : List String) : IO UInt32 := IcmpEcho.CommandLine.execute words
