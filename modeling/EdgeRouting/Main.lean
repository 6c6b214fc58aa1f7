import EdgeRouting.CommandLine.Run

/-!
# The program

Reads the files that the arguments name, runs, writes what changed and prints. It opens no socket:
an emulator that is ready is only reported.
-/

open EdgeRouting EdgeRouting.CommandLine

namespace EdgeRouting.Program

def logVariable : String := "RUST_LOG"

def pathsOf (arguments : List String) : List String × Option String :=
  match CommandLine.read arguments with
  | .run ⟨config, .compile out⟩ => ([config], out)
  | .run ⟨config, .preview bundle _ _⟩ => (config :: bundle.toList, none)
  | _ => ([], none)

/-- The places that a path leads through. They are directories if something can be read or written
at its end. -/
def placesOf (path : String) : List FilePath :=
  let start := FilePath.start path
  ((FilePath.names path).dropLast.foldl
    (fun (place, places) name => (place.step name, place.step name :: places)) (start, [start])).2

def readFiles (paths : List String) : IO (List (FilePath × List UInt8)) := do
  let mut entries := []
  for path in paths do
    try
      let bytes ← IO.FS.readBinFile path
      entries := (FilePath.ofText path, bytes.toList) :: entries
    catch _ => pure ()
  return entries

def writeOut (outcome : Outcome) (path : String) : IO Bool := do
  if outcome.exit ≠ 0 then return true
  match outcome.files.readBytes? path with
  | none => return true
  | some bytes =>
    try
      IO.FS.writeBinFile path (ByteArray.mk bytes.toArray)
      return true
    catch _ => return false

def report (outcome : Outcome) : IO Unit := do
  let stdout ← IO.getStdout
  let stderr ← IO.getStderr
  for report in outcome.reports do
    stderr.putStrLn report.text
  stdout.putStr outcome.stdout
  if let some failure := outcome.failure then
    stderr.putStrLn s!"Error: {failure.message}"
  if outcome.exit = 2 then
    stderr.putStr Page.program.text
  if outcome.ready.isSome then
    stderr.putStrLn "The emulator is ready; there is nothing to listen with."

end EdgeRouting.Program

open EdgeRouting.Program in
/-- The directories on the way to the file to write count as there until writing fails. -/
def main (arguments : List String) : IO UInt32 := do
  let asked ← IO.getEnv logVariable
  let (inputs, out) := pathsOf arguments
  let entries ← readFiles inputs
  let directories := inputs.flatMap placesOf
  let outcome :=
    run arguments asked { entries, directories := directories ++ out.toList.flatMap placesOf }
  let written ← match out with
    | some path => writeOut outcome path
    | none => pure true
  let outcome := if written then outcome else
    { run arguments asked { entries, directories } with exit := 1, failure := out.map .notWritten }
  report outcome
  return UInt32.ofNat outcome.exit
