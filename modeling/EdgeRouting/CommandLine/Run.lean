import EdgeRouting.Bundle.Decode
import EdgeRouting.Bundle.Encode
import EdgeRouting.CommandLine.Help
import EdgeRouting.Config.Reader
import EdgeRouting.Emulator
import EdgeRouting.Files
import EdgeRouting.Log.Filter
import EdgeRouting.Text.Scan

/-!
# Running the program

A run goes from arguments and files to what is written. Its steps stop at the first failure; what
was noted before it stays noted.
-/

namespace EdgeRouting.CommandLine

inductive Failure
  | file (reason : FileError)
  | config (reason : Config.Fault)
  | rule (reason : CompileError)
  | bundle (reason : LoadError)
  | notWritten (path : String)
  | notAnAddress (text : String)
  | origin (reason : Emulator.InvalidOrigin)
  | filter
  deriving DecidableEq, Repr

def Failure.message : Failure → String
  | .file reason => reason.message
  | .config .malformed => "Parse error"
  | .config (.invalid errors) => ConfigError.summary errors
  | .rule reason => reason.message
  | .bundle reason => reason.message?.getD "Invalid bundle"
  | .notWritten path => s!"cannot write '{path}'"
  | .notAnAddress text => s!"invalid socket address '{text}'"
  | .origin reason => reason.message
  | .filter => "a directive for the log would be cut within a character"

def Failure.exit : Failure → Nat
  | .filter => 101
  | _ => 1

inductive Report
  | notice (notice : Notice)
  | warning (diagnostic : Diagnostic)
  deriving DecidableEq

namespace Report

def text : Report → String
  | .notice n => n.line
  | .warning d => s!"warning: {d.message}"

/-- The line that makes a notice known as one. A line end in a value ends it. -/
def logLine? : Report → Option String
  | .notice n => (Scan.lines n.line).head?
  | .warning _ => none

def otherLines : Report → List String
  | .notice n => (Scan.lines n.line).drop 1
  | report => Scan.lines report.text

end Report

structure Progress where
  reports : List Report := []
  stdout : String := ""
  files : Files

abbrev Step := ExceptT Failure (StateM Progress)

namespace Step

def report (reports : List Report) : Step Unit :=
  modify fun progress => { progress with reports := progress.reports ++ reports }

def note (notices : List Notice) : Step Unit :=
  report (notices.map .notice)

def print (text : String) : Step Unit :=
  modify fun progress => { progress with stdout := progress.stdout ++ text }

def require {ε α : Type} (failure : ε → Failure) (result : Except ε α) : Step α :=
  ExceptT.mk (pure (result.mapError failure))

def read (path : String) : Step String := do
  require .file ((← get).files.read path)

def write (path text : String) : Step Unit := do
  match (← get).files.write? path text with
  | some files => modify fun progress => { progress with files }
  | none => throw (.notWritten path)

def address (text : String) : Step SocketAddress :=
  match SocketAddress.ofText? text with
  | some address => pure address
  | none => throw (.notAnAddress text)

def build (config : Config) : Step Build := do
  let build ← require .rule config.build
  note build.notices
  return build

def compile (config : Config) (out : Option String) : Step Unit := do
  let build ← build config
  report (build.diagnostics.map .warning)
  match out with
  | some path =>
    write path build.bundle.write
    note [.bundleWritten path]
  | none => print (build.bundle.write ++ "\n")

def bundle (config : Config) : Option String → Step Bundle
  | some path => do require .bundle (Bundle.load (← read path))
  | none => Build.bundle <$> build config

def preview (config : Config) (path : Option String) : Step Emulator := do
  let bundle ← bundle config path
  if config.observability.metricsEnabled then
    note [.metricsListening (← address config.observability.metricsAddress).text]
  note [.listening (← address config.preview.bindAddress).text config.preview.origin]
  require .origin (Emulator.ofBundle bundle config.preview)

end Step

def override (config : Config) (bind origin : Option String) : Config :=
  { config with preview := { config.preview with
      bindAddress := bind.getD config.preview.bindAddress
      origin := origin.getD config.preview.origin } }

def Command.run (config : Config) : Command → Step (Option Emulator)
  | .compile out => do
    Step.compile config out
    return none
  | .preview bundle bind origin => do
    return some (← Step.preview (override config bind origin) bundle)

def loadConfig (files : Files) (path : String) : Except Failure Config := do
  (Config.parse (← (files.read path).mapError .file)).mapError .config

structure Outcome where
  exit : Nat
  stdout : String := ""
  reports : List Report := []
  failure : Option Failure := none
  files : Files
  ready : Option Emulator := none

namespace Outcome

def failed (failure : Failure) (files : Files) : Outcome :=
  { exit := failure.exit, failure := some failure, files }

def log (outcome : Outcome) : List String :=
  outcome.reports.filterMap Report.logLine?

def otherLines (outcome : Outcome) : List String :=
  outcome.reports.flatMap Report.otherLines

end Outcome

/-- Warnings show always. -/
def Report.shows (filter : Filter) : Report → Bool
  | .notice n => filter.shows n
  | .warning _ => true

def Arguments.runWith (arguments : Arguments) (config : Config) (filter : Filter) (files : Files) :
    Outcome :=
  let (result, progress) := (arguments.command.run config).run.run
    { reports := [.notice (.configurationLoaded arguments.config)], files }
  let outcome : Outcome :=
    { exit := 0, stdout := progress.stdout, reports := progress.reports.filter (Report.shows filter)
      files := progress.files }
  match result with
  | .ok ready => { outcome with ready }
  | .error failure => { outcome with exit := failure.exit, failure := some failure }

/-- Loads the configuration and runs the command. The log shows what the configuration lets show,
unless it is asked for by directives. -/
def Arguments.run (arguments : Arguments) (asked : Option String) (files : Files) : Outcome :=
  match loadConfig files arguments.config with
  | .error failure => .failed failure files
  | .ok config =>
    match config.observability.filter? asked with
    | none => .failed .filter files
    | some filter => arguments.runWith config filter files

def run (arguments : List String) (asked : Option String) (files : Files) : Outcome :=
  match read arguments with
  | .fault => { exit := 2, files }
  | .help page => { exit := 0, stdout := page.text, files }
  | .run arguments => arguments.run asked files

end EdgeRouting.CommandLine
