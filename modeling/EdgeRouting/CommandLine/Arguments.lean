/-!
# Arguments

Arguments are read from left to right, and the first that settles the matter does: a call for help,
a fault or a command. A value that stands by itself is looked at only when the next option or the
end is reached, and in front of a command only after the command: help on a command is given
whatever the last such value says.
-/

namespace EdgeRouting.CommandLine

inductive Command
  | compile (out : Option String)
  | preview (bundle bind origin : Option String)
  deriving DecidableEq, Repr

structure Arguments where
  config : String
  command : Command
  deriving DecidableEq, Repr

inductive Page
  | program | compile | preview | help
  deriving DecidableEq, Repr

inductive Reading
  | run (arguments : Arguments)
  | help (page : Page)
  | fault
  deriving DecidableEq, Repr

/-- An option that takes a value. A path may not be empty. -/
structure OptionForm where
  long : String
  short : Option Char := none
  isPath : Bool := false
  deriving DecidableEq, Repr

inductive Token
  | word
  | help
  | attached (form : OptionForm) (value : String)
  | detached (form : OptionForm)
  | unknown
  deriving DecidableEq, Repr

namespace Token

def ofLong (forms : List OptionForm) (text : List Char) : Token :=
  let name := String.ofList (text.takeWhile (· != '='))
  match text.dropWhile (· != '='), forms.find? (·.long = name) with
  | [], some form => .detached form
  | _ :: value, some form => .attached form (String.ofList value)
  | [], none => if name = "help" then .help else .unknown
  | _ :: _, none => .unknown

def ofShort (forms : List OptionForm) (c : Char) (text : List Char) : Token :=
  match forms.find? (·.short = some c), text with
  | some form, [] => .detached form
  | some form, '=' :: value => .attached form (String.ofList value)
  | some form, value => .attached form (String.ofList value)
  | none, _ => if c = 'h' then .help else .unknown

/-- A lone hyphen is a word. -/
def ofText (forms : List OptionForm) (text : String) : Token :=
  match text.toList with
  | '-' :: '-' :: name => ofLong forms name
  | '-' :: c :: rest => ofShort forms c rest
  | _ => .word

end Token

/-- A value of its own may not look like an option. -/
def isValue (text : String) : Bool :=
  match text.toList with
  | '-' :: _ :: _ => false
  | _ => true

inductive Ending
  | finished
  | word (text : String) (rest : List String)
  | help
  | fault
  deriving DecidableEq, Repr

abbrev Values := List (String × String)

def take? (values : Values) (form : OptionForm) (value : String) : Option Values :=
  if (values.lookup form.long).isSome || (form.isPath && value = "") then none
  else some (values ++ [(form.long, value)])

/-- The options that were read. The last value may still wait to be looked at. -/
structure Taken where
  values : Values := []
  waiting : Option (OptionForm × String) := none
  deriving DecidableEq, Repr

def Taken.settle? (taken : Taken) : Option Values :=
  match taken.waiting with
  | none => some taken.values
  | some (form, value) => take? taken.values form value

/-- Reads the options in front. Behind two hyphens no option may follow. -/
def readOptions (forms : List OptionForm) (taken : Taken) : List String → Taken × Ending
  | [] => (taken, .finished)
  | text :: rest =>
    if text = "--" then (taken, if rest.isEmpty then .finished else .fault)
    else match Token.ofText forms text, taken.settle? with
      | .word, _ => (taken, .word text rest)
      | .help, some _ => (taken, .help)
      | .attached form value, some values =>
        match take? values form value with
        | some values => readOptions forms { values } rest
        | none => (taken, .fault)
      | .detached form, some values =>
        match rest with
        | value :: rest =>
          if isValue value then readOptions forms { values, waiting := some (form, value) } rest
          else (taken, .fault)
        | [] => (taken, .fault)
      | _, _ => (taken, .fault)

def programForms : List OptionForm := [{ long := "config", short := some 'c', isPath := true }]

def compileForms : List OptionForm := [{ long := "out", short := some 'o', isPath := true }]

def previewForms : List OptionForm :=
  [{ long := "bundle", isPath := true }, { long := "bind" }, { long := "origin" }]

inductive CommandReading
  | run (command : Command)
  | help (page : Page)
  | fault
  deriving DecidableEq, Repr

def readForms (forms : List OptionForm) (page : Page) (command : Values → Command)
    (rest : List String) : CommandReading :=
  match readOptions forms {} rest with
  | (_, .help) => .help page
  | (taken, .finished) =>
    match taken.settle? with
    | some values => .run (command values)
    | none => .fault
  | _ => .fault

def Page.ofName? (name : String) : Option Page :=
  if name = "compile" then some .compile
  else if name = "preview" then some .preview
  else if name = "help" then some .help
  else none

def readHelp : List String → CommandReading
  | [] => .help .program
  | [name] => ((Page.ofName? name).map .help).getD .fault
  | _ => .fault

def readCommand (name : String) (rest : List String) : CommandReading :=
  if name = "compile" then
    readForms compileForms .compile (fun values => .compile (values.lookup "out")) rest
  else if name = "preview" then
    readForms previewForms .preview (fun values =>
      .preview (values.lookup "bundle") (values.lookup "bind") (values.lookup "origin")) rest
  else if name = "help" then readHelp rest
  else .fault

def read (arguments : List String) : Reading :=
  match readOptions programForms {} arguments with
  | (_, .help) => .help .program
  | (taken, .word name rest) =>
    match readCommand name rest, taken.settle? with
    | .help page, _ => .help page
    | .run command, some values => .run ⟨(values.lookup "config").getD "edge.toml", command⟩
    | _, _ => .fault
  | _ => .fault

end EdgeRouting.CommandLine
