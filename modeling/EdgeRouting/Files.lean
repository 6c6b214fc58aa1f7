import EdgeRouting.Text.Utf8

/-!
# Files

The files around a working directory, by path. A directory is there if it is known to be, or if a
file is below it. A path is followed name by name, and what a name is looked up in has to be a
directory.
-/

namespace EdgeRouting

inductive FileError
  | missing
  | notText
  deriving DecidableEq, Repr

def FileError.message : FileError → String
  | .missing => "IO error: No such file or directory (os error 2)"
  | .notText => "IO error: stream did not contain valid UTF-8"

/-- The names that lead to a place from the working directory, first those that lead up. A place
below the root has an empty first name. -/
abbrev FilePath := List String

namespace FilePath

def names (text : String) : List String :=
  (text.toList.splitOn '/').map String.ofList

def start (text : String) : FilePath :=
  if text.startsWith "/" then [""] else []

/-- The root is above itself. -/
def parent (path : FilePath) : FilePath :=
  if path = [""] then path
  else if path.all (· == "..") then path ++ [".."]
  else path.dropLast

/-- The place that a name leads to. No name and a dot lead nowhere else. -/
def step (path : FilePath) (name : String) : FilePath :=
  if name = "" || name = "." then path
  else if name = ".." then path.parent
  else path ++ [name]

def ofText (text : String) : FilePath :=
  (names text).foldl step (start text)

/-- What is written here is gone, and nothing can be read. -/
def null : FilePath := ["", "dev", "null"]

end FilePath

/-- The text of a file's bytes, where none stands for a file that is not there. -/
def readText : Option (List UInt8) → Except FileError String
  | none => .error .missing
  | some bytes => match Utf8.decode? bytes with
    | some text => .ok text
    | none => .error .notText

structure Files where
  entries : List (FilePath × List UInt8)
  directories : List FilePath := []

namespace Files

def maxNameSize : Nat := 255

def find? (files : Files) (path : FilePath) : Option (List UInt8) :=
  if path = .null then some [] else (files.entries.find? (·.1 = path)).map (·.2)

/-- The directories above the working directory and above the null file are always there. -/
def isDirectory (files : Files) (path : FilePath) : Bool :=
  path.all (· == "..") || path = [""] || path = FilePath.null.parent
    || files.directories.contains path
    || files.entries.any fun (file, _) => path.isPrefixOf file && path ≠ file

/-- Follows a path. So a path with a slash at its end leads to a directory or to nothing. -/
def locate? (files : Files) (text : String) : Option FilePath :=
  (FilePath.names text).foldlM
    (fun path name =>
      if files.isDirectory path && name.utf8ByteSize ≤ maxNameSize then some (path.step name)
      else none)
    (FilePath.start text)

def readBytes? (files : Files) (path : String) : Option (List UInt8) :=
  (files.locate? path).bind files.find?

def read (files : Files) (path : String) : Except FileError String :=
  readText (files.readBytes? path)

def write? (files : Files) (path text : String) : Option Files := do
  let target ← files.locate? path
  if files.isDirectory target then none
  else if target = .null then return files
  else
    let others := files.entries.filter (·.1 ≠ target)
    return { files with entries := (target, Utf8.encode text) :: others }

end Files

end EdgeRouting
