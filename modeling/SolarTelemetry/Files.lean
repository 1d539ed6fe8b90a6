/-!
# Directory trees

A tree holds directories and text files. A text names a place by the names that lead to it from the
root, if it begins with a slash, or from a directory to start in. Opening a file to append to it
makes the directories on the way and the file itself where they are missing; it fails where a file
stands in the way of a directory or a directory in the place of the file.
-/

namespace SolarTelemetry

inductive Files where
  | file (contents : String)
  /-- A directory and what stands in it under each name. -/
  | directory (entries : List (String × Files))

namespace Files

/-- What stands at a path. -/
def get? : Files → List String → Option Files
  | files, [] => some files
  | .file _, _ :: _ => none
  | .directory entries, name :: path => (entries.lookup name).bind (get? · path)

/-- The entry under a name, which is an empty directory where there is none. -/
def child (files : Files) (name : String) : Files := (files.get? [name]).getD (.directory [])

/-- What stands beside a name. -/
def others (files : Files) (name : String) : List (String × Files) :=
  match files with
  | .file _ => []
  | .directory entries => entries.filter (·.1 != name)

/-- Puts a tree at a path, in the place of what stands there. -/
def put (files : Files) (path : List String) (tree : Files) : Files :=
  match path with
  | [] => tree
  | name :: path => .directory ((name, (files.child name).put path tree) :: files.others name)

/-- The text of the file at a path, which is empty where there is none. -/
def contents (files : Files) (path : List String) : String :=
  match files.get? path with
  | some (.file text) => text
  | _ => ""

/-- The longest name a directory can hold, in octets. -/
def maxName : Nat := 255

/-- The longest text that can name a place, in octets. -/
def maxText : Nat := 4095

def isName (name : String) : Bool := name.utf8ByteSize ≤ maxName

def isText (text : String) : Bool := text.utf8ByteSize ≤ maxText && !text.toList.contains '\x00'

/-- The directory one step down or up from another, unless a file is in the way. One that is missing
is made. -/
def enter (files : Files) (here : List String) (name : String) : Option (List String × Files) :=
  if name = ".." then some (here.dropLast, files)
  else if !isName name then none
  else
    let path := here ++ [name]
    match files.get? path with
    | some (.directory _) => some (path, files)
    | some (.file _) => none
    | none => some (path, files.put path (.directory []))

/-- The directory that names lead to, unless a file is in the way. What was made on the way to it
stays. -/
def enterAll (files : Files) (here : List String) : List String → Option (List String) × Files
  | [] => (some here, files)
  | name :: names =>
    match files.enter here name with
    | some (here, files) => files.enterAll here names
    | none => (none, files)

/-- Whether a name leads nowhere. -/
def isSkipped (name : String) : Bool := name == "" || name == "."

/-- The names before those that lead nowhere at the end. -/
def trim (names : List String) : List String := (names.reverse.dropWhile isSkipped).reverse

/-- The names that lead to the directory of what some names lead to. -/
def parent (names : List String) : List String := trim (trim names).dropLast

/-- The directory of what names lead to, made if it is missing. Nothing is made unless the text of
its names can name a place. -/
def enterParent (files : Files) (here names : List String) : Option (List String) × Files :=
  if isText ("/".intercalate (parent names)) then
    files.enterAll here ((parent names).filter (!isSkipped ·))
  else (none, files)

def namesFile (name : String) : Bool := !isSkipped name && name != ".." && isName name

/-- Opens the file of a name in a directory. -/
def openIn (files : Files) (here : List String) (name : String) : Option (List String) × Files :=
  let path := here ++ [name]
  match files.get? path with
  | some (.directory _) => (none, files)
  | some (.file _) => (some path, files)
  | none => (some path, files.put path (.file ""))

/-- Opens the file that a text names, to append to it. -/
def openFile (files : Files) (here : List String) (text : String) : Option (List String) × Files :=
  let names := text.splitOn "/"
  match files.enterParent (if text.startsWith "/" then [] else here) names with
  | (none, files) => (none, files)
  | (some place, files) =>
    match names.getLast?.filter namesFile with
    | some name => if isText text then files.openIn place name else (none, files)
    | none => (none, files)

end Files

end SolarTelemetry
