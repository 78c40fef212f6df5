import Folio.Fault
import Folio.Files.Path

/-! A directory that is filled with files and then read. A file brings the folders above it along,
and nothing is ever put below a file. Which of two things is wrong with a path decides the error: a
file where a folder is needed is another matter than nothing at all. -/
namespace Folio.Files

inductive Entry where
  | folder
  | file (bytes : List UInt8)

/-- What is there under each path, in the order in which it came. The directory itself is no entry.
-/
abbrev Directory := List (Path × Entry)

namespace Directory

def entry? (directory : Directory) : Path → Option Entry
  | [] => some .folder
  | path => directory.lookup path

def holdsFile (directory : Directory) (path : Path) : Bool :=
  match directory.entry? path with
  | some (.file _) => true
  | _ => false

def isBlocked (directory : Directory) (path : Path) : Bool := path.above.any directory.holdsFile

def put (directory : Directory) (path : Path) (entry : Entry) : Directory :=
  match directory with
  | [] => [(path, entry)]
  | (other, old) :: rest =>
    if other == path then (path, entry) :: rest else (other, old) :: put rest path entry

def addFolder (directory : Directory) (path : Path) : Directory :=
  if (directory.entry? path).isSome then directory else directory.put path .folder

def checkPlace (directory : Directory) (path : Path) : Except Fault Unit :=
  if path.hasNull then .error .nullInPath
  else if directory.isBlocked path then .error (.refused .notFolder path.shown)
  else if path.hasLongName then .error (.refused .tooLong path.shown)
  else .ok ()

def makeFolder (directory : Directory) (path : Path) : Except Fault Directory := do
  directory.checkPlace path
  if directory.holdsFile path then .error (.refused .taken path.shown)
  else .ok ((path.above ++ [path]).foldl addFolder directory)

def write (directory : Directory) (path : Path) (bytes : List UInt8) : Except Fault Directory := do
  let directory ← directory.makeFolder path.dropLast
  directory.checkPlace path
  match directory.entry? path with
  | some .folder => .error (.refused .isFolder path.shown)
  | _ => .ok (directory.put path (.file bytes))

/-- An empty directory after files have been written to it, one after the other. -/
def ofFiles (files : List (String × List UInt8)) : Except Fault Directory :=
  files.foldlM (fun directory (path, bytes) => directory.write (Path.ofText path) bytes) []

def read? (directory : Directory) (path : Path) : Except Fault (Option (List UInt8)) :=
  match directory.entry? path with
  | some (.file bytes) => .ok (some bytes)
  | some .folder => .error (.refused .isFolder path.shown)
  | none =>
    if directory.isBlocked path then .error (.refused .notFolder path.shown) else .ok none

def namesIn (directory : Directory) (folder : Path) : List String :=
  (directory.filterMap fun (path, _) =>
    match path.getLast? with
    | some name => if path.dropLast == folder then some name else none
    | none => none).mergeSort fun left right => !decide (right < left)

end Directory
end Folio.Files
