/-! Paths as rows of names. A path is tidied by its look alone: names that lead nowhere are left
out, and a step upwards takes back the name before it. -/
namespace Folio.Files

abbrev Path := List String

namespace Path

/-- The names between slashes; `current` holds the characters of the name under way, last first. -/
def split (current : List Char) : List Char → List String
  | [] => [String.ofList current.reverse]
  | c :: rest =>
    if c == '/' then String.ofList current.reverse :: split [] rest else split (c :: current) rest

/-- Goes through names from the top; `kept` holds those kept so far, last first. -/
def tidyNames (kept : List String) : List String → Path
  | [] => kept.reverse
  | name :: rest =>
    if name == "" || name == "." then tidyNames kept rest
    else if name == ".." then tidyNames (kept.drop 1) rest
    else tidyNames (name :: kept) rest

def ofText (text : String) : Path := tidyNames [] (split [] text.toList)

def text (path : Path) : String := "/".intercalate path

/-- The slashes a path starts with. Exactly two of them have a meaning of their own and stay; any
other number stands for one. -/
def lead (text : List Char) : String :=
  match (text.takeWhile (· == '/')).length with
  | 0 => ""
  | 2 => "//"
  | _ => "/"

def tidied (text : String) : String := lead text.toList ++ (ofText text).text

/-- The most bytes in a whole path as it is opened. -/
def longest : Nat := 4095

def root : String := "<static_dir>"

def shown (path : Path) : String := "/".intercalate (root :: path)

def longestName : Nat := 255

def hasLongName (path : Path) : Bool := path.any fun name => longestName < name.utf8ByteSize

def hasNull (path : Path) : Bool := path.any fun name => name.toList.contains '\x00'

def above : Path → List Path
  | [] => []
  | name :: rest => [] :: (above rest).map (name :: ·)

end Path
end Folio.Files
