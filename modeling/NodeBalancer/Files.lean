/-!
# Files

A path is walked from directory to directory, one name between slashes after the other.  It fails in
different ways: nothing has the name, a file stands where a directory should or the other way round,
or no file could ever have such a name.
-/

namespace NodeBalancer

inductive ReadError where
  | notFound
  | notADirectory
  | isADirectory
  | nameTooLong
  /-- No file can have a name that holds the character with code point zero. -/
  | badName
deriving DecidableEq

def ReadError.message : ReadError → String
  | notFound => "No such file or directory (os error 2)"
  | notADirectory => "Not a directory (os error 20)"
  | isADirectory => "Is a directory (os error 21)"
  | nameTooLong => "File name too long (os error 36)"
  | badName => "file name contained an unexpected NUL byte"

/-- What is found where a path leads. -/
abbrev Files := String → Except ReadError String

inductive FileTree where
  | file (text : String)
  | directory (entries : List (String × FileTree))

namespace FileTree

/-- The longest name of an entry, in bytes. -/
def maxNameLength : Nat := 255

/-- The longest path, in bytes. -/
def maxPathLength : Nat := 4095

def entry (entries : List (String × FileTree)) (name : String) : Except ReadError FileTree :=
  if maxNameLength < name.utf8ByteSize then .error .nameTooLong
  else
    match entries.lookup name with
    | some tree => .ok tree
    | none => .error .notFound

/-- Walks on from a tree, given those that it lies in, the innermost first.  An empty name and a dot
lead to the same place, two dots one level up; the outermost directory is its own parent. -/
def walk (above : List FileTree) (here : FileTree) : List String → Except ReadError FileTree
  | [] => .ok here
  | name :: names =>
    match here with
    | file _ => .error .notADirectory
    | directory entries =>
      if name = "" ∨ name = "." then walk above here names
      else if name = ".." then
        match above with
        | [] => walk [] here names
        | parent :: above => walk above parent names
      else
        match entry entries name with
        | .error error => .error error
        | .ok tree => walk (here :: above) tree names

/-- The file that a path leads to. -/
def read (root : FileTree) : Files := fun path =>
  if path.toList.contains '\x00' then .error .badName
  else if path = "" then .error .notFound
  else if maxPathLength < path.utf8ByteSize then .error .nameTooLong
  else
    match walk [] root (path.splitOn "/") with
    | .error error => .error error
    | .ok (file text) => .ok text
    | .ok (directory _) => .error .isADirectory

end FileTree

end NodeBalancer
