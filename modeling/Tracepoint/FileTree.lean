/-!
Files held in memory, and why reading one fails.
-/

namespace Tracepoint

inductive ReadFailure
  | notFound
  | isDirectory
  | notDirectory
  | nameTooLong
  | nulInName
  | invalidText
  | other (reason : String)
  deriving DecidableEq, Repr

def ReadFailure.reason : ReadFailure → String
  | .notFound => "No such file or directory (os error 2)"
  | .isDirectory => "Is a directory (os error 21)"
  | .notDirectory => "Not a directory (os error 20)"
  | .nameTooLong => "File name too long (os error 36)"
  | .nulInName => "file name contained an unexpected NUL byte"
  | .invalidText => "stream did not contain valid UTF-8"
  | .other reason => reason

abbrev Place := List String

def Place.ofPath (path : String) : Place :=
  (path.splitOn "/").filter fun name => name != "" && name != "."

structure FileTree where
  /-- Files with their bytes.  Their directories exist without being named. -/
  files : List (Place × ByteArray) := []
  directories : List Place := []

namespace FileTree

def addFile (path : String) (content : ByteArray) (tree : FileTree) : FileTree :=
  { tree with files := (.ofPath path, content) :: tree.files }

def addDirectory (path : String) (tree : FileTree) : FileTree :=
  { tree with directories := .ofPath path :: tree.directories }

def file? (tree : FileTree) (place : Place) : Option ByteArray := tree.files.lookup place

def hasDirectory (tree : FileTree) (place : Place) : Bool :=
  place.isEmpty || tree.directories.any place.isPrefixOf ||
    tree.files.any fun file => place.isPrefixOf file.1 && place != file.1

def nameLimit : Nat := 255

def pathLimit : Nat := 4095

def isMove (name : String) : Bool := name == "" || name == "." || name == ".."

/-- Looks for a path in what lies around the tree: directories to pass through, and no names. -/
def outside (names : List String) : ReadFailure :=
  match names.find? (!isMove ·) with
  | none => .isDirectory
  | some name => if nameLimit < name.utf8ByteSize then .nameTooLong else .notFound

def follow (tree : FileTree) (directory : Place) : List String → Except ReadFailure ByteArray
  | [] => .error .isDirectory
  | name :: names =>
    if name == "" || name == "." then tree.follow directory names
    else if name == ".." then
      if directory.isEmpty then .error (outside names) else tree.follow directory.dropLast names
    else if nameLimit < name.utf8ByteSize then .error .nameTooLong
    else
      let place := directory ++ [name]
      match tree.file? place with
      | some content => if names.isEmpty then .ok content else .error .notDirectory
      | none =>
        if tree.hasDirectory place then tree.follow place names else .error .notFound

/-- The bytes of the file at a path, which begins at the top of the tree unless it is absolute. -/
def read (tree : FileTree) (path : String) : Except ReadFailure ByteArray :=
  if path.toList.contains '\x00' then .error .nulInName
  else if pathLimit < path.utf8ByteSize then .error .nameTooLong
  else if path.startsWith "/" then .error (outside (path.splitOn "/"))
  else tree.follow [] (path.splitOn "/")

end FileTree

end Tracepoint
