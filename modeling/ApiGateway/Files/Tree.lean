import ApiGateway.Error
import ApiGateway.Text.Chars

/-!
# A tree of files

The files that the gateway works with, as a value: what lies at a path, what a
reader finds there, and the tree after a file was written or extended. A path is
followed name by name from the root or from the working directory, through
directories, their parents and symbolic links, so that different paths may lead
to one place. Files are plain ones that every reader and writer is allowed to
use, each at one place, and there is always room for what is written.
-/

namespace ApiGateway

/-- What lies at a place. -/
inductive FileEntry where
  | file (content : ByteArray)
  | directory
  | link (target : String)

/-- Files, directories and links by their names from the root. -/
structure FileTree where
  /-- Where paths start that do not start at the root. -/
  workingDirectory : List String
  entries : List (List String × FileEntry)

namespace FileTree

def empty : FileTree := ⟨[], []⟩

/-- The names on a path; repeated slashes say nothing. -/
def components (path : String) : List String :=
  ((Text.splitOn '/' path.toList).map String.ofList).filter fun name => !name.isEmpty

/-- The steps that a path takes: its names, and a dot for a slash at its end, which asks for a
directory as the dot does. -/
def steps (path : String) : List String :=
  components path ++ if path.endsWith "/" then ["."] else []

/-- A tree with these entries by their paths from the working directory. -/
def ofEntries (workingDirectory : List String) (entries : List (String × FileEntry)) :
    FileTree where
  workingDirectory
  entries := entries.map fun (path, entry) => (workingDirectory ++ components path, entry)

/-- The entry of exactly these names; what lies above an entry is a directory. -/
def entryAt? (tree : FileTree) (names : List String) : Option FileEntry :=
  if names.isPrefixOf tree.workingDirectory then some .directory
  else match tree.entries.lookup names with
    | some entry => some entry
    | none =>
      if tree.entries.any fun (other, _) => names.isPrefixOf other then some .directory else none

/-- The longest name and the longest path, in bytes. -/
def maxNameSize : Nat := 255

def maxPathSize : Nat := 4095

/-- No path leads through more symbolic links than this. -/
def maxLinks : Nat := 40

/-- Where a path starts that is read in a directory. -/
def start (directory : List String) (path : String) : List String :=
  if path.startsWith "/" then [] else directory

/-- Where a name leads from a directory. The root is its own parent. -/
def step (directory : List String) (name : String) : List String :=
  if name = "." then directory
  else if name = ".." then directory.dropLast
  else directory ++ [name]

/-- Follow steps from a place; where a link is met, `onward` follows its target and the steps
behind it. -/
def follow (tree : FileTree) (onward : List String → List String → Except IoError (List String)) :
    List String → List String → Except IoError (List String)
  | place, [] => .ok place
  | place, name :: rest =>
    match tree.entryAt? place with
    | none => .error .notFound
    | some .directory =>
      if maxNameSize < name.utf8ByteSize then .error .nameTooLong
      else match tree.entryAt? (step place name) with
        | some (.link target) => onward (start place target) (steps target ++ rest)
        | _ => tree.follow onward (step place name) rest
    | some _ => .error .notDirectory

/-- Follow steps through at most so many links. -/
def walk (tree : FileTree) : Nat → List String → List String → Except IoError (List String)
  | 0 => tree.follow fun _ _ => .error .linkLoop
  | links + 1 => tree.follow (tree.walk links)

/-- Follow steps from where a path starts. -/
def resolve (tree : FileTree) (path : String) (steps : List String) :
    Except IoError (List String) :=
  if path.toList.contains '\x00' then .error .nulInName
  else if path.isEmpty then .error .notFound
  else if maxPathSize < path.utf8ByteSize then .error .nameTooLong
  else tree.walk maxLinks (start tree.workingDirectory path) steps

/-- Where a path leads. -/
def locate (tree : FileTree) (path : String) : Except IoError (List String) :=
  tree.resolve path (steps path)

/-- What lies at a path, or why nothing can be reached there. -/
def lookup (tree : FileTree) (path : String) : Except IoError FileEntry :=
  match tree.locate path with
  | .error error => .error error
  | .ok place =>
    match tree.entryAt? place with
    | some entry => .ok entry
    | none => .error .notFound

/-- Can the path be reached? -/
def check (tree : FileTree) (path : String) : Except IoError Unit :=
  (tree.lookup path).map fun _ => ()

/-- The bytes of a file. -/
def readBytes (tree : FileTree) (path : String) : Except IoError ByteArray :=
  match tree.lookup path with
  | .error error => .error error
  | .ok (.file content) => .ok content
  | .ok _ => .error .isDirectory

/-- The text of a file. -/
def readText (tree : FileTree) (path : String) : Except IoError String :=
  match tree.readBytes path with
  | .error error => .error error
  | .ok content =>
    match String.fromUTF8? content with
    | some text => .ok text
    | none => .error .invalidUtf8

/-- The tree with a file at a place. -/
def put (place : List String) (content : ByteArray) (tree : FileTree) : FileTree :=
  { tree with
    entries := (tree.entries.filter fun (other, _) => other ≠ place) ++ [(place, .file content)] }

/-- The place of the file that writing to a path goes to, with its present content. Nothing is
written where a directory is asked for, if there is a place for one. -/
def writable (tree : FileTree) (path : String) : Except IoError (List String × ByteArray) :=
  if path.endsWith "/" then
    match tree.resolve path ((components path).dropLast ++ ["."]) with
    | .error error => .error error
    | .ok _ => .error .isDirectory
  else match tree.locate path with
    | .error error => .error error
    | .ok place =>
      match tree.entryAt? place with
      | some (.file content) => .ok (place, content)
      | none => .ok (place, .empty)
      | some _ => .error .isDirectory

/-- The tree after a file was written anew. -/
def write (tree : FileTree) (path : String) (content : ByteArray) : Except IoError FileTree :=
  (tree.writable path).map fun (place, _) => put place content tree

/-- The tree after bytes were added to a file, which is created when it is missing. -/
def append (tree : FileTree) (path : String) (content : ByteArray) : Except IoError FileTree :=
  (tree.writable path).map fun (place, present) => put place (present ++ content) tree

end FileTree

end ApiGateway
