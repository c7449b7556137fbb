import StagePipeline.Text.Bytes

/-!
# File trees

A tree of folders and files, in which one folder is the current one.  Paths are
texts in which `/` separates names, and lead from the current folder or, if they
begin with `/`, from the root.  An empty name and `.` stay where they are and
`..` goes up, all of them only from a folder; above the root is the root itself.
-/

namespace StagePipeline

/-- Why a file operation failed. -/
inductive FileError where
  | notFound
  | isFolder
  | notFolder
  | invalidName
  | nameTooLong
  | invalidText
  deriving DecidableEq, Repr

/-- What stands under a name of a tree. -/
inductive FileEntry where
  | folder
  | file (content : ByteArray)

instance : DecidableEq FileEntry
  | .folder, .folder => .isTrue rfl
  | .folder, .file _ => .isFalse (by simp)
  | .file _, .folder => .isFalse (by simp)
  | .file left, .file right =>
    match ByteArray.instDecidableEq left right with
    | .isTrue same => .isTrue (congrArg FileEntry.file same)
    | .isFalse different => .isFalse fun same => different (FileEntry.file.inj same)

/-- The entries of a tree, each under the names that lead to it from the root.  The current folder
and the folders around it need no entry. -/
structure FileTree where
  entries : List (List String × FileEntry) := []
  current : List String := []
  deriving DecidableEq, Inhabited

namespace FileTree

/-- Where a path leads. -/
inductive Place where
  | folder (names : List String)
  | file (names : List String) (content : ByteArray)
  | absent (names : List String)

/-- What the names lead to. -/
def placeOf (tree : FileTree) (names : List String) : Place :=
  if names.isPrefixOf tree.current then .folder names
  else match tree.entries.lookup names with
    | some .folder => .folder names
    | some (.file content) => .file names content
    | none => .absent names

/-- Put an entry under some names, in place of the one that was there. -/
def put (tree : FileTree) (names : List String) (entry : FileEntry) : FileTree :=
  if (tree.entries.lookup names).isSome then
    { tree with
      entries := tree.entries.map fun (other, old) =>
        (other, if other = names then entry else old) }
  else { tree with entries := tree.entries ++ [(names, entry)] }

/-- Follow one name of a path. -/
def enter (tree : FileTree) (place : Place) (name : String) : Except FileError Place :=
  match place with
  | .absent _ => .error .notFound
  | .file _ _ => .error .notFolder
  | .folder names =>
    if name.isEmpty || name = "." then .ok (.folder names)
    else if name = ".." then .ok (.folder names.dropLast)
    else if name.utf8ByteSize > 255 then .error .nameTooLong
    else .ok (tree.placeOf (names ++ [name]))

/-- Follow the names of a path from a place. -/
def follow (tree : FileTree) (place : Place) : List String → Except FileError Place
  | [] => .ok place
  | name :: rest =>
    match tree.enter place name with
    | .error error => .error error
    | .ok next => tree.follow next rest

/-- The names of a path between its slashes. -/
def namesOf (path : List Char) : List (List Char) :=
  path.foldr (fun character names =>
    if character = '/' then [] :: names
    else match names with
      | [] => [[character]]
      | name :: rest => (character :: name) :: rest) [[]]

/-- The folder that a path starts from. -/
def start (tree : FileTree) (path : String) : Place :=
  .folder (if path.startsWith "/" then [] else tree.current)

/-- What is wrong with a path apart from where it leads: it has a character that no name has, or
more than 4095 bytes. -/
def pathError? (path : String) : Option FileError :=
  if path.toList.contains '\x00' then some .invalidName
  else if 4096 ≤ path.utf8ByteSize then some .nameTooLong
  else none

/-- Where a path leads. -/
def resolve (tree : FileTree) (path : String) : Except FileError Place :=
  match pathError? path with
  | some error => .error error
  | none =>
    if path.isEmpty then .error .notFound
    else tree.follow (tree.start path) ((namesOf path.toList).map String.ofList)

/-- The bytes of a file. -/
def read (tree : FileTree) (path : String) : Except FileError ByteArray :=
  match tree.resolve path with
  | .error error => .error error
  | .ok (.file _ content) => .ok content
  | .ok (.absent _) => .error .notFound
  | .ok (.folder _) => .error .isFolder

/-- The text of a file. -/
def readText (tree : FileTree) (path : String) : Except FileError String :=
  match tree.read path with
  | .error error => .error error
  | .ok content =>
    match String.fromUTF8? content with
    | some text => .ok text
    | none => .error .invalidText

/-- Make the folders that some names lead through and to, from a place on. -/
def makeFoldersFrom (tree : FileTree) (place : Place) :
    List String → Option FileError × FileTree
  | [] => (none, tree)
  | name :: rest =>
    match tree.enter place name with
    | .error error => (some error, tree)
    | .ok (.absent names) => makeFoldersFrom (tree.put names .folder) (.folder names) rest
    | .ok (.file _ _) => (some .notFolder, tree)
    | .ok next => makeFoldersFrom tree next rest

/-- Make the folder that a path leads to and all folders on the way. -/
def makeFolders (tree : FileTree) (path : String) : Option FileError × FileTree :=
  match pathError? path with
  | some error => (some error, tree)
  | none =>
    if path.isEmpty then (none, tree)
    else tree.makeFoldersFrom (tree.start path) ((namesOf path.toList).map String.ofList)

/-- Write a file, in place of the one that was there. -/
def write (tree : FileTree) (path : String) (content : ByteArray) :
    Option FileError × FileTree :=
  match tree.resolve path with
  | .error error => (some error, tree)
  | .ok (.file names _) | .ok (.absent names) => (none, tree.put names (.file content))
  | .ok (.folder _) => (some .isFolder, tree)

/-- The path of a name inside a folder. -/
def join (folder name : String) : String :=
  if folder.isEmpty then name
  else if folder.endsWith "/" then folder ++ name
  else folder ++ "/" ++ name

/-- The files in the current folder, each under its path from there. -/
def files (tree : FileTree) : List (String × ByteArray) :=
  tree.entries.filterMap fun (names, entry) =>
    match entry with
    | .folder => none
    | .file content =>
      (tree.current.isPrefixOf? names).map fun rest => (String.intercalate "/" rest, content)

end FileTree

end StagePipeline
