import CallAudio.Files

/-! # Trees of files

A store of files that lives in memory and keeps the rules of a disk: a file stands in a directory
that exists, and no directory stands where a file does. Names and paths have a greatest length, in
bytes. A relative path begins at the root.
-/

namespace CallAudio

/-- Files and directories by the names that lead to them, in one text with slashes between the
names. The root is not listed. -/
structure FileTree where
  files : List (String × String)
  directories : List String

namespace FileTree

def empty : FileTree := ⟨[], []⟩

/-- The text of the names that lead to a place. No name holds a slash, so it tells places apart. -/
def key (place : List String) : String := "/".intercalate place

def isDirectory (tree : FileTree) (place : List String) : Bool :=
  place = [] || key place ∈ tree.directories

def content? (tree : FileTree) (place : List String) : Option String :=
  tree.files.lookup (key place)

def fits (name : String) : Bool := name.utf8ByteSize ≤ 255

/-- Whether a path can be followed at all. It may hold no null character, and must be short. -/
def passable (path : Path) : Bool :=
  path.text.utf8ByteSize ≤ 4095 && !path.text.toList.contains '\x00'

/-- Follows a path from `place`. Two points lead from a directory to the one around it. -/
def follow (tree : FileTree) (place : List String) : List String → Option (List String)
  | [] => some place
  | name :: names =>
    if name = ".." then
      if tree.isDirectory place then tree.follow place.dropLast names else none
    else tree.follow (place ++ [name]) names

/-- Where a path leads if it can belong to a file: it may not end in a slash or in points. -/
def place? (tree : FileTree) (path : Path) : Option (List String) :=
  match (Path.pieces path.text.toList).getLast? with
  | some last =>
    if !passable path || last ∈ [[], ['.'], ['.', '.']] then none else tree.follow [] path.names
  | none => none

def read (tree : FileTree) (path : Path) : Except FileError String :=
  match (tree.place? path).bind tree.content? with
  | some content => .ok content
  | none => .error (.notReadable path)

def put (tree : FileTree) (place : List String) (content : String) : FileTree :=
  { tree with files := (key place, content) :: tree.files.filter (·.1 ≠ key place) }

def write (tree : FileTree) (path : Path) (content : String) : Except FileError Unit × FileTree :=
  match tree.place? path with
  | some place =>
    if tree.isDirectory place.dropLast && !tree.isDirectory place && place.all fits then
      (.ok (), tree.put place content)
    else (.error (.notWritable path), tree)
  | none => (.error (.notWritable path), tree)

def makeAlong (tree : FileTree) (place : List String) : List String → Bool × FileTree
  | [] => (true, tree)
  | name :: names =>
    if name = ".." then tree.makeAlong place.dropLast names
    else
      let place := place ++ [name]
      if (tree.content? place).isSome || !fits name then (false, tree)
      else if tree.isDirectory place then tree.makeAlong place names
      else { tree with directories := key place :: tree.directories }.makeAlong place names

def endsInPoint (path : Path) : Bool :=
  (Path.pieces path.text.toList).reverse.find? (· ≠ []) = some ['.']

/-- Makes a directory and those around it. A point at the end is no name to make a directory with,
so what stands before it has to be there once the directories around that are made. -/
def createDirectory (tree : FileTree) (path : Path) : Except FileError Unit × FileTree :=
  if !passable path then (.error (.noDirectory path), tree)
  else
    let names := if endsInPoint path then path.names.dropLast else path.names
    let (made, tree) := tree.makeAlong [] names
    if made && (tree.follow [] path.names).any tree.isDirectory then (.ok (), tree)
    else (.error (.noDirectory path), tree)

instance : FileStore (StateM FileTree) where
  read path := do return (← get).read path
  write path content := modifyGet (·.write path content)
  contains path := do
    let tree ← get
    return ((tree.place? path).bind tree.content?).isSome
  createDirectory path := modifyGet (·.createDirectory path)

end FileTree

end CallAudio
