import Ambient.Files.Basic

namespace Ambient

/-!
# Trees of files

A file system in memory: what is at each location, and the location that paths
start from. There are no links, so every location has one name.
-/

/-- The names on the way from the root to a file or directory. -/
abbrev Location := List String

/-- What can be at a location. -/
inductive Node
  | file (content : ByteArray)
  | directory
  /-- A device that takes what is written to it and holds nothing. -/
  | sink

structure FileTree where
  nodes : List (Location × Node) := []
  workingDirectory : Location := []

namespace FileTree

/-- What is at a location. The root is always a directory. -/
def node? (tree : FileTree) (location : Location) : Option Node :=
  if location = [] then some .directory else tree.nodes.lookup location

/-- Locations and what is at them, with `node` at `location`: in the place of what
was there, or at the end. -/
def putNode (location : Location) (node : Node) : List (Location × Node) → List (Location × Node)
  | [] => [(location, node)]
  | entry :: rest =>
    if entry.1 = location then (location, node) :: rest else entry :: putNode location node rest

/-- The tree with `node` at `location`. -/
def put (tree : FileTree) (location : Location) (node : Node) : FileTree :=
  { tree with nodes := putNode location node tree.nodes }

theorem lookup_putNode (location other : Location) (node : Node)
    (nodes : List (Location × Node)) :
    (putNode location node nodes).lookup other =
      if other = location then some node else nodes.lookup other := by
  induction nodes with
  | nil =>
    by_cases h : other = location
    · simp [putNode, h]
    · have hb : (other == location) = false := by simpa using h
      simp [putNode, List.lookup_cons, h, hb]
  | cons entry rest ih =>
    obtain ⟨place, found⟩ := entry
    by_cases hp : place = location
    · subst hp
      by_cases ho : other = place
      · simp [putNode, ho]
      · have hb : (other == place) = false := by simpa using ho
        simp [putNode, List.lookup_cons, ho, hb]
    · by_cases ho : other = place
      · subst ho
        simp [putNode, hp]
      · have hb : (other == place) = false := by simpa using ho
        simp [putNode, List.lookup_cons, hp, ih, hb]

/-- What is at a location after something has been put somewhere. -/
theorem node?_put (tree : FileTree) (location other : Location) (node : Node)
    (h : location ≠ []) :
    (tree.put location node).node? other =
      if other = location then some node else tree.node? other := by
  by_cases ho : other = []
  · subst ho
    simp [node?, Ne.symm h]
  · simp [node?, put, ho, lookup_putNode]

/-- From a location along one piece of a path. -/
def enter (tree : FileTree) (location : Location) (piece : String) : Except FileError Location :=
  match tree.node? location with
  | none => .error .notFound
  | some .directory =>
    if piece = "" ∨ piece = "." then .ok location
    else if piece = ".." then .ok location.dropLast
    else if (tree.node? (location ++ [piece])).isSome then .ok (location ++ [piece])
    else .error .notFound
  | some _ => .error .notDirectory

/-- Where a path starts, and its pieces from there. -/
def route (tree : FileTree) (path : Path) : Location × List String :=
  match path.pieces with
  | "" :: rest => ([], rest)
  | pieces => (tree.workingDirectory, pieces)

/-- The location that a path leads to. The empty path leads nowhere. -/
def locate (tree : FileTree) (path : Path) : Except FileError Location :=
  if path.text = "" then .error .notFound
  else
    let (start, pieces) := tree.route path
    pieces.foldlM tree.enter start

/-- The directory that a path leads into, and the last piece of the path. -/
def locateParent (tree : FileTree) (path : Path) : Except FileError (Location × String) := do
  if path.text = "" then throw .notFound
  let (start, pieces) := tree.route path
  let directory ← pieces.dropLast.foldlM tree.enter start
  let directory ← tree.enter directory "."
  return (directory, pieces.getLast?.getD "")

/-- What a path leads to. -/
def nodeAt (tree : FileTree) (path : Path) : Except FileError Node := do
  let location ← tree.locate path
  match tree.node? location with
  | some node => return node
  | none => throw .notFound

def isFile (tree : FileTree) (path : Path) : Bool :=
  match tree.nodeAt path with
  | .ok (.file _) => true
  | _ => false

def isDirectory (tree : FileTree) (path : Path) : Bool :=
  match tree.nodeAt path with
  | .ok .directory => true
  | _ => false

def read (tree : FileTree) (path : Path) : Except FileError ByteArray := do
  match ← tree.nodeAt path with
  | .file content => return content
  | .sink => return .empty
  | .directory => throw .isDirectory

/-- The names from a directory to a location below it. -/
def namesBelow? : Location → Location → Option (List String)
  | [], names => some names
  | _ :: _, [] => none
  | a :: rest, b :: names => if a = b then namesBelow? rest names else none

/-- The path of the file at a location, if it is a file below a directory that
has been reached by a path. -/
def fileBelow? (directory : Location) (path : Path) (entry : Location × Node) : Option Path :=
  match entry.2, namesBelow? directory entry.1 with
  | .file _, some names => some (names.foldl Path.join path)
  | _, _ => none

def filesBelow (tree : FileTree) (path : Path) : Except FileError (List Path) := do
  let directory ← tree.locate path
  return tree.nodes.filterMap (fileBelow? directory path)

def canonical (tree : FileTree) (path : Path) : Except FileError Path := do
  let location ← tree.locate path
  return ⟨"/" ++ "/".intercalate location⟩

/-- Whether a piece of a path names something inside a directory. -/
def isName (piece : String) : Bool := piece != "" && piece != "." && piece != ".."

def makeDirectory (tree : FileTree) (path : Path) : Except FileError FileTree := do
  let (directory, name) ← tree.locateParent path
  if !isName name || (tree.node? (directory ++ [name])).isSome then throw .alreadyExists
  return tree.put (directory ++ [name]) .directory

def write (tree : FileTree) (path : Path) (text : String) : Except FileError FileTree := do
  let (directory, name) ← tree.locateParent path
  if !isName name then throw .isDirectory
  match tree.node? (directory ++ [name]) with
  | some .directory => throw .isDirectory
  | some .sink => return tree
  | _ => return tree.put (directory ++ [name]) (.file text.toUTF8)

/-- The tree with directories at a location and above it, as far as nothing is
there. -/
def withDirectories (tree : FileTree) (location : Location) : FileTree :=
  let above := (List.range (location.length + 1)).map location.take
  (above.filter fun l => (tree.node? l).isNone).foldl (fun t l => t.put l .directory) tree

/-- The tree with a file, and with the directories that it is in. -/
def withFile (tree : FileTree) (location : Location) (content : ByteArray) : FileTree :=
  (tree.withDirectories location.dropLast).put location (.file content)

/-- Changes the tree if that succeeds. -/
def update (f : FileTree → Except FileError FileTree) : StateM FileTree (Except FileError Unit) :=
  fun tree => match f tree with
    | .ok changed => (.ok (), changed)
    | .error e => (.error e, tree)

instance : FileAccess (StateM FileTree) where
  isFile path tree := (tree.isFile path, tree)
  isDirectory path tree := (tree.isDirectory path, tree)
  read path tree := (tree.read path, tree)
  filesBelow path tree := (tree.filesBelow path, tree)
  canonical path tree := (tree.canonical path, tree)
  makeDirectory path := update (·.makeDirectory path)
  write path text := update (·.write path text)

end FileTree

end Ambient
