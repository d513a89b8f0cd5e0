import AgentRuns.File.Path
import AgentRuns.Text.Breaks

/-!
# File trees

A file tree holds files and folders by their places. A place is the list of
names that leads from the root to it, without points. Every folder on the way to
a file or a folder exists by itself.

Looking up a path walks it: each step but the last must lead from a folder, and
a double point leads back from a folder that is there. A path whose text is longer
than the system takes leads nowhere. A path is resolved without looking by
cancelling names against double points.
-/

namespace AgentRuns

/-- The canonical names that lead from the root to a file or a folder. -/
abbrev Place := List Text

/-- The place that a segment leads to from the place of a folder. -/
def Place.enter (place : Place) (segment : Text) : Place :=
  if segment == ".." then place.dropLast else place ++ [FileName.canonical segment]

/-- The place that a path is written from: the folder `here`, or the root. -/
def Path.origin (path : Path) (here : Place) : Place :=
  if path.root = .relative then here else []

/-- The most octets of a path's text that the system takes. -/
def maxPathOctets : Nat := 4095

/-- Files with their content, and folders. -/
structure FileTree where
  folders : List Place := []
  files : List (Place × Bytes) := []

namespace FileTree

/-- The content of the file at a place. -/
def content? (tree : FileTree) (place : Place) : Option Bytes := tree.files.lookup place

/-- Whether there is a file at the place. -/
def isFileAt (tree : FileTree) (place : Place) : Bool := (tree.content? place).isSome

/-- Whether there is a folder at the place: one of its own, or one on the way to
    something else. -/
def isFolderAt (tree : FileTree) (place : Place) : Bool :=
  !tree.isFileAt place &&
    (place.isEmpty || tree.folders.any place.isPrefixOf ||
      tree.files.any fun (other, _) => place.isPrefixOf other)

/-- The place that the segments lead to from a place, if every step leads from a
    folder. -/
def walk? (tree : FileTree) (place : Place) : List Text → Option Place
  | [] => some place
  | segment :: rest =>
    if tree.isFolderAt place then walk? tree (place.enter segment) rest else none

/-- The place of a path that is written from the folder `here`. -/
def locate? (tree : FileTree) (here : Place) (path : Path) : Option Place :=
  if maxPathOctets < (FileName.encode path.text).length then none
  else tree.walk? (path.origin here) path.segments

/-- The content of the file that a path leads to. -/
def read? (tree : FileTree) (here : Place) (path : Path) : Option Bytes :=
  (tree.locate? here path).bind tree.content?

/-- Whether a path leads to a file. -/
def isFile (tree : FileTree) (here : Place) (path : Path) : Bool :=
  (tree.read? here path).isSome

/-- Whether a path leads to a folder. -/
def isFolder (tree : FileTree) (here : Place) (path : Path) : Bool :=
  match tree.locate? here path with
  | some place => tree.isFolderAt place
  | none => false

/-- The name under which a place stands in a folder, if it stands right there or
    below. -/
def nameBelow? (folder place : Place) : Option Text :=
  (folder.isPrefixOf? place).bind List.head?

/-- The names in a folder, each once and in the order of their characters. -/
def names (tree : FileTree) (folder : Place) : List Text :=
  let places := tree.folders ++ tree.files.map (·.1)
  ((places.filterMap (nameBelow? folder)).eraseDups).mergeSort Text.le

/-- The names of the folders in the folder that a path leads to. -/
def foldersIn (tree : FileTree) (here : Place) (path : Path) : List Text :=
  match tree.locate? here path with
  | some folder => (tree.names folder).filter fun name => tree.isFolderAt (folder ++ [name])
  | none => []

/-- The tree with a folder at a place and with all folders on the way. -/
def addFolder (tree : FileTree) (place : Place) : FileTree :=
  { tree with folders := tree.folders ++ [place] }

/-- The tree with this content in the file at a place. -/
def putFile (tree : FileTree) (place : Place) (content : Bytes) : FileTree :=
  { tree with files := tree.files.filter (·.1 != place) ++ [(place, content)] }

/-- The tree without the file at a place. Its folder stays. -/
def removeFile (tree : FileTree) (place : Place) : FileTree :=
  { folders := tree.folders ++ [place.dropLast]
    files := tree.files.filter (·.1 != place) }

/-- The tree without the file that a path leads to. -/
def remove (tree : FileTree) (here : Place) (path : Path) : FileTree :=
  match tree.locate? here path with
  | some place => tree.removeFile place
  | none => tree

/-- Every folder that the segments lead through, made where it is missing. -/
def makeFolders (tree : FileTree) (place : Place) : List Text → FileTree × Place
  | [] => (tree, place)
  | segment :: rest =>
    makeFolders (tree.addFolder (place.enter segment)) (place.enter segment) rest

/-- The tree with the folder of a path and all folders on the way, and the place of
    that folder. -/
def makeFolder (tree : FileTree) (here : Place) (path : Path) : FileTree × Place :=
  tree.makeFolders (path.origin here) path.segments

/-- The tree with this content in the file of a path, whose folders are made. -/
def write (tree : FileTree) (here : Place) (path : Path) (content : Bytes) : FileTree :=
  let (tree, folder) := tree.makeFolder here path.parent
  tree.putFile (folder ++ [FileName.canonical path.name]) content

/-- The absolute path without double points of a path written from `here`. -/
def resolve (here : Place) (path : Path) : Except PathError Path :=
  path.wellFormed.map fun path =>
    ⟨.absolute, path.segments.foldl Place.enter (path.origin here)⟩

end FileTree

end AgentRuns
