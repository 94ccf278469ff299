import HiddenImports.Disk

/-!
# File trees

A `FileTree` is what lies in the working directory: files and directories by their relative paths. A path
is followed part by part from the working directory, or from the root if it begins with a slash; only a
directory can be left by a further part, and nothing but the working directory is known.
-/

namespace HiddenImports

/-- What a path can lead to. -/
inductive FileTree.Node where
  | file (content : ByteArray)
  | directory

/-- Files and directories by the parts of their paths. The directories on the way to an entry need no
entry of their own. -/
structure FileTree where
  entries : List (List String × FileTree.Node) := []

namespace FileTree

/-- The parts of a path between its slashes. -/
def parts (path : String) : List String :=
  (List.splitOn '/' path.toList).map String.ofList

/-- A part that leads nowhere. -/
def isIdle (part : String) : Bool := part == "" || part == "."

/-- The names on the way along a path. -/
def names (path : String) : List String := (parts path).filter (!isIdle ·)

/-- Adds a file or a directory. -/
def insert (tree : FileTree) (path : String) (node : Node) : FileTree :=
  ⟨tree.entries ++ [(names path, node)]⟩

/-- What lies at the end of some parts. -/
def node? (tree : FileTree) (path : List String) : Option Node :=
  match tree.entries.find? (·.1 == path) with
  | some (_, node) => some node
  | none =>
    if path.isEmpty || tree.entries.any (path.isPrefixOf ·.1) then some .directory else none

/-- Where one is on the way along a path. -/
inductive Place where
  | inside (path : List String) (node : Node)
  /-- A directory outside the working directory. -/
  | outside

/-- The longest name of a file, in bytes. -/
def longestName : Nat := 255

/-- The longest path, in bytes. -/
def longestPath : Nat := 4095

/-- One part further along a path. -/
def step (tree : FileTree) (place : Place) (part : String) : Except ReadError Place :=
  match place with
  | .inside _ (.file _) => .error .notDirectory
  | .inside path .directory =>
    if isIdle part then .ok place
    else if part = ".." then
      if path.isEmpty then .ok .outside else .ok (.inside path.dropLast .directory)
    else if part.utf8ByteSize > longestName then .error .nameTooLong
    else
      match tree.node? (path ++ [part]) with
      | some node => .ok (.inside (path ++ [part]) node)
      | none => .error .notFound
  | .outside =>
    if isIdle part || part = ".." then .ok place
    else if part.utf8ByteSize > longestName then .error .nameTooLong
    else .error .notFound

/-- Where a path starts. -/
def start (path : String) : Place :=
  if path.toList.head? = some '/' then .outside else .inside [] .directory

/-- The content of the file at the end of a path. -/
def read (tree : FileTree) (path : String) : Except ReadError ByteArray :=
  if path.toList.contains '\x00' then .error .nullInPath
  else if path = "" then .error .notFound
  else if path.utf8ByteSize > longestPath then .error .nameTooLong
  else
    match (parts path).foldlM tree.step (start path) with
    | .error cause => .error cause
    | .ok (.inside _ (.file content)) => .ok content
    | .ok _ => .error .isDirectory

/-- The tree as a disk. -/
def disk (tree : FileTree) : Disk := ⟨tree.read⟩

end FileTree

end HiddenImports
