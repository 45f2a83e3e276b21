import EnumOrdering.Files.Path
import EnumOrdering.Source.Basic

/-!
# File trees

A file system as a value: directories, files and symbolic links under one
directory, which is the working directory. A path is followed name by name, a
link in place of its name; nothing outside the tree exists but an empty root.
-/

namespace EnumOrdering.Files

open Source (DirectoryEntry Content)

/-- What a name in a directory stands for. -/
inductive Node
  | file (content : Bytes)
  | directory (entries : List (Bytes × Node))
  | link (target : Bytes)
deriving Repr

/-- A file system, given by the entries of the working directory. -/
structure FileTree where
  entries : List (Bytes × Node)
deriving Repr

/-- Where a path leads: to the root outside of the tree, or to the end of a chain
of names in it. -/
inductive Place
  | outside
  | inside (names : List Bytes)
deriving Repr, DecidableEq

namespace FileTree

/-- The tree without entries. -/
def empty : FileTree := ⟨[]⟩

/-- What a chain of names leads to from a node. -/
def find? : Node → List Bytes → Option Node
  | node, [] => some node
  | .directory entries, name :: names =>
    match entries.lookup name with
    | some node => find? node names
    | none => none
  | .file _, _ :: _ => none
  | .link _, _ :: _ => none
termination_by _ names => names.length

/-- What a place holds. -/
def at? (t : FileTree) : Place → Option Node
  | .outside => some (.directory [])
  | .inside names => find? (.directory t.entries) names

/-- The place above a place. What is above the working directory is outside. -/
def above : Place → Place
  | .outside => .outside
  | .inside [] => .outside
  | .inside (name :: names) => .inside (name :: names).dropLast

/-- The place of a name in a place. -/
def below (name : Bytes) : Place → Place
  | .outside => .outside
  | .inside names => .inside (names ++ [name])

/-- Where a path begins. -/
def start (from_ : Place) (path : Bytes) : Place :=
  if path.head? = some slash then .outside else from_

/-- Follows names from a place, through at most `links` links. -/
def follow (t : FileTree) (links : Nat) (place : Place) : List Bytes → Except FileError Place
  | [] => .ok place
  | name :: names =>
    match t.at? place with
    | some (.directory entries) =>
      if name = [] || name = [0x2E] then t.follow links place names
      else if name = [0x2E, 0x2E] then t.follow links (above place) names
      else if 255 < name.length then .error .nameTooLong
      else
        match entries.lookup name with
        | none => .error .notFound
        | some (.link target) =>
          match links with
          | 0 => .error .tooManyLinks
          | links + 1 =>
            if target = [] then .error .notFound
            else t.follow links (start place target) (splitPath target ++ names)
        | some _ => t.follow links (below name place) names
    | _ => .error .notADirectory
termination_by names => (links, names.length)

/-- The number of links that are followed before giving up. -/
def maxLinks : Nat := 40

/-- Where a path leads. -/
def resolve (t : FileTree) (path : Bytes) : Except FileError Place :=
  if path.contains 0 then .error .nulByte
  else if path = [] then .error .notFound
  else if 4096 ≤ path.length then .error .nameTooLong
  else t.follow maxLinks (start (.inside []) path) (splitPath path)

/-- The bytes of a file. -/
def read (t : FileTree) (path : Bytes) : Except FileError Bytes :=
  match t.resolve path with
  | .error e => .error e
  | .ok place =>
    match t.at? place with
    | some (.file content) => .ok content
    | some (.directory _) => .error .isADirectory
    | _ => .error .notFound

/-- What a path holds for a loader, links followed. Every file of a tree can be read. -/
def content (t : FileTree) (path : Bytes) : Content :=
  match t.read path with
  | .ok bytes => .regular (.ok bytes)
  | .error _ => .other

/-- The entries of a directory. -/
def list (t : FileTree) (path : Bytes) : Except FileError (List DirectoryEntry) :=
  match t.resolve path with
  | .error e => .error e
  | .ok place =>
    match t.at? place with
    | some (.directory entries) => .ok (entries.map fun p => ⟨p.1, t.content (joinPath path p.1)⟩)
    | some (.file _) => .error .notADirectory
    | _ => .error .notFound

/-- What a load is given on a machine that has the tree and no network. -/
def environment (t : FileTree) : Source.Environment Id where
  read path := t.read path
  list path := t.list path
  fetch url := Source.offline url

/-! ## Changing a tree -/

/-- Puts a node under a name, in the place of any other. -/
def put (name : Bytes) (node : Node) : List (Bytes × Node) → List (Bytes × Node)
  | [] => [(name, node)]
  | (other, old) :: rest =>
    if other = name then (name, node) :: rest else (other, old) :: put name node rest

/-- Changes the entries at the end of a chain of names; directories on the way
are made where there are none. -/
def modify (change : List (Bytes × Node) → List (Bytes × Node)) :
    List Bytes → List (Bytes × Node) → List (Bytes × Node)
  | [], entries => change entries
  | name :: names, entries =>
    let inner :=
      match entries.lookup name with
      | some (.directory es) => es
      | _ => []
    put name (.directory (modify change names inner)) entries

/-- Where names lead from a place when directories are made where there are none:
a name that stands for nothing yet is gone into like a directory. -/
def destination (t : FileTree) (links : Nat) (place : Place) : List Bytes → Place
  | [] => place
  | name :: names =>
    if name = [] || name = [0x2E] then t.destination links place names
    else if name = [0x2E, 0x2E] then t.destination links (above place) names
    else
      match t.at? (below name place) with
      | some (.link target) =>
        match links with
        | 0 => .outside
        | links + 1 => t.destination links (start place target) (splitPath target ++ names)
      | _ => t.destination links (below name place) names
termination_by names => (links, names.length)

/-- Where a list of names leads from the beginning of a path. -/
def goal (t : FileTree) (path : Bytes) (names : List Bytes) : Place :=
  t.destination maxLinks (start (.inside []) path) names

/-- The tree with the entries of a directory changed. Outside of the tree nothing
changes. -/
def change (t : FileTree) (change : List (Bytes × Node) → List (Bytes × Node)) :
    Place → FileTree
  | .outside => t
  | .inside names => ⟨modify change names t.entries⟩

/-- The beginnings of a list of names that end before a step up. -/
def beforeStepsUp (names : List Bytes) : List (List Bytes) :=
  (List.range names.length).filterMap fun n =>
    if names[n]? = some [0x2E, 0x2E] then some (names.take n) else none

/-- Makes the directories that a path goes through before its steps up. -/
def makePassed (t : FileTree) (path : Bytes) (names : List Bytes) : FileTree :=
  (beforeStepsUp names).foldl (fun t passed => t.change id (t.goal path passed)) t

/-- The directory that a path lies in, and its last name. -/
def parent (t : FileTree) (path : Bytes) : Place × Bytes :=
  let names := (splitPath path).filter fun name => name ≠ [] && name ≠ [0x2E]
  (t.goal path names.dropLast, names.getLastD [])

/-- Writes a file, with the directories it needs. A link is written through. -/
def write (t : FileTree) (path content : Bytes) : FileTree :=
  let t := t.makePassed path (splitPath path)
  match t.goal path (splitPath path) with
  | .outside => t
  | .inside [] => t
  | .inside (name :: names) =>
    t.change (put ((name :: names).getLastD []) (.file content))
      (.inside (name :: names).dropLast)

/-- Makes a directory, with the directories it needs. -/
def makeDirectory (t : FileTree) (path : Bytes) : FileTree :=
  let t := t.makePassed path (splitPath path)
  t.change id (t.goal path (splitPath path))

/-- Makes a symbolic link. -/
def makeLink (t : FileTree) (path target : Bytes) : FileTree :=
  let (directory, name) := t.parent path
  t.change (put name (.link target)) directory

/-- Removes what a path names, with all it holds. A link is removed itself. -/
def remove (t : FileTree) (path : Bytes) : FileTree :=
  let (directory, name) := t.parent path
  t.change (List.filter fun p => p.1 ≠ name) directory

end FileTree

end EnumOrdering.Files
