import EnumOrdering.Definition
import EnumOrdering.Files.Path
import EnumOrdering.Store

/-!
# Definitions in files

A directory gives one enumeration for each of its regular files, under the name
of the file; whatever else it holds is passed over. Either every file gives its
enumeration, or the directory gives none at all.
-/

namespace EnumOrdering.Source

open Files (FileError joinPath)

/-- What an entry of a directory holds, symbolic links followed. -/
inductive Content
  /-- A regular file: its bytes, or why they cannot be read. -/
  | regular (bytes : Except FileError Bytes)
  /-- A directory, a device, a link that leads nowhere. -/
  | other

/-- An entry of a directory. -/
structure DirectoryEntry where
  name : Bytes
  content : Content

/-- The mapping of a file. -/
def fileMapping (path : Bytes) (bytes : Except FileError Bytes) : Except Failure Mapping :=
  match bytes with
  | .error e => .error (.sourceUnavailable (Bytes.display path) e.message)
  | .ok bytes => Mapping.parse (Bytes.display path) bytes

/-- The enumeration of a single file under a given name. -/
def loadFile (path : Bytes) (name : String) (bytes : Except FileError Bytes) : Load :=
  ⟨(fileMapping path bytes).map fun m => EnumerationSet.empty.insert name m, []⟩

/-- The named mappings of the regular files among the entries of a directory. -/
def fileMappings (directory : Bytes) :
    List DirectoryEntry → Except Failure (List (String × Mapping))
  | [] => .ok []
  | entry :: rest =>
    match entry.content with
    | .other => fileMappings directory rest
    | .regular bytes =>
      match fileMapping (joinPath directory entry.name) bytes with
      | .error e => .error e
      | .ok m =>
        match fileMappings directory rest with
        | .error e => .error e
        | .ok others => .ok ((Bytes.display entry.name, m) :: others)

/-- The events of the entries that are passed over. -/
def skippedEntries (directory : Bytes) (entries : List DirectoryEntry) : List Event :=
  entries.filterMap fun entry =>
    match entry.content with
    | .regular _ => none
    | .other => some (.skipped (joinPath directory entry.name))

/-- The enumerations of a directory, given its entries or why it cannot be
listed. -/
def loadDirectory (directory : Bytes) (listing : Except FileError (List DirectoryEntry)) : Load :=
  match listing with
  | .error e => ⟨.error (.sourceUnavailable (Bytes.display directory) e.message), []⟩
  | .ok entries =>
    ⟨(fileMappings directory entries).map EnumerationSet.ofList,
      skippedEntries directory entries⟩

end EnumOrdering.Source
