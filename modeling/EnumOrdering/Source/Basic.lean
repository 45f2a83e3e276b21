import EnumOrdering.Source.Directory
import EnumOrdering.Source.Remote

/-!
# Sources

Enumerations come from a directory with one file for each of them, from a single
file with one enumeration under a chosen name, or from a document of the web.
What a load gives depends on the environment: files, directories and answers of
the web, asked for in any monad.
-/

namespace EnumOrdering

/-- Where enumerations come from. -/
inductive Source
  | directory (path : Bytes)
  | file (path : Bytes) (name : String)
  /-- A document of the web, with the seconds that it may take. -/
  | url (address : String) (timeout : UInt64)
deriving Repr, DecidableEq

namespace Source

open Files (FileError)

/-- What a load may ask for. -/
structure Environment (m : Type → Type) where
  /-- The bytes of a file. -/
  read : Bytes → m (Except FileError Bytes)
  /-- The entries of a directory. -/
  list : Bytes → m (Except FileError (List DirectoryEntry))
  /-- The answer at a URL. -/
  fetch : Url → m Exchange

/-- The name of a source in reports and in the log. -/
def describe : Source → String
  | .directory path => s!"directory {Bytes.display path}"
  | .file path name => s!"file {Bytes.display path} as {name}"
  | .url address _ => s!"url {address}"

/-- Loads a source. -/
def load {m : Type → Type} [Monad m] (env : Environment m) : Source → m Load
  | .directory path => do return loadDirectory path (← env.list path)
  | .file path name => do return loadFile path name (← env.read path)
  | .url address _ =>
    match requestUrl address with
    | .error fault => return loadBody address (.error fault)
    | .ok target => do return loadBody address (exchangeBody target (← env.fetch target))

end Source

end EnumOrdering
