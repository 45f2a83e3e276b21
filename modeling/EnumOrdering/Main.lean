import EnumOrdering.CommandLine.Run

/-!
# The program

The command line over the files of the machine. Documents of the web cannot be
fetched and calls cannot be served, for there is no network here.
-/

namespace EnumOrdering.Main

open Files (FileError joinPath)
open Source (Content DirectoryEntry Environment)

/-- Why the machine refuses, in the words of the library. -/
def fileError : IO.Error → FileError
  | .noFileOrDirectory .. => .notFound
  | .inappropriateType _ code _ => if code = 20 then .notADirectory else .isADirectory
  | e => .other (toString e)

/-- The outcome of an action that may fail. -/
def attempt {α : Type} (action : IO α) : IO (Except FileError α) := do
  match ← action.toBaseIO with
  | .ok a => return .ok a
  | .error e => return .error (fileError e)

/-- The bytes of a file. -/
def readFile (path : Bytes) : IO (Except FileError Bytes) :=
  attempt do return (← IO.FS.readBinFile (Bytes.display path)).toList

/-- What an entry of a directory holds. -/
def readContent (path : Bytes) : IO Content := do
  let read : IO (Except FileError Bytes × Bool) := do
    let found ← IO.FS.realPath (Bytes.display path)
    let isFile := (← found.metadata).type matches .file
    return (← readFile path, isFile)
  match ← read.toBaseIO with
  | .ok (bytes, true) => return .regular bytes
  | _ => return .other

/-- The entries of a directory. -/
def listDirectory (path : Bytes) : IO (Except FileError (List DirectoryEntry)) :=
  attempt do
    let directory ← IO.FS.realPath (Bytes.display path)
    (← directory.readDir).toList.mapM fun entry => do
      let name := Bytes.ofText entry.fileName
      return ⟨name, ← readContent (joinPath path name)⟩

/-- The machine as the environment of a load. -/
def machine : Environment IO where
  read := readFile
  list := listDirectory
  fetch url := return Source.offline url

/-- The usual file of the configuration. -/
def usualConfig : IO Bytes := do
  let home := (← IO.getEnv "HOME").getD ""
  let base := (← IO.getEnv "XDG_CONFIG_HOME").getD (home ++ "/.config")
  return Bytes.ofText (base ++ "/enum-rank/config.toml")

end EnumOrdering.Main

open EnumOrdering in
/-- Runs the program. -/
def main (args : List String) : IO UInt32 := do
  match ← CommandLine.run Main.machine (← Main.usualConfig) (args.map Bytes.ofText) with
  | .ended o =>
    IO.print o.output
    IO.eprint o.errors
    return UInt32.ofNat o.exit
  | .listening _ _ _ address =>
    IO.eprintln s!"Error: cannot listen at {address.text}: no network"
    return 1
