import EnumOrdering.Text.Utf8

/-!
# Paths

A path is a string of bytes in which slashes separate names. What can go wrong
with it is told in the words of the operating system.
-/

namespace EnumOrdering.Files

/-- Why a file or a directory could not be read. -/
inductive FileError
  | notFound
  | notADirectory
  | isADirectory
  | nameTooLong
  | tooManyLinks
  | nulByte
  /-- Anything else, as it is told. -/
  | other (text : String)
deriving Repr, DecidableEq

/-- The wording of an error. -/
def FileError.message : FileError → String
  | .notFound => "No such file or directory (os error 2)"
  | .notADirectory => "Not a directory (os error 20)"
  | .isADirectory => "Is a directory (os error 21)"
  | .nameTooLong => "File name too long (os error 36)"
  | .tooManyLinks => "Too many levels of symbolic links (os error 40)"
  | .nulByte => "file name contained an unexpected NUL byte"
  | .other text => text

abbrev slash : UInt8 := 0x2F

/-- The names between the slashes of a path. Doubled and outer slashes have empty
names beside them. -/
def splitPath : Bytes → List Bytes
  | [] => [[]]
  | b :: rest =>
    if b = slash then [] :: splitPath rest
    else
      match splitPath rest with
      | [] => [[b]]
      | name :: names => (b :: name) :: names

/-- The path of a name in a directory. -/
def joinPath (directory name : Bytes) : Bytes :=
  match directory.getLast? with
  | none => name
  | some b => if b = slash then directory ++ name else directory ++ slash :: name

end EnumOrdering.Files
