import EnumOrdering.Files.Path
import EnumOrdering.Mismatch

/-!
# Why a configuration is refused

A configuration may be unreadable, no TOML, TOML of another shape, or of the
right shape and still useless. What is wrong with the shape has a place in the
text, unless it concerns something that is only implied by other parts.
-/

namespace EnumOrdering.Config

/-- What can be wrong with the shape of a configuration. -/
inductive Problem
  | mismatch (m : Mismatch)
  /-- A name that is none of those to choose from. -/
  | unknownVariant (name : String) (choices : List String)
  /-- A choice that is neither a text nor a table. -/
  | noChoice
  /-- A choice by a table without entries. -/
  | noElement
  /-- A choice by a table with more than one entry. -/
  | manyElements
  /-- A table with entries where an empty one is wanted. -/
  | filledTable
  /-- Repeated tables where an empty table is wanted. -/
  | filledArray
  /-- Something else where an empty table is wanted. -/
  | noTable (kind : String)
  /-- A text that is no socket address. -/
  | socketAddress
deriving Repr, DecidableEq

/-- Names to choose from, in the words of a message. -/
def choicesText (choices : List String) : String :=
  let quoted := choices.map fun name => "`" ++ name ++ "`"
  match quoted with
  | [] => "none"
  | [a] => a
  | [a, b] => a ++ " or " ++ b
  | all => "one of " ++ ", ".intercalate all

/-- The wording of a problem. -/
def Problem.message : Problem → String
  | .mismatch m => m.message
  | .unknownVariant name choices =>
    "unknown variant `" ++ name ++ "`, expected " ++ choicesText choices
  | .noChoice => "wanted string or table"
  | .noElement => "wanted exactly 1 element, found 0 elements"
  | .manyElements => "wanted exactly 1 element, more than 1 element"
  | .filledTable => "expected empty table"
  | .filledArray => "expected empty array"
  | .noTable kind => "expected table, found " ++ kind
  | .socketAddress => "invalid socket address syntax"

/-- A problem with its place, which is the number of characters that follow it. -/
structure Fault where
  problem : Problem
  place : Option Nat
deriving Repr, DecidableEq

namespace Fault

/-- A mismatch whose place is still to be told. -/
def ofMismatch (m : Mismatch) : Fault := ⟨.mismatch m, none⟩

/-- The fault with a place, where it had none. -/
def atPlace (place : Option Nat) (f : Fault) : Fault := { f with place := f.place.or place }

end Fault

/-- Why a configuration of the right shape is of no use. -/
inductive Invalid
  | directoryPath
  | filePath
  | fileName
  | urlScheme
  | urlTimeout
deriving Repr, DecidableEq

/-- The wording of what is of no use. -/
def Invalid.message : Invalid → String
  | .directoryPath => "directory source needs a path"
  | .filePath => "file source needs a path"
  | .fileName => "file source needs an enumeration name"
  | .urlScheme => "url source needs an http(s) url"
  | .urlTimeout => "url source timeout must be positive"

/-- A place in a text for a person: a line and a column, both counted from 1. -/
structure Position where
  line : Nat
  column : Nat
deriving Repr, DecidableEq

/-- The place before the last `left` characters of a text. -/
def Position.before (text : String) (left : Nat) : Position :=
  let front := text.toList.take (text.length - left)
  { line := front.count '\n' + 1
    column := (front.reverse.takeWhile (· ≠ '\n')).length + 1 }

/-- Why a configuration is refused. -/
inductive Refusal
  | unreadable (path : Bytes) (reason : String)
  | syntaxFault (position : Position)
  | shape (position : Option Position) (problem : Problem)
  | invalid (why : Invalid)
deriving Repr, DecidableEq

namespace Refusal

/-- The lines that tell what is wrong with a text and where. -/
def placed (position : Position) (message : String) : String :=
  s!"TOML parse error at line {Decimal.natText position.line},"
    ++ s!" column {Decimal.natText position.column}\n{message}"

/-- The wording of a refusal. -/
def message : Refusal → String
  | .unreadable path reason => s!"failed to read config {Bytes.display path}: {reason}"
  | .syntaxFault position => "failed to parse config: " ++ placed position "invalid TOML"
  | .shape (some position) problem =>
    "failed to parse config: " ++ placed position problem.message
  | .shape none problem => "failed to parse config: " ++ problem.message
  | .invalid why => s!"invalid config: {why.message}"

end Refusal

end EnumOrdering.Config
