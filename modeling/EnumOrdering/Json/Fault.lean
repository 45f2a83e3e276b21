import EnumOrdering.Mismatch

/-!
# Why a JSON text is refused

A fault says what is wrong, how many bytes of the text were still unread where
it is reported, and on which path inside the text it arose. The place is given
to a person as a line and a column, both worked out from the bytes before it. A
fault that concerns a byte not yet taken is reported one byte further on, for
the reader has already looked at it.
-/

namespace EnumOrdering.Json

/-- What can be wrong with a JSON text. -/
inductive Problem
  | unfinishedValue
  | unfinishedList
  | unfinishedObject
  | unfinishedText
  | wantedColon
  | wantedListEnd
  | wantedObjectEnd
  | wantedWord
  | wantedValue
  | wantedKey
  | invalidEscape
  | invalidNumber
  | numberOutOfRange
  | invalidUnicode
  | controlCharacter
  | lonelySurrogate
  | unfinishedSurrogate
  | trailingComma
  | trailingCharacters
  | tooDeep
  | mismatch (m : Mismatch)
deriving Repr, DecidableEq

/-- The wording of a problem. -/
def Problem.message : Problem → String
  | .unfinishedValue => "EOF while parsing a value"
  | .unfinishedList => "EOF while parsing a list"
  | .unfinishedObject => "EOF while parsing an object"
  | .unfinishedText => "EOF while parsing a string"
  | .wantedColon => "expected `:`"
  | .wantedListEnd => "expected `,` or `]`"
  | .wantedObjectEnd => "expected `,` or `\x7d`"
  | .wantedWord => "expected ident"
  | .wantedValue => "expected value"
  | .wantedKey => "key must be a string"
  | .invalidEscape => "invalid escape"
  | .invalidNumber => "invalid number"
  | .numberOutOfRange => "number out of range"
  | .invalidUnicode => "invalid unicode code point"
  | .controlCharacter => "control character (\\u0000-\\u001F) found while parsing a string"
  | .lonelySurrogate => "lone leading surrogate in hex escape"
  | .unfinishedSurrogate => "unexpected end of hex escape"
  | .trailingComma => "trailing comma"
  | .trailingCharacters => "trailing characters"
  | .tooDeep => "recursion limit exceeded"
  | .mismatch m => m.message

/-- Whether the text is no JSON at all, as against JSON of another shape. -/
def Problem.isSyntactic : Problem → Bool
  | .mismatch _ => false
  | _ => true

/-- One step from a value to a part of it. -/
inductive PathStep
  | field (name : String)
  | index (i : Nat)
deriving Repr, DecidableEq

/-- The text of a path: names after a point, positions in brackets. -/
def pathText : List PathStep → String
  | [] => ""
  | first :: rest => rest.foldl (fun text step => text ++ joined step) (alone first)
where
  /-- A step at the beginning of a path. -/
  alone : PathStep → String
    | .field name => name
    | .index i => "[" ++ Decimal.natText i ++ "]"
  /-- A step after another. -/
  joined : PathStep → String
    | .field name => "." ++ name
    | .index i => "[" ++ Decimal.natText i ++ "]"

/-- A refusal: the problem, the number of bytes unread at its place, and the
path to it. -/
structure Fault where
  problem : Problem
  left : Nat
  path : List PathStep
deriving Repr, DecidableEq

namespace Fault

/-- A fault at the place before `rest`. -/
def here (problem : Problem) (rest : Bytes) : Fault := ⟨problem, rest.length, []⟩

/-- A fault in the first byte of `rest`, or in its absence. -/
def ahead (problem : Problem) (rest : Bytes) : Fault := ⟨problem, rest.length - 1, []⟩

/-- A mismatch noticed at the place before `rest`. -/
def shape (m : Mismatch) (rest : Bytes) : Fault := here (.mismatch m) rest

/-- The fault seen from one step further out. -/
def within (step : PathStep) (f : Fault) : Fault := { f with path := step :: f.path }

end Fault

/-- A place in a text: its line, counted from 1, and the bytes before it in that
line. -/
structure Position where
  line : Nat
  column : Nat
deriving Repr, DecidableEq

/-- The place after the given bytes. -/
def Position.after (bytes : Bytes) : Position :=
  { line := bytes.count 0x0A + 1
    column := (bytes.reverse.takeWhile (· != 0x0A)).length }

/-- The place of a fault in the text it was found in. -/
def Fault.position (input : Bytes) (f : Fault) : Position :=
  Position.after (input.take (input.length - f.left))

/-- What a fault says about the text it was found in. -/
def Fault.message (input : Bytes) (f : Fault) : String :=
  let p := f.position input
  s!"{f.problem.message} at line {Decimal.natText p.line} column {Decimal.natText p.column}"

end EnumOrdering.Json
