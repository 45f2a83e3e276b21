import EnumOrdering.Json.Number
import EnumOrdering.Json.Text

/-!
# JSON values

A value as a tree, and its reader. The members of an object that was read are in
the order of their names, and of members with one name the last counts. How many
containers may lie within one another is a number that the reader is given, and
its recursion is on that number.
-/

namespace EnumOrdering.Json

/-- A JSON value. -/
inductive Value
  | null
  | boolean (b : Bool)
  | number (x : Number)
  | text (s : String)
  | array (items : List Value)
  | object (members : List (String × Value))
deriving Repr

/-- A value without parts. -/
inductive Scalar
  | null
  | boolean (b : Bool)
  | number (x : Number)
  | text (s : String)
deriving Repr, DecidableEq

namespace Scalar

/-- A scalar as a value. -/
def value : Scalar → Value
  | .null => .null
  | .boolean b => .boolean b
  | .number x => .number x
  | .text s => .text s

/-- What a scalar is in a mismatch. -/
def found : Scalar → Found
  | .null => .null
  | .boolean b => .boolean b
  | .number x => x.found
  | .text s => .text s

end Scalar

/-- Reads the scalar that begins with the byte `b`. -/
def readScalarFrom (b : UInt8) (rest : Bytes) : Except Fault (Step Scalar (b :: rest)) :=
  have lt := length_lt_cons b rest
  if b = 0x6E then readTail .null [0x75, 0x6C, 0x6C] lt
  else if b = 0x74 then readTail (.boolean true) [0x72, 0x75, 0x65] lt
  else if b = 0x66 then readTail (.boolean false) [0x61, 0x6C, 0x73, 0x65] lt
  else if b = Sign.minus || isDigit b then (readNumber (b :: rest)).map (·.map .number)
  else if b = Sign.quote then
    match readText rest with
    | .error f => .error f
    | .ok st => .ok ((st.map .text).after lt)
  else .error (.ahead .wantedValue (b :: rest))

/-- Why `b :: rest` is not what its reader expects: an array or an object is
named at its first byte, a scalar after its last. -/
def unexpected (expected : String) (b : UInt8) (rest : Bytes) : Fault :=
  if b = Sign.openBracket then .shape (.invalidType .sequence expected) (b :: rest)
  else if b = Sign.openBrace then .shape (.invalidType .map expected) (b :: rest)
  else
    match readScalarFrom b rest with
    | .error f => f
    | .ok st => .shape (.invalidType st.value.found expected) st.rest

/-- Puts a member into its place among members in the order of their names; one
of the same name gives way. -/
def insertMember (name : String) (v : Value) : List (String × Value) → List (String × Value)
  | [] => [(name, v)]
  | (other, w) :: rest =>
    match compare name other with
    | .lt => (name, v) :: (other, w) :: rest
    | .eq => (name, v) :: rest
    | .gt => (other, w) :: insertMember name v rest

/-- Reads a value in which `room` containers may lie within one another. -/
def readValue : (room : Nat) → Reader Value
  | 0, input =>
    match h : skipBlank input with
    | [] => .error (.ahead .unfinishedValue [])
    | b :: rest =>
      if b = Sign.openBracket || b = Sign.openBrace then .error (.ahead .tooDeep (b :: rest))
      else
        match readScalarFrom b rest with
        | .error f => .error f
        | .ok st => .ok ((st.map Scalar.value).lift (length_le_of_skipBlank h))
  | room + 1, input =>
    match h : skipBlank input with
    | [] => .error (.ahead .unfinishedValue [])
    | b :: rest =>
      have lt := length_lt_of_skipBlank h
      if b = Sign.openBracket then
        match readItems (readValue room) 0 rest with
        | .error f => .error f
        | .ok st => .ok ((st.map Value.array).after lt)
      else if b = Sign.openBrace then
        match readMembers readText
            (fun members name => .ok fun input =>
              (readValue room input).map (·.map fun v => insertMember name v members))
            true [] rest with
        | .error f => .error f
        | .ok st => .ok ((st.map Value.object).after lt)
      else
        match readScalarFrom b rest with
        | .error f => .error f
        | .ok st => .ok ((st.map Scalar.value).lift (length_le_of_skipBlank h))

end EnumOrdering.Json
