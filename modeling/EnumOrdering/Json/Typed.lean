import EnumOrdering.Json.Value

/-!
# Readers of one shape

Readers that want a value of a certain shape and say so when they meet another.
Where a reader opens a container it is given the number of containers, itself
included, that may still lie within one another there.
-/

namespace EnumOrdering.Json

/-- Reads what begins with the first byte that is not blank. -/
def readFrom {α : Type} (read : (b : UInt8) → (rest : Bytes) → Except Fault (Step α (b :: rest))) :
    Reader α := fun input =>
  match h : skipBlank input with
  | [] => .error (.ahead .unfinishedValue [])
  | b :: rest =>
    match read b rest with
    | .error f => .error f
    | .ok st => .ok (st.lift (length_le_of_skipBlank h))

/-- A number as an integer of 64 bits with a sign, or why it is none. -/
def int64OfNumber : Number → Except Mismatch Int64
  | .integer z =>
    match Decimal.int64? z with
    | some n => .ok n
    | none => .error (.invalidValue (.integer z) "i64")
  | .real x => .error (.invalidType (Number.real x).found "i64")

/-- Reads an integer of 64 bits with a sign. -/
def readInt64 : Reader Int64 :=
  readFrom fun b rest =>
    if b = Sign.minus || isDigit b then
      match readNumber (b :: rest) with
      | .error f => .error f
      | .ok st =>
        match int64OfNumber st.value with
        | .ok z => .ok (st.map fun _ => z)
        | .error m => .error (.shape m st.rest)
    else .error (unexpected "i64" b rest)

/-- Reads a text. -/
def readString : Reader String :=
  readFrom fun b rest =>
    if b = Sign.quote then
      match readText rest with
      | .error f => .error f
      | .ok st => .ok (st.lift (length_le_cons b rest))
    else .error (unexpected "a string" b rest)

/-- Reads `null` or something else. -/
def readNullable {α : Type} (read : Reader α) : Reader (Option α) := fun input =>
  match h : skipBlank input with
  | [] => (read input).map (·.map some)
  | b :: _ =>
    if b = 0x6E then readTail none [0x75, 0x6C, 0x6C] (length_lt_of_skipBlank h)
    else (read input).map (·.map some)

/-- Enters a container whose opening sign is `b`, if one more may be opened. -/
def enter {α : Type} (room : Nat) (b : UInt8) (rest : Bytes) (read : Nat → Reader α) :
    Except Fault (Step α (b :: rest)) :=
  match room with
  | 0 => .error (.ahead .tooDeep (b :: rest))
  | room + 1 =>
    match read room rest with
    | .error f => .error f
    | .ok st => .ok (st.lift (length_le_cons b rest))

/-- Reads an array whose items are all read alike. -/
def readSequence {α : Type} (room : Nat) (item : Nat → Reader α) : Reader (List α) :=
  readFrom fun b rest =>
    if b = Sign.openBracket then enter room b rest fun inner => readItems (item inner) 0
    else .error (unexpected "a sequence" b rest)

/-- Reads an object into a state, as `readMembers` does. -/
def readMap {σ : Type} (room : Nat) (onKey : Nat → σ → String → Except Mismatch (Reader σ))
    (state : σ) : Reader σ :=
  readFrom fun b rest =>
    if b = Sign.openBrace then
      enter room b rest fun inner => readMembers readText (onKey inner) true state
    else .error (unexpected "a map" b rest)

/-- Takes the closing bracket after the last item that was wanted. -/
def readListEnd (input : Bytes) : Except Fault (Step Unit input) :=
  match h : skipBlank input with
  | [] => .error (.ahead .unfinishedList [])
  | b :: rest =>
    if b = Sign.closeBracket then .ok ⟨(), rest, length_lt_of_skipBlank h⟩
    else if b = Sign.comma then
      match skipBlank rest with
      | [] => .error (.ahead .trailingCharacters [])
      | b' :: rest' =>
        if b' = Sign.closeBracket then .error (.ahead .trailingComma (b' :: rest'))
        else .error (.ahead .trailingCharacters (b' :: rest'))
    else .error (.ahead .trailingCharacters (b :: rest))

/-- Reads the item at a position of an array that must have it; where the array
ends before, its length is a mismatch. -/
def readItem {α : Type} (read : Reader α) (index : Nat) (expected : String) (input : Bytes) :
    Except Fault (Step α input) :=
  match nextItem (index == 0) input with
  | .error f => .error f
  | .ok (.done rest _) => .error (.shape (.invalidLength index expected) rest)
  | .ok (.more start le) =>
    match read start with
    | .error f => .error (f.within (.index index))
    | .ok st => .ok (st.lift le)

/-- Reads the item at a position of an array that ends there at the latest; one
that ends before it has a default in its place. -/
def readLastItem {α : Type} (read : Reader α) (index : Nat) (default : α) : Reader α :=
  fun input =>
    match nextItem (index == 0) input with
    | .error f => .error f
    | .ok (.done rest lt) => .ok ⟨default, rest, lt⟩
    | .ok (.more start le) =>
      match read start with
      | .error f => .error (f.within (.index index))
      | .ok st =>
        match readListEnd st.rest with
        | .error f => .error f
        | .ok last => .ok ⟨st.value, last.rest, by
            have := st.shorter
            have := last.shorter
            omega⟩

/-- A text read as a whole: after the value nothing but blanks may follow. -/
def readWholeText {α : Type} (read : Reader α) (input : Bytes) : Except Fault α :=
  match read input with
  | .error f => .error f
  | .ok st =>
    match skipBlank st.rest with
    | [] => .ok st.value
    | b :: rest => .error (.ahead .trailingCharacters (b :: rest))

/-- The number of containers that may lie within one another in a text. -/
def maxDepth : Nat := 127

end EnumOrdering.Json
