import EnumOrdering.Json.Number
import EnumOrdering.Json.Text

/-!
# Values that nobody asked for

The value of a member that is not wanted is passed over. Only its signs are
checked: containers may nest to any depth, numbers may have any size, and texts
may hold any bytes and any code units. The containers that are still open stand
on a stack, so that depth costs no recursion.
-/

namespace EnumOrdering.Json

/-- Whether an escape by this letter stands for one character. -/
def isEscapeLetter (b : UInt8) : Bool := (escapedChar? b).isSome

/-- Passes over a text after its opening quote. -/
def skipText (input : Bytes) : Except Fault (Step Unit input) :=
  match h : input.dropWhile isPlain with
  | [] => .error (.here .unfinishedText [])
  | b :: rest =>
    have lt := length_drop_plain_le h
    if b = Sign.quote then .ok ⟨(), rest, lt⟩
    else if b = Sign.backslash then
      match rest, lt with
      | [], _ => .error (.here .unfinishedText [])
      | c :: rest', lt =>
        have lt' := length_lt_of_cons lt
        if isEscapeLetter c then
          match skipText rest' with
          | .error f => .error f
          | .ok st => .ok (st.after lt')
        else if c = 0x75 then
          match readHex rest' with
          | .error f => .error f
          | .ok unit =>
            have lt'' := unit.rest_lt lt'
            match skipText unit.rest with
            | .error f => .error f
            | .ok st => .ok (st.after lt'')
        else .error (.here .invalidEscape rest')
    else .error (.here .controlCharacter (b :: rest))
termination_by input.length

/-- Passes over the digits before the point. -/
def skipWhole (input : Bytes) : Except Fault (Step Unit input) :=
  match input with
  | [] => .error (.here .invalidNumber [])
  | b :: rest =>
    match readWhole (b :: rest) with
    | .error f => .error f
    | .ok st => .ok (st.map fun _ => ())

/-- Passes over a point and the digits after it. -/
def skipFraction (input : Bytes) : Except Fault (Part Unit input) :=
  match input with
  | [] => .ok (.missing [])
  | b :: rest =>
    if b = Sign.point then
      if (leadingDigits rest).isEmpty then .error (.ahead .invalidNumber rest)
      else .ok ⟨none, afterDigits rest, length_afterDigits_le b rest⟩
    else .ok (.missing (b :: rest))

/-- Passes over an exponent. -/
def skipExponent (input : Bytes) : Except Fault (Part Unit input) :=
  match input with
  | [] => .ok (.missing [])
  | b :: rest =>
    if b = 0x65 || b = 0x45 then
      match h : (exponentSign rest).2 with
      | [] => .error (.here .invalidNumber [])
      | d :: rest' =>
        if isDigit d then .ok ⟨none, afterDigits rest', length_afterExponent_le b h⟩
        else .error (.here .invalidNumber rest')
    else .ok (.missing (b :: rest))

/-- Passes over a number without its sign. -/
def skipNumber (input : Bytes) : Except Fault (Step Unit input) :=
  match skipWhole input with
  | .error f => .error f
  | .ok whole =>
    match skipFraction whole.rest with
    | .error f => .error f
    | .ok fraction =>
      match skipExponent fraction.rest with
      | .error f => .error f
      | .ok exponent => .ok ⟨(), exponent.rest, by
          have := whole.shorter
          have := fraction.le
          have := exponent.le
          omega⟩

/-- A container that is open: an array or an object. -/
inductive Frame
  | array
  | object
deriving Repr, DecidableEq

/-- The sign that closes a container. -/
def Frame.close : Frame → UInt8
  | .array => Sign.closeBracket
  | .object => Sign.closeBrace

/-- The problem of a container that the text ends in. -/
def Frame.unfinished : Frame → Problem
  | .array => .unfinishedList
  | .object => .unfinishedObject

/-- The problem of a container whose next part follows without a comma. -/
def Frame.wantedEnd : Frame → Problem
  | .array => .wantedListEnd
  | .object => .wantedObjectEnd

/-- Passes over what stands before the next part of a container: nothing in an
array, a name and a colon in an object. -/
def skipName (frame : Frame) (input : Bytes) : Except Fault (Part Unit input) :=
  match frame with
  | .array => .ok (.missing input)
  | .object =>
    match h : skipBlank input with
    | [] => .error (.ahead .unfinishedObject [])
    | b :: rest =>
      if b = Sign.quote then
        match skipText rest with
        | .error f => .error f
        | .ok name =>
          match readColon name.rest with
          | .error f => .error f
          | .ok colon => .ok ⟨none, colon.rest, by
              have := length_lt_of_skipBlank h
              have := name.shorter
              have := colon.shorter
              omega⟩
      else .error (.ahead .wantedKey (b :: rest))

/-- What a value begins with: a scalar passed over, or a container opened. -/
inductive Opening (input : Bytes)
  | scalar (rest : Bytes) (lt : rest.length < input.length)
  | container (frame : Frame) (rest : Bytes) (lt : rest.length < input.length)

/-- A scalar that was passed over. -/
def Opening.ofStep {α : Type} {input : Bytes} (st : Step α input) : Opening input :=
  .scalar st.rest st.shorter

/-- Passes over a scalar, or opens a container. -/
def skipOpening (input : Bytes) : Except Fault (Opening input) :=
  match h : skipBlank input with
  | [] => .error (.ahead .unfinishedValue [])
  | b :: rest =>
    have lt := length_lt_of_skipBlank h
    if b = 0x6E then (readTail () [0x75, 0x6C, 0x6C] lt).map .ofStep
    else if b = 0x74 then (readTail () [0x72, 0x75, 0x65] lt).map .ofStep
    else if b = 0x66 then (readTail () [0x61, 0x6C, 0x73, 0x65] lt).map .ofStep
    else if b = Sign.minus then (skipNumber rest).map fun st => .ofStep (st.after lt)
    else if isDigit b then
      (skipNumber (b :: rest)).map fun st => .ofStep (st.lift (length_le_of_skipBlank h))
    else if b = Sign.quote then (skipText rest).map fun st => .ofStep (st.after lt)
    else if b = Sign.openBracket then .ok (.container .array rest lt)
    else if b = Sign.openBrace then .ok (.container .object rest lt)
    else .error (.ahead .wantedValue (b :: rest))

mutual

/-- Passes over a value and over the rest of the open containers around it. -/
def skipInto (stack : List Frame) (input : Bytes) : Except Fault (Step Unit input) :=
  match skipOpening input with
  | .error f => .error f
  | .ok (.scalar rest lt) =>
    match stack with
    | [] => .ok ⟨(), rest, lt⟩
    | frame :: outer =>
      match skipOut frame outer true rest with
      | .error f => .error f
      | .ok st => .ok (st.after lt)
  | .ok (.container frame rest lt) =>
    match skipOut frame stack false rest with
    | .error f => .error f
    | .ok st => .ok (st.after lt)
termination_by (input.length, 0)

/-- Passes over the rest of the container `frame` and of those around it.
`comma` says that a part has just ended, so that a comma may follow. -/
def skipOut (frame : Frame) (outer : List Frame) (comma : Bool) (input : Bytes) :
    Except Fault (Step Unit input) :=
  match h : skipBlank input with
  | [] => .error (.ahead frame.unfinished [])
  | b :: rest =>
    have lt := length_lt_of_skipBlank h
    have le := length_le_of_skipBlank h
    if b = frame.close then
      match outer with
      | [] => .ok ⟨(), rest, lt⟩
      | next :: outer' =>
        match skipOut next outer' true rest with
        | .error f => .error f
        | .ok st => .ok (st.after lt)
    else if comma then
      if b = Sign.comma then
        match skipName frame rest with
        | .error f => .error f
        | .ok name =>
          have := name.le
          match skipInto (frame :: outer) name.rest with
          | .error f => .error f
          | .ok st => .ok (st.lift (by omega))
      else .error (.ahead frame.wantedEnd (b :: rest))
    else
      match skipName frame (b :: rest) with
      | .error f => .error f
      | .ok name =>
        have := name.le
        match skipInto (frame :: outer) name.rest with
        | .error f => .error f
        | .ok st => .ok (st.lift (by omega))
termination_by (input.length, 1)
decreasing_by
  all_goals first
    | (apply Prod.Lex.left; omega)
    | (rcases Nat.lt_or_ge name.rest.length input.length with hlt | hge
       · exact Prod.Lex.left _ _ hlt
       · have e : name.rest.length = input.length := by omega
         rw [e]
         exact Prod.Lex.right _ (by omega))

end

/-- Passes over a value. -/
def skipValue : Reader Unit := skipInto []

end EnumOrdering.Json
