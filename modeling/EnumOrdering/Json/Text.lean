import EnumOrdering.Json.Reader

/-!
# Texts in JSON

A text ends at the next quote that no backslash precedes. An escape stands for one
character; a character outside the basic plane takes two escapes, a pair of
surrogates, and no other use of surrogates is accepted. What the text comes to,
with its escapes resolved, must be well-formed UTF-8; where it is not, the place
reported lies as many bytes before the end of the text as the resolved text has
from its first ill-formed byte on.
-/

namespace EnumOrdering.Json

/-- Whether a byte may stand in a text as it is. -/
def isPlain (b : UInt8) : Bool := b ≠ Sign.quote && b ≠ Sign.backslash && 0x20 ≤ b

/-- The value of a hexadecimal digit. -/
def hexValue? (b : UInt8) : Option Nat :=
  if 0x30 ≤ b && b ≤ 0x39 then some (b.toNat - 0x30)
  else if 0x41 ≤ b && b ≤ 0x46 then some (b.toNat - 0x41 + 10)
  else if 0x61 ≤ b && b ≤ 0x66 then some (b.toNat - 0x61 + 10)
  else none

/-- Reads four hexadecimal digits. -/
def readHex (input : Bytes) : Except Fault (Step Nat input) :=
  match input with
  | a :: b :: c :: d :: rest =>
    match hexValue? a, hexValue? b, hexValue? c, hexValue? d with
    | some a, some b, some c, some d =>
      .ok ⟨a * 4096 + b * 256 + c * 16 + d, rest, by simp only [List.length_cons]; omega⟩
    | _, _, _, _ => .error (.here .invalidEscape rest)
  | _ => .error (.here .unfinishedText [])

/-- Whether a code unit opens a pair of surrogates. -/
def isHighSurrogate (n : Nat) : Bool := 0xD800 ≤ n && n ≤ 0xDBFF

/-- Whether a code unit closes a pair of surrogates. -/
def isLowSurrogate (n : Nat) : Bool := 0xDC00 ≤ n && n ≤ 0xDFFF

/-- Reads the second half of a pair of surrogates, whose first half is `high`. -/
def readPair (high : Nat) (input : Bytes) : Except Fault (Step Char input) :=
  match input with
  | [] => .error (.here .unfinishedText [])
  | b :: rest =>
    if b ≠ Sign.backslash then .error (.here .unfinishedSurrogate rest)
    else
      match rest with
      | [] => .error (.here .unfinishedText [])
      | u :: rest' =>
        if u ≠ 0x75 then .error (.here .unfinishedSurrogate rest')
        else
          match readHex rest' with
          | .error f => .error f
          | .ok low =>
            if isLowSurrogate low.value then
              .ok ⟨Char.ofNat ((high - 0xD800) * 1024 + (low.value - 0xDC00) + 0x10000), low.rest,
                by have := low.shorter; simp only [List.length_cons]; omega⟩
            else .error (.here .lonelySurrogate low.rest)

/-- Reads the character of an escape by number, after its `u`. -/
def readUnicode (input : Bytes) : Except Fault (Step Char input) :=
  match readHex input with
  | .error f => .error f
  | .ok unit =>
    if isLowSurrogate unit.value then .error (.here .lonelySurrogate unit.rest)
    else if isHighSurrogate unit.value then
      match readPair unit.value unit.rest with
      | .error f => .error f
      | .ok c => .ok (c.after unit.shorter)
    else .ok (unit.map Char.ofNat)

/-- The character of an escape by letter. -/
def escapedChar? (b : UInt8) : Option Char :=
  if b = 0x22 then some '"'
  else if b = 0x5C then some '\\'
  else if b = 0x2F then some '/'
  else if b = 0x62 then some '\x08'
  else if b = 0x66 then some '\x0c'
  else if b = 0x6E then some '\n'
  else if b = 0x72 then some '\r'
  else if b = 0x74 then some '\t'
  else none

/-- Reads the character of an escape after its backslash. -/
def readEscape (input : Bytes) : Except Fault (Step Char input) :=
  match input with
  | [] => .error (.here .unfinishedText [])
  | b :: rest =>
    match escapedChar? b with
    | some c => .ok ⟨c, rest, length_lt_cons b rest⟩
    | none =>
      if b = 0x75 then
        match readUnicode rest with
        | .error f => .error f
        | .ok c => .ok (c.lift (length_le_cons b rest))
      else .error (.here .invalidEscape rest)

theorem length_drop_plain_le {input rest : Bytes} {b : UInt8}
    (h : input.dropWhile isPlain = b :: rest) : rest.length < input.length := by
  have := (List.dropWhile_sublist (p := isPlain) (l := input)).length_le
  rw [h, List.length_cons] at this
  omega

/-- Reads the bytes of a text after its opening quote, and the closing one. An
escape gives the bytes of its character. -/
def readBytes (input : Bytes) : Except Fault (Step Bytes input) :=
  match h : input.dropWhile isPlain with
  | [] => .error (.here .unfinishedText [])
  | b :: rest =>
    have lt := length_drop_plain_le h
    if b = Sign.quote then .ok ⟨input.takeWhile isPlain, rest, lt⟩
    else if b = Sign.backslash then
      match readEscape rest with
      | .error f => .error f
      | .ok c =>
        have := c.shorter
        match readBytes c.rest with
        | .error f => .error f
        | .ok others =>
          .ok ⟨input.takeWhile isPlain ++ Utf8.encode [c.value] ++ others.value, others.rest,
            by have := others.shorter; omega⟩
    else .error (.here .controlCharacter rest)
termination_by input.length

/-- Reads a text after its opening quote, and the closing one. -/
def readText (input : Bytes) : Except Fault (Step String input) :=
  match readBytes input with
  | .error f => .error f
  | .ok st =>
    match Utf8.decode st.value with
    | .ok cs => .ok (st.map fun _ => String.ofList cs)
    | .error bad => .error ⟨.invalidUnicode, bad.length + st.rest.length, []⟩

end EnumOrdering.Json
