/-!
# UTF-8

Bytes and the texts they encode. `decode` is strict: it gives the characters of
a well-formed byte string, or the bytes from the first ill-formed part on.
`decodeLossy` always answers: every maximal ill-formed part becomes one
replacement character. Both take the byte string apart with `head`, so they
agree wherever `decode` succeeds.
-/

namespace EnumOrdering

/-- A string of bytes, as files, request bodies and path names hold it. -/
abbrev Bytes := List UInt8

namespace Utf8

/-- The character that stands for an ill-formed part. -/
def replacement : Char := '\uFFFD'

/-- What a non-empty byte string begins with: a character, or a part that
begins no character. `rest` is what follows it. -/
inductive Head
  | char (c : Char) (rest : Bytes)
  | broken (rest : Bytes)
deriving Repr, DecidableEq

/-- The bytes after the first character or ill-formed part. -/
def Head.rest : Head → Bytes
  | .char _ rest => rest
  | .broken rest => rest

/-- A byte that continues a character. -/
def isContinuation (b : UInt8) : Bool := 0x80 ≤ b && b ≤ 0xBF

/-- The second bytes that may follow the first byte `b` of a character of three
bytes: no overlong form and no surrogate. -/
def followsThree (b second : UInt8) : Bool :=
  if b = 0xE0 then 0xA0 ≤ second && second ≤ 0xBF
  else if b = 0xED then 0x80 ≤ second && second ≤ 0x9F
  else isContinuation second

/-- The second bytes that may follow the first byte `b` of a character of four
bytes: no overlong form and nothing past the last plane. -/
def followsFour (b second : UInt8) : Bool :=
  if b = 0xF0 then 0x90 ≤ second && second ≤ 0xBF
  else if b = 0xF4 then 0x80 ≤ second && second ≤ 0x8F
  else isContinuation second

/-- The six bits that a continuation byte carries. -/
def payload (b : UInt8) : Nat := b.toNat % 64

/-- Takes the first character or ill-formed part off `b :: tail`. An ill-formed
part is the longest beginning of a character found there, or a single byte. -/
def head (b : UInt8) (tail : Bytes) : Head :=
  if b < 0x80 then .char (Char.ofNat b.toNat) tail
  else if 0xC2 ≤ b && b ≤ 0xDF then
    match tail with
    | b₁ :: r₁ =>
      if isContinuation b₁ then
        .char (Char.ofNat (b.toNat % 32 * 64 + payload b₁)) r₁
      else .broken tail
    | [] => .broken tail
  else if 0xE0 ≤ b && b ≤ 0xEF then
    match tail with
    | b₁ :: r₁ =>
      if followsThree b b₁ then
        match r₁ with
        | b₂ :: r₂ =>
          if isContinuation b₂ then
            .char (Char.ofNat (b.toNat % 16 * 4096 + payload b₁ * 64 + payload b₂)) r₂
          else .broken r₁
        | [] => .broken r₁
      else .broken tail
    | [] => .broken tail
  else if 0xF0 ≤ b && b ≤ 0xF4 then
    match tail with
    | b₁ :: r₁ =>
      if followsFour b b₁ then
        match r₁ with
        | b₂ :: r₂ =>
          if isContinuation b₂ then
            match r₂ with
            | b₃ :: r₃ =>
              if isContinuation b₃ then
                .char (Char.ofNat (b.toNat % 8 * 262144 + payload b₁ * 4096
                  + payload b₂ * 64 + payload b₃)) r₃
              else .broken r₂
            | [] => .broken r₂
          else .broken r₁
        | [] => .broken r₁
      else .broken tail
    | [] => .broken tail
  else .broken tail

theorem length_rest_head_le (b : UInt8) (tail : Bytes) :
    (head b tail).rest.length ≤ tail.length := by
  unfold head
  repeat' split
  all_goals simp only [Head.rest, List.length_cons]; omega

/-- The characters that `bytes` encode, or the bytes from the first ill-formed
part on. -/
def decode : Bytes → Except Bytes (List Char)
  | [] => .ok []
  | b :: tail =>
    match head b tail, length_rest_head_le b tail with
    | .broken _, _ => .error (b :: tail)
    | .char c rest, _ =>
      match decode rest with
      | .ok cs => .ok (c :: cs)
      | .error bad => .error bad
termination_by bytes => bytes.length
decreasing_by
  rename_i h
  simp only [Head.rest] at h
  simp only [List.length_cons]
  omega

/-- The characters that `bytes` encode, each maximal ill-formed part replaced. -/
def decodeLossy : Bytes → List Char
  | [] => []
  | b :: tail =>
    match head b tail, length_rest_head_le b tail with
    | .broken rest, _ => replacement :: decodeLossy rest
    | .char c rest, _ => c :: decodeLossy rest
termination_by bytes => bytes.length
decreasing_by
  all_goals
    rename_i h
    simp only [Head.rest] at h
    simp only [List.length_cons]
    omega

/-- The bytes of a list of characters. -/
def encode (cs : List Char) : Bytes := cs.flatMap String.utf8EncodeChar

end Utf8

/-- The bytes of a text. -/
def Bytes.ofText (s : String) : Bytes := Utf8.encode s.toList

/-- The text of well-formed bytes. -/
def Bytes.text? (bytes : Bytes) : Option String :=
  match Utf8.decode bytes with
  | .ok cs => some (String.ofList cs)
  | .error _ => none

/-- A text to show for any bytes: ill-formed parts are replaced. -/
def Bytes.display (bytes : Bytes) : String := String.ofList (Utf8.decodeLossy bytes)

end EnumOrdering
