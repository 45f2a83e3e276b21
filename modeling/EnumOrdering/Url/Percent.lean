import EnumOrdering.Text.Utf8

/-!
# Percent encoding

Bytes that may not stand in some part of a URL are written as a percent sign and
two hexadecimal digits. Each part has its own set of such bytes; bytes outside
of ASCII and control characters belong to every set.
-/

namespace EnumOrdering.Url

/-- A part of a URL with an encoding of its own. -/
inductive Part
  | opaquePath
  | path
  | query
  | webQuery
  | fragment
deriving Repr, DecidableEq

/-- The characters of ASCII, apart from controls, that are encoded in a part. -/
def Part.encoded : Part → List Char
  | .opaquePath => []
  | .path => " \"<>`#?\x7b\x7d".toList
  | .query => " \"#<>".toList
  | .webQuery => " \"#<>'".toList
  | .fragment => " \"<>`".toList

/-- Whether a byte is encoded in a part. -/
def Part.encodes (p : Part) (b : UInt8) : Bool :=
  b < 0x20 || 0x7E < b || p.encoded.contains (Char.ofNat b.toNat)

/-- A byte as a percent sign and two digits. -/
def percent (b : UInt8) : List Char :=
  let digit (n : Nat) := (Nat.digitChar n).toUpper
  ['%', digit (b.toNat / 16), digit (b.toNat % 16)]

/-- Characters as they stand in a part. -/
def Part.encode (p : Part) (cs : List Char) : List Char :=
  (Utf8.encode cs).flatMap fun b => if p.encodes b then percent b else [Char.ofNat b.toNat]

/-- The value of a hexadecimal digit. -/
def hexValue? (b : UInt8) : Option Nat :=
  if 0x30 ≤ b && b ≤ 0x39 then some (b.toNat - 0x30)
  else if 0x41 ≤ b && b ≤ 0x46 then some (b.toNat - 0x41 + 10)
  else if 0x61 ≤ b && b ≤ 0x66 then some (b.toNat - 0x61 + 10)
  else none

/-- Bytes with every percent sign and its two digits as the byte they stand
for. -/
def decode : Bytes → Bytes
  | [] => []
  | [b] => [b]
  | [b, c] => [b, c]
  | b :: c :: d :: rest =>
    match if b = 0x25 then hexValue? c else none, hexValue? d with
    | some high, some low => UInt8.ofNat (high * 16 + low) :: decode rest
    | _, _ => b :: decode (c :: d :: rest)

end EnumOrdering.Url
