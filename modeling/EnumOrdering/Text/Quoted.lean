import EnumOrdering.Text.Hidden
import EnumOrdering.Text.Utf8

/-!
# Quoted text

A text between double quotes, for messages: a quote, a backslash and every
character that does not show are escaped. A name made of arbitrary bytes is
quoted in the same way, with each ill-formed byte in hexadecimal.
-/

namespace EnumOrdering.Text

/-- The hexadecimal digits of a number, without leading zeros. -/
def hexDigits (n : Nat) : List Char := Nat.toDigits 16 n

/-- A character as it stands between quotes. -/
def quoteChar (c : Char) : List Char :=
  if c = '\x00' then ['\\', '0']
  else if c = '\t' then ['\\', 't']
  else if c = '\r' then ['\\', 'r']
  else if c = '\n' then ['\\', 'n']
  else if c = '"' then ['\\', '"']
  else if c = '\\' then ['\\', '\\']
  else if isHidden c then ['\\', 'u', '{'] ++ hexDigits c.toNat ++ ['}']
  else [c]

/-- A text between quotes. -/
def quoted (s : String) : String :=
  String.ofList ('"' :: s.toList.flatMap quoteChar ++ ['"'])

/-- A byte in hexadecimal, with two capital digits. -/
def hexByte (b : UInt8) : List Char :=
  let digit (n : Nat) := (Nat.digitChar n).toUpper
  [digit (b.toNat / 16), digit (b.toNat % 16)]

/-- The characters between the quotes for a string of bytes. -/
def quoteBytes : Bytes → List Char
  | [] => []
  | b :: tail =>
    match Utf8.head b tail, Utf8.length_rest_head_le b tail with
    | .char c rest, _ => quoteChar c ++ quoteBytes rest
    | .broken rest, _ =>
      ((b :: tail).take (tail.length + 1 - rest.length)).flatMap ('\\' :: 'x' :: hexByte ·)
        ++ quoteBytes rest
termination_by bytes => bytes.length
decreasing_by
  all_goals
    rename_i h
    simp only [Utf8.Head.rest] at h
    simp only [List.length_cons]
    omega

/-- A name made of arbitrary bytes between quotes. -/
def quotedBytes (bytes : Bytes) : String :=
  String.ofList ('"' :: quoteBytes bytes ++ ['"'])

end EnumOrdering.Text
