import EnumOrdering.Url.DomainName
import EnumOrdering.Url.Percent

/-!
# Hosts in URLs

The host of a web address is a domain name, an address of four bytes, or an
address of eight groups in brackets. A name whose last label is a number can
only be an address of four bytes, which may be written with fewer numbers and in
octal or hexadecimal. The same holds for the host of a file, which may be
missing. In other URLs a name is kept as it is written.
-/

namespace EnumOrdering.Url

open Net (Ipv4 Ipv6)

/-- Why a text is no URL. -/
inductive Malformed
  | emptyHost
  | internationalName
  | port
  | ipv4
  | ipv6
  | hostCharacter
  | noBase
deriving Repr, DecidableEq

/-- The wording of what is wrong with a URL. -/
def Malformed.message : Malformed → String
  | .emptyHost => "empty host"
  | .internationalName => "invalid international domain name"
  | .port => "invalid port number"
  | .ipv4 => "invalid IPv4 address"
  | .ipv6 => "invalid IPv6 address"
  | .hostCharacter => "invalid domain character"
  | .noBase => "relative URL without a base"

/-- A host. -/
inductive Host
  | domain (cs : List Char)
  | v4 (a : Ipv4)
  | v6 (a : Ipv6)
deriving Repr, DecidableEq

namespace Host

/-- The characters of a host. -/
def write : Host → List Char
  | .domain cs => cs
  | .v4 a => a.write
  | .v6 a => '[' :: a.write ++ [']']

/-- The digits of a numeral in one of three bases, with the base. -/
def numeral : List Char → Nat × List Char
  | '0' :: 'x' :: ds => (16, ds)
  | '0' :: 'X' :: ds => (16, ds)
  | '0' :: d :: ds => (8, d :: ds)
  | ds => (10, ds)

/-- A number in a host: zero where a numeral has no digits. -/
def number? (cs : List Char) : Option Nat :=
  if cs = [] then none
  else
    let (base, digits) := numeral cs
    ((digits.mapM Ipv6.hexDigit?).filter (·.all (· < base))).map
      (·.foldl (fun n d => n * base + d) 0)

/-- The labels of a name, without the empty one after a point at the end. -/
def labels (cs : List Char) : List (List Char) :=
  let parts := Net.splitAll '.' cs
  if 1 < parts.length && parts.getLast? = some [] then parts.dropLast else parts

/-- Whether the last label of a name is a number. -/
def endsInNumber (cs : List Char) : Bool :=
  match (labels cs).getLast? with
  | none => false
  | some label => (label ≠ [] && label.all Char.isDigit) || (number? label).isSome

/-- The address of one to four numbers, of which the last fills the bytes that
are left. -/
def ipv4OfNumbers? (numbers : List Nat) : Option Ipv4 :=
  match numbers.getLast? with
  | none => none
  | some last =>
    let front := numbers.dropLast
    if front.length < 4 && front.all (· < 256) && last < Nat.pow 256 (4 - front.length) then
      let value := front.foldl (fun n b => n * 256 + b) 0 * Nat.pow 256 (4 - front.length) + last
      Ipv4.ofList? ([value / 16777216, value / 65536, value / 256, value].map UInt8.ofNat)
    else none

/-- The address in brackets whose first bracket has been read. -/
def ofBrackets (cs : List Char) : Except Malformed Host :=
  if cs.getLast? = some ']' then
    match Ipv6.parse? cs.dropLast with
    | some a => .ok (.v6 a)
    | none => .error .ipv6
  else .error .ipv6

/-- The host of a name in the form in which it is looked up. -/
def ofName (name : List Char) : Except Malformed Host :=
  if name = [] then .error .emptyHost
  else if endsInNumber name then
    match ((labels name).mapM number?).bind ipv4OfNumbers? with
    | some a => .ok (.v4 a)
    | none => .error .ipv4
  else .ok (.domain name)

/-- The host of a web address. -/
def ofWeb (cs : List Char) : Except Malformed Host :=
  match cs with
  | '[' :: rest => ofBrackets rest
  | cs =>
    match Utf8.decode (decode (Utf8.encode cs)) with
    | .error _ => .error .internationalName
    | .ok name =>
      match DomainName.ascii? name with
      | none => .error .internationalName
      | some name => ofName name

/-- The host in the URL of a file: the machine itself is no host. -/
def ofFile (cs : List Char) : Except Malformed Host :=
  if cs = [] then .ok (.domain [])
  else
    (ofWeb cs).map fun host =>
      if host = .domain "localhost".toList then .domain [] else host

/-- The characters that the host of any other URL may not hold. -/
def isForbidden (c : Char) : Bool := c = '\x00' || " #/:<>?@[\\]^|".toList.contains c

/-- The host of any other URL. -/
def ofOther (cs : List Char) : Except Malformed Host :=
  match cs with
  | '[' :: rest => ofBrackets rest
  | cs =>
    if cs.any isForbidden then .error .hostCharacter
    else .ok (.domain (Part.opaquePath.encode cs))

end Host

end EnumOrdering.Url
