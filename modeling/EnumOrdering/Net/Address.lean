import EnumOrdering.Decimal.Integer

/-!
# Internet addresses

Addresses of four bytes and of eight groups of sixteen bits, with the forms in
which they are written. In the longer kind the longest run of at least two zero
groups may be written as two colons, and the last two groups in the form of the
shorter kind.
-/

namespace EnumOrdering.Net

/-- The parts of a list between the elements that are `sep`. There is one part
more than there are separators. -/
def splitAll {α : Type} [DecidableEq α] (sep : α) : List α → List (List α)
  | [] => [[]]
  | a :: rest =>
    if a = sep then [] :: splitAll sep rest
    else
      match splitAll sep rest with
      | [] => [[a]]
      | part :: parts => (a :: part) :: parts

/-- An address of four bytes. -/
structure Ipv4 where
  bytes : Vector UInt8 4
deriving Repr, DecidableEq

namespace Ipv4

/-- The address of a list of four bytes. -/
def ofList? (bytes : List UInt8) : Option Ipv4 :=
  if h : bytes.length = 4 then some ⟨⟨bytes.toArray, h⟩⟩ else none

/-- A byte in decimal, without a leading zero. -/
def byte? (cs : List Char) : Option UInt8 :=
  match cs with
  | '0' :: _ :: _ => none
  | cs =>
    if cs.length ≤ 3 then ((Decimal.parseNat? cs).filter (· < UInt8.size)).map UInt8.ofNat else none

/-- The address that a text of four bytes and three points stands for. -/
def parse? (cs : List Char) : Option Ipv4 := ((splitAll '.' cs).mapM byte?).bind ofList?

/-- The characters of an address. -/
def write (a : Ipv4) : List Char :=
  List.intercalate ['.'] (a.bytes.toList.map fun b => Decimal.natDigits b.toNat)

end Ipv4

/-- An address of eight groups. -/
structure Ipv6 where
  groups : Vector UInt16 8
deriving Repr, DecidableEq

namespace Ipv6

/-- The address of a list of eight groups. -/
def ofList? (groups : List UInt16) : Option Ipv6 :=
  if h : groups.length = 8 then some ⟨⟨groups.toArray, h⟩⟩ else none

/-- The value of a hexadecimal digit. -/
def hexDigit? (c : Char) : Option Nat :=
  if '0' ≤ c ∧ c ≤ '9' then some (c.toNat - '0'.toNat)
  else if 'a' ≤ c ∧ c ≤ 'f' then some (c.toNat - 'a'.toNat + 10)
  else if 'A' ≤ c ∧ c ≤ 'F' then some (c.toNat - 'A'.toNat + 10)
  else none

/-- A group: one to four hexadecimal digits. -/
def group? (cs : List Char) : Option UInt16 :=
  if cs = [] || 4 < cs.length then none
  else (cs.mapM hexDigit?).map fun ds => UInt16.ofNat (ds.foldl (fun n d => n * 16 + d) 0)

/-- Two bytes as a group. -/
def joinBytes (high low : UInt8) : UInt16 := UInt16.ofNat (high.toNat * 256 + low.toNat)

/-- An address of four bytes as two groups. -/
def ofIpv4 (a : Ipv4) : List UInt16 :=
  [joinBytes a.bytes[0] a.bytes[1], joinBytes a.bytes[2] a.bytes[3]]

/-- The groups of parts that lay between colons; the very last part may be an
address of four bytes where `last` says so. -/
def groups? (last : Bool) : List (List Char) → Option (List UInt16)
  | [] => some []
  | [part] =>
    match group? part with
    | some n => some [n]
    | none => if last then (Ipv4.parse? part).map ofIpv4 else none
  | part :: q :: rest => (group? part).bind fun n => (groups? last (q :: rest)).map (n :: ·)

/-- The groups of one side of an address; a side may be empty. -/
def side? (last : Bool) (cs : List Char) : Option (List UInt16) :=
  if cs = [] then some [] else groups? last (splitAll ':' cs)

/-- What stands before and after the first two colons in a row. -/
def splitGap : List Char → Option (List Char × List Char)
  | ':' :: ':' :: rest => some ([], rest)
  | c :: rest => (splitGap rest).map fun p => (c :: p.1, p.2)
  | [] => none

/-- The address that a text stands for. -/
def parse? (cs : List Char) : Option Ipv6 :=
  match splitGap cs with
  | none => (side? true cs).bind ofList?
  | some (front, back) =>
    (side? false front).bind fun before =>
      (side? true back).bind fun after =>
        let missing := 8 - (before.length + after.length)
        if 0 < missing then ofList? (before ++ List.replicate missing 0 ++ after) else none

/-- The number of zeros that a list of groups begins with. -/
def zeros (groups : List UInt16) : Nat := (groups.takeWhile (· == 0)).length

/-- The first of the longest runs of zeros: how many groups lie before it, and
its length. -/
def longestRun : List UInt16 → Nat × Nat
  | [] => (0, 0)
  | g :: rest =>
    let (start, length) := longestRun rest
    let here := zeros (g :: rest)
    if length ≤ here then (0, here) else (start + 1, length)

/-- Groups in hexadecimal with colons between them. -/
def writeGroups (groups : List UInt16) : List Char :=
  List.intercalate [':'] (groups.map fun g => Nat.toDigits 16 g.toNat)

/-- The characters of an address. -/
def write (a : Ipv6) : List Char :=
  let groups := a.groups.toList
  let (start, length) := longestRun groups
  if length < 2 then writeGroups groups
  else writeGroups (groups.take start) ++ ':' :: ':' :: writeGroups (groups.drop (start + length))

/-- The address of four bytes that an address stands for, if it is one of those
set aside for this. -/
def toIpv4? (a : Ipv6) : Option Ipv4 :=
  match a.groups.toList with
  | [0, 0, 0, 0, 0, 0xFFFF, high, low] =>
    Ipv4.ofList? ([high.toNat / 256, high.toNat % 256, low.toNat / 256, low.toNat % 256].map
      UInt8.ofNat)
  | _ => none

/-- The characters of an address, where one that stands for an address of four
bytes ends in its form. -/
def writeMapped (a : Ipv6) : List Char :=
  match a.toIpv4? with
  | some v4 => "::ffff:".toList ++ v4.write
  | none => a.write

end Ipv6

end EnumOrdering.Net
