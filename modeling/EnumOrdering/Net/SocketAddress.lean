import EnumOrdering.Net.Address

/-!
# Socket addresses

An internet address with a port. An address of eight groups stands in brackets
and may carry the number of a scope.
-/

namespace EnumOrdering.Net

/-- Where a server listens. -/
inductive SocketAddress
  | v4 (address : Ipv4) (port : UInt16)
  | v6 (address : Ipv6) (scope : UInt32) (port : UInt16)
deriving Repr, DecidableEq

namespace SocketAddress

/-- A decimal number below a bound; zeros may lead it. -/
def below? (bound : Nat) (cs : List Char) : Option Nat :=
  (Decimal.parseNat? cs).filter (· < bound)

/-- The number of a port. -/
def port? (cs : List Char) : Option UInt16 := (below? UInt16.size cs).map UInt16.ofNat

/-- An address of eight groups with the scope that may follow it. -/
def scoped? (cs : List Char) : Option (Ipv6 × UInt32) :=
  match cs.span (· ≠ '%') with
  | (address, []) => (Ipv6.parse? address).map (·, 0)
  | (address, _ :: scope) =>
    (Ipv6.parse? address).bind fun a => (below? UInt32.size scope).map fun n => (a, UInt32.ofNat n)

/-- The socket address that a text stands for. -/
def parse? (text : String) : Option SocketAddress :=
  match text.toList with
  | '[' :: rest =>
    match rest.span (· ≠ ']') with
    | (address, ']' :: ':' :: port) =>
      (scoped? address).bind fun (a, scope) => (port? port).map (.v6 a scope)
    | _ => none
  | cs =>
    match cs.span (· ≠ ':') with
    | (address, ':' :: port) =>
      (Ipv4.parse? address).bind fun a => (port? port).map (.v4 a)
    | _ => none

/-- The text of a socket address. -/
def text : SocketAddress → String
  | .v4 address port => String.ofList (address.write ++ ':' :: Decimal.natDigits port.toNat)
  | .v6 address scope port =>
    let scopeText := if scope = 0 then [] else '%' :: Decimal.natDigits scope.toNat
    String.ofList
      ('[' :: address.writeMapped ++ scopeText ++ ']' :: ':' :: Decimal.natDigits port.toNat)

end SocketAddress

end EnumOrdering.Net
