import EnumOrdering.Url.Host

/-!
# URLs

A URL taken apart in its normal form: the scheme and the host in small letters,
the port only where it is not the usual one, the segments of the path without
dots, and everything percent-encoded that needs it.
-/

namespace EnumOrdering

/-- Who asks, and whom. -/
structure Url.Authority where
  user : List Char
  password : Option (List Char)
  host : Url.Host
  port : Option Nat
deriving Repr, DecidableEq

/-- A URL. -/
structure Url where
  scheme : String
  authority : Option Url.Authority
  path : List Char
  query : Option (List Char)
  fragment : Option (List Char)
deriving Repr, DecidableEq

namespace Url

/-- The usual port of a scheme, for the schemes of the web. -/
def webPort? : String → Option Nat
  | "http" => some 80
  | "https" => some 443
  | "ws" => some 80
  | "wss" => some 443
  | "ftp" => some 21
  | _ => none

/-- Whether a scheme is one of the web, whose paths are made of segments. -/
def isWeb (scheme : String) : Bool := (webPort? scheme).isSome

/-- The characters of who asks and whom. -/
def Authority.write (a : Authority) : List Char :=
  let credentials :=
    match a.password with
    | some password => a.user ++ ':' :: password ++ ['@']
    | none => if a.user = [] then [] else a.user ++ ['@']
  let port :=
    match a.port with
    | some port => ':' :: Decimal.natDigits port
    | none => []
  credentials ++ a.host.write ++ port

/-- The text of a URL. Where nobody is asked, a path that begins with an empty
segment is kept apart by a dot, lest the segment after it be taken for a host. -/
def text (u : Url) : String :=
  let optional (mark : Char) (cs : Option (List Char)) :=
    match cs with
    | some cs => mark :: cs
    | none => []
  let authority :=
    match u.authority with
    | some a => '/' :: '/' :: a.write
    | none => if ['/', '/'].isPrefixOf u.path then ['/', '.'] else []
  String.ofList
    (u.scheme.toList ++ ':' :: authority ++ u.path ++ optional '?' u.query
      ++ optional '#' u.fragment)

/-- The URL without the name and the password of who asks. -/
def anonymous (u : Url) : Url :=
  { u with authority := u.authority.map fun a => { a with user := [], password := none } }

/-- Whether a URL has a host with a name or an address. -/
def hasHost (u : Url) : Bool :=
  match u.authority with
  | some a => a.host ≠ .domain []
  | none => false

end Url

end EnumOrdering
