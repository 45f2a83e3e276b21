/-!
# Media types

The value of a `Content-Type` header, as far as it decides whether a body is
JSON. A media type is a type and a subtype with a slash between them; parameters
may follow, each after a semicolon. What stands after the last plus sign of a
subtype is its suffix. Letters count the same in either case, and a header that
does not have this form names no media type at all.
-/

namespace EnumOrdering.Http

/-- A media type without its parameters. -/
structure MediaType where
  type : String
  subtype : String
  suffix : Option String
deriving Repr, DecidableEq

/-- The characters that names are made of. -/
def isTokenChar (c : Char) : Bool := c.isAlphanum || "!#$%&'*+-.^_`|~".toList.contains c

/-- The characters that may stand between quotes. -/
def isQuotedChar (c : Char) : Bool := 0x20 ≤ c.toNat && c.toNat < 0x7F

namespace MediaType

/-- What comes next within a list of parameters of the form `name=value`. The
value is a word, which may be empty at the very end, or it is quoted. -/
inductive Awaiting
  /-- A parameter, or spaces before it. -/
  | name
  /-- More of a name, or the equals sign. -/
  | nameEnd
  /-- A value. -/
  | value
  /-- More of a value, or a semicolon. -/
  | valueEnd
  /-- The first character of a quoted value, of any kind. -/
  | quoted
  /-- More of a quoted value, or its closing quote. -/
  | quotedEnd
  /-- A semicolon, or spaces before it. -/
  | separator
deriving Repr, DecidableEq

/-- Whether characters are a list of parameters, from a given point on. -/
def areParameters : Awaiting → List Char → Bool
  | .name, [] => true
  | .nameEnd, [] => false
  | .value, [] => true
  | .valueEnd, [] => true
  | .quoted, [] => false
  | .quotedEnd, [] => false
  | .separator, [] => true
  | .name, c :: rest =>
    if c = ' ' then areParameters .name rest else isTokenChar c && areParameters .nameEnd rest
  | .nameEnd, c :: rest =>
    if c = '=' then areParameters .value rest else isTokenChar c && areParameters .nameEnd rest
  | .value, c :: rest =>
    if c = '"' then areParameters .quoted rest else isTokenChar c && areParameters .valueEnd rest
  | .valueEnd, c :: rest =>
    if c = ';' then areParameters .name rest else isTokenChar c && areParameters .valueEnd rest
  | .quoted, c :: rest => isQuotedChar c && areParameters .quotedEnd rest
  | .quotedEnd, c :: rest =>
    if c = '"' then areParameters .separator rest
    else isQuotedChar c && areParameters .quotedEnd rest
  | .separator, c :: rest =>
    if c = ';' then areParameters .name rest else c = ' ' && areParameters .separator rest

/-- Characters as a text in small letters. -/
def small (cs : List Char) : String := String.ofList (cs.map Char.toLower)

/-- The media type of a type and a subtype with its suffix. A plus sign that
the subtype begins with opens no suffix. -/
def ofNames (type subtype : List Char) : MediaType :=
  match subtype with
  | [] => ⟨small type, "", none⟩
  | first :: rest =>
    match rest.reverse.span (· ≠ '+') with
    | (_, []) => ⟨small type, small subtype, none⟩
    | (suffix, _ :: front) =>
      ⟨small type, small (first :: front.reverse), some (small suffix.reverse)⟩

/-- The media type of a header. -/
def parse? (header : String) : Option MediaType :=
  match header.toList.span isTokenChar with
  | ([], _) => none
  | (_ :: _, []) => none
  | (type, slash :: rest) =>
    if slash ≠ '/' then none
    else
      match rest.span isTokenChar with
      | (subtype, []) => some (ofNames type subtype)
      | ([], _ :: _) => none
      | (subtype, c :: parameters) =>
        if c = ';' && areParameters .name parameters then some (ofNames type subtype) else none

/-- Whether a body of this type is JSON. -/
def isJson (m : MediaType) : Bool :=
  m.type = "application" && (m.subtype = "json" || m.suffix = some "json")

end MediaType

end EnumOrdering.Http
