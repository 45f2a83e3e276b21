import EnumOrdering.Url.Basic
import EnumOrdering.Url.Path

/-!
# Reading URLs

Blanks around the text and line ends and tabs within it do not count. A scheme
is needed, for there is nothing that a relative URL could be relative to.
-/

namespace EnumOrdering.Url

/-- The characters that count. -/
def significant (text : String) : List Char :=
  let blank (c : Char) := c.toNat ≤ 0x20
  (((text.toList.dropWhile blank).reverse.dropWhile blank).reverse).filter
    fun c => c ≠ '\t' && c ≠ '\n' && c ≠ '\r'

/-- The scheme in small letters and what follows its colon. -/
def splitScheme? (cs : List Char) : Option (String × List Char) :=
  match cs.span fun c => c.isAlphanum || c = '+' || c = '-' || c = '.' with
  | (first :: name, ':' :: rest) =>
    if first.isAlpha then some (String.ofList ((first :: name).map Char.toLower), rest) else none
  | _ => none

/-- Whether a character ends the part of a URL that tells who asks and whom. -/
def endsAuthority (web : Bool) (c : Char) : Bool :=
  c = '/' || c = '?' || c = '#' || (web && c = '\\')

/-- What stands before and after the last `@`. -/
def splitUser (cs : List Char) : Option (List Char) × List Char :=
  match cs.reverse.span (· ≠ '@') with
  | (_, []) => (none, cs)
  | (host, _ :: user) => (some user.reverse, host.reverse)

/-- The host and what follows it, the colon of a port first. A colon between
brackets belongs to the host. -/
def splitHost (inBrackets : Bool) : List Char → List Char × List Char
  | [] => ([], [])
  | c :: rest =>
    if c = ':' && !inBrackets then ([], c :: rest)
    else
      let after := splitHost (if c = '[' then true else if c = ']' then false else inBrackets) rest
      (c :: after.1, after.2)

/-- The number of a port, where digits stand after the colon, and what follows
it. -/
def readPort (usual : Option Nat) : List Char → Except Malformed (Option Nat × List Char)
  | ':' :: cs =>
    let (digits, rest) := cs.span (· ≠ '\\')
    if digits = [] then .ok (none, rest)
    else
      match (Decimal.parseNat? digits).filter (· < UInt16.size) with
      | some port => .ok (if some port = usual then none else some port, rest)
      | none => .error .port
  | _ => .ok (none, [])

/-- Characters of a user's name or a password. -/
def encodeUser (cs : List Char) : List Char :=
  (Utf8.encode cs).flatMap fun b =>
    if Part.path.encodes b || "/:;=@[\\]^|".toList.contains (Char.ofNat b.toNat) then percent b
    else [Char.ofNat b.toNat]

/-- Reads who asks and whom, and gives back what belongs to the path. `more` says
that something follows in the URL. -/
def readAuthority (scheme : String) (cs : List Char) (more : Bool) :
    Except Malformed (Authority × List Char) :=
  let (user, host) := splitUser cs
  if user = some [] && host = [] && more then .error .emptyHost
  else
    let (host, port) := splitHost false host
    match if isWeb scheme then Host.ofWeb host else Host.ofOther host with
    | .error e => .error e
    | .ok host =>
      let (name, password) := (user.getD []).span (· ≠ ':')
      let password := password.drop 1
      if host = .domain [] && (port ≠ [] || name ≠ [] || password ≠ []) then .error .emptyHost
      else
        (readPort (webPort? scheme) port).map fun (port, rest) =>
          (⟨encodeUser name, if password = [] then none else some (encodeUser password),
            host, port⟩, rest)

/-- Parts a URL after its scheme into path, query and fragment, each still as it
is written. -/
def splitTail (cs : List Char) : List Char × Option (List Char) × Option (List Char) :=
  let (front, fragment) := cs.span (· ≠ '#')
  let (path, query) := front.span (· ≠ '?')
  (path, if query = [] then none else some (query.drop 1),
    if fragment = [] then none else some (fragment.drop 1))

/-- Reads the host and the path of a file. A drive belongs to no host. -/
def readFile (cs : List Char) : Except Malformed (Host × List Char) :=
  let isSlash (c : Char) := c = '/' || c = '\\'
  let onThisMachine (cs : List Char) : Except Malformed (Host × List Char) :=
    .ok (.domain [], (readFilePath cs).1)
  match cs with
  | [] => onThisMachine []
  | first :: rest =>
    if !isSlash first then onThisMachine cs
    else
      match rest with
      | [] => onThisMachine rest
      | second :: rest' =>
        if !isSlash second then onThisMachine rest
        else
          let (host, path) := rest'.span (!isSlash ·)
          if isDrive host then onThisMachine rest'
          else
            (Host.ofFile host).map fun host =>
              let (path, onDrive) := readFilePath (path.drop 1)
              (if onDrive then .domain [] else host, path)

/-- Reads what follows a scheme. -/
def readAfterScheme (scheme : String) (cs : List Char) : Except Malformed Url :=
  let web := isWeb scheme
  let (body, query, fragment) := splitTail cs
  let more := query.isSome || fragment.isSome
  let query := query.map (if web || scheme = "file" then Part.webQuery else Part.query).encode
  let fragment := fragment.map Part.fragment.encode
  let isSlash (c : Char) := c = '/' || (web && c = '\\')
  let withAuthority (rest : List Char) : Except Malformed Url :=
    let (whom, path) := rest.span fun c => !endsAuthority web c
    (readAuthority scheme whom (more || path ≠ [])).map fun (a, rest) =>
      ⟨scheme, some a, readPath web (rest ++ path), query, fragment⟩
  if scheme = "file" then
    (readFile body).map fun (host, path) =>
      ⟨scheme, some ⟨[], none, host, none⟩, path, query, fragment⟩
  else if web then withAuthority (body.dropWhile isSlash)
  else
    match body with
    | '/' :: '/' :: rest => withAuthority rest
    | '/' :: rest => .ok ⟨scheme, none, readSegments false rest, query, fragment⟩
    | path => .ok ⟨scheme, none, Part.opaquePath.encode path, query, fragment⟩

/-- The URL that a text stands for. -/
def parse (text : String) : Except Malformed Url :=
  match splitScheme? (significant text) with
  | none => .error .noBase
  | some (scheme, rest) => readAfterScheme scheme rest

end EnumOrdering.Url
