import EnumOrdering.Net.Address
import EnumOrdering.Url.Percent

/-!
# Paths in URLs

A path is made of segments. One dot stands for the place it is in and two dots
for the place above; both disappear when a path is read. A drive, which is a letter with
a colon or a bar, is not taken away by two dots. At the beginning of the path to a
file its bar becomes a colon.
-/

namespace EnumOrdering.Url

/-- Whether a segment stands for the place it is in. -/
def isHere (segment : List Char) : Bool :=
  ["." , "%2e"].contains (String.ofList (segment.map Char.toLower))

/-- Whether a segment stands for the place above. -/
def isAbove (segment : List Char) : Bool :=
  ["..", "%2e.", ".%2e", "%2e%2e"].contains (String.ofList (segment.map Char.toLower))

/-- Whether a segment is a drive. -/
def isDrive : List Char → Bool
  | [letter, sign] => letter.isAlpha && (sign = ':' || sign = '|')
  | _ => false

/-- The segments of the place above. -/
def placeAbove (before : List (List Char)) : List (List Char) :=
  if before.getLast?.any isDrive then before else before.dropLast

/-- The segments after one more of them has been read. A path that ends in dots
ends in an empty segment, and a path to a file may begin with a drive. -/
def addSegment (file last : Bool) (before : List (List Char)) (segment : List Char) :
    List (List Char) :=
  let ending := if last then [[]] else []
  if file && before = [] && isDrive segment then [segment.take 1 ++ [':']]
  else if isAbove segment then placeAbove before ++ ending
  else if isHere segment then before ++ ending
  else before ++ [segment]

/-- Segments without dots, after those that have been read. -/
def plainSegments (file : Bool) (before : List (List Char)) :
    List (List Char) → List (List Char)
  | [] => before
  | segment :: rest => plainSegments file (addSegment file rest.isEmpty before segment) rest

/-- The encoded segments of a path after its first slash. A path of the web may
have backslashes for slashes. -/
def segmentsOf (web : Bool) (cs : List Char) : List (List Char) :=
  let cs := if web then cs.map fun c => if c = '\\' then '/' else c else cs
  (Net.splitAll '/' cs).map Part.path.encode

/-- The path that begins after a slash. -/
def readSegments (web : Bool) (cs : List Char) : List Char :=
  (plainSegments false [] (segmentsOf web cs)).flatMap ('/' :: ·)

/-- The path after who asks and whom. -/
def readPath (web : Bool) (cs : List Char) : List Char :=
  match cs with
  | [] => if web then ['/'] else []
  | c :: rest => readSegments web (if c = '/' || (web && c = '\\') then rest else c :: rest)

/-- The path of a file after its first slash, and whether it begins with a drive.
Empty segments at the beginning do not count. -/
def readFilePath (cs : List Char) : List Char × Bool :=
  let segments := plainSegments true [] (segmentsOf true cs)
  let path :=
    match segments.dropWhile (· = []) with
    | [] => ['/']
    | segments => segments.flatMap ('/' :: ·)
  (path, segments.head?.any isDrive)

end EnumOrdering.Url
