import EnumOrdering.Http.MediaType
import EnumOrdering.Json.Skip
import EnumOrdering.Json.Typed
import EnumOrdering.Scoring

/-!
# Bodies of score requests

A score request comes as a JSON object with the members `field`, `op` and
`values` among any others, or as an array of these three, of which the last may
be missing. What follows the value in the body does not matter. A body is
refused for its declared type, for its length, for not being JSON, or for having
another shape; the last two refusals say where in the value the fault lies.
-/

namespace EnumOrdering.Http

open Json (Reader Step Fault)

namespace ScoreBody

/-- What has been read of a body that is an object. -/
structure Draft where
  name : Option String
  code : Option (Option Int64)
  values : Option (List (Option String))

/-- Reads the values to score. -/
def readValues (room : Nat) : Reader (List (Option String)) :=
  Json.readSequence room fun _ => Json.readNullable Json.readString

/-- How the member `key` of a body is read. -/
def onKey (room : Nat) (draft : Draft) (key : String) : Except Mismatch (Reader Draft) :=
  if key = "field" then
    match draft.name with
    | some _ => .error (.duplicateField "field")
    | none => .ok fun input =>
      (Json.readString input).map (·.map fun s => { draft with name := some s })
  else if key = "op" then
    match draft.code with
    | some _ => .error (.duplicateField "op")
    | none => .ok fun input =>
      (Json.readNullable Json.readInt64 input).map (·.map fun z => { draft with code := some z })
  else if key = "values" then
    match draft.values with
    | some _ => .error (.duplicateField "values")
    | none => .ok fun input =>
      (readValues room input).map (·.map fun vs => { draft with values := some vs })
  else .ok fun input => (Json.skipValue input).map (·.map fun _ => draft)

/-- The request of a draft that names an enumeration. -/
def ofDraft (draft : Draft) : Except Mismatch ScoreRequest :=
  match draft.name with
  | none => .error (.missingField "field")
  | some name => .ok ⟨name, draft.code.join, draft.values.getD []⟩

/-- Reads the members of a body after the opening brace. -/
def readObject (room : Nat) : Reader ScoreRequest := fun input =>
  match Json.readMembers Json.readText (onKey room) true ⟨none, none, none⟩ input with
  | .error f => .error f
  | .ok st =>
    match ofDraft st.value with
    | .error m => .error (.shape m st.rest)
    | .ok request => .ok (st.map fun _ => request)

/-- Reads the items of a body after the opening bracket. -/
def readArray (room : Nat) : Reader ScoreRequest := fun input =>
  let expected := "struct ScoreParams with 3 elements"
  match Json.readItem Json.readString 0 expected input with
  | .error f => .error f
  | .ok name =>
    match Json.readItem (Json.readNullable Json.readInt64) 1 expected name.rest with
    | .error f => .error f
    | .ok code =>
      match Json.readLastItem (readValues room) 2 [] code.rest with
      | .error f => .error f
      | .ok values => .ok ⟨⟨name.value, code.value, values.value⟩, values.rest, by
          have := name.shorter
          have := code.shorter
          have := values.shorter
          omega⟩

/-- Reads a body. -/
def read (room : Nat) : Reader ScoreRequest :=
  Json.readFrom fun b rest =>
    if b = Json.Sign.openBracket then Json.enter room b rest readArray
    else if b = Json.Sign.openBrace then Json.enter room b rest readObject
    else .error (Json.unexpected "struct ScoreParams" b rest)

end ScoreBody

/-- Why a body is refused before anything is done with it. -/
inductive Refusal
  | notDeclaredJson
  /-- The body has more bytes than are taken in. -/
  | tooLong
  | fault (body : Bytes) (f : Fault)
deriving Repr, DecidableEq

namespace Refusal

/-- The wording of a refusal. -/
def message : Refusal → String
  | .notDeclaredJson => "Expected request with `Content-Type: application/json`"
  | .tooLong => "Failed to buffer the request body: length limit exceeded"
  | .fault body f =>
    (if f.problem.isSyntactic then "Failed to parse the request body as JSON: "
      else "Failed to deserialize the JSON body into the target type: ")
    ++ (if f.path.isEmpty then "" else Json.pathText f.path ++ ": ")
    ++ f.message body

/-- The status of a refusal. -/
def status : Refusal → Nat
  | .notDeclaredJson => 415
  | .tooLong => 413
  | .fault _ f => if f.problem.isSyntactic then 400 else 422

end Refusal

/-- Whether a header declares a body to be JSON. -/
def declaresJson (contentType : Option String) : Bool :=
  match contentType.bind MediaType.parse? with
  | some m => m.isJson
  | none => false

/-- The number of bytes that a body may have, two megabytes. -/
def maxBodyLength : Nat := 2097152

/-- The score request in a body. A body of another type is refused before its bytes
are counted, and a body that is too long before any of it is read. -/
def ScoreBody.decode (contentType : Option String) (body : Bytes) : Except Refusal ScoreRequest :=
  if declaresJson contentType then
    if body.length ≤ maxBodyLength then
      match ScoreBody.read Json.maxDepth body with
      | .error f => .error (.fault body f)
      | .ok st => .ok st.value
    else .error .tooLong
  else .error .notDeclaredJson

end EnumOrdering.Http
