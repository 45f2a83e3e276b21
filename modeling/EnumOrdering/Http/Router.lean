import EnumOrdering.Http.ScoreBody
import EnumOrdering.Published

/-!
# The HTTP interface

Four paths: scores are asked for and a reload is demanded with `POST`, the
report and the enumerations in use are read with `GET`. An unknown path and a
wrong method have empty answers. A failure of the source is an error of what
lies behind the interface, all others are errors of the request.
-/

namespace EnumOrdering.Http

/-- An HTTP request. -/
structure Call where
  method : String
  /-- The path, with the scheme and the host that may stand before it and the query
  and the fragment that may follow it. -/
  target : String
  contentType : Option String
  body : Bytes
deriving Repr, DecidableEq

/-- An HTTP response. -/
structure Response where
  status : Nat
  contentType : Option String
  body : String
deriving Repr, DecidableEq

namespace Response

/-- A response without a body. -/
def blank (status : Nat) : Response := ⟨status, none, ""⟩

/-- A response whose body is a JSON value. -/
def json (status : Nat) (v : Json.Value) : Response :=
  ⟨status, some "application/json", v.compact⟩

/-- A response whose body is a text. -/
def plain (status : Nat) (text : String) : Response :=
  ⟨status, some "text/plain; charset=utf-8", text⟩

/-- The answer to a body that is refused. -/
def ofRefusal (r : Refusal) : Response := plain r.status r.message

/-- The status that tells of a failure. -/
def failureStatus : Failure → Nat
  | .unknownEnumeration .. => 404
  | .invalidOperation .. => 400
  | .sourceUnavailable .. => 502
  | .malformedDefinition .. => 502

/-- The answer to a request that fails. -/
def ofFailure (e : Failure) : Response :=
  json (failureStatus e) (.object [("error", .text e.message)])

/-- The members that tell which evaluator an answer comes from. -/
def identity (description : String) (generation : UInt64) : List (String × Json.Value) :=
  [("description", .text description), ("generation", .number (.integer generation.toNat))]

/-- A score as a JSON value. -/
def scoreValue (s : Score) : Json.Value :=
  .object (identity s.description s.generation
    ++ [("scores", .array (s.orders.map fun o =>
      match o with
      | some order => orderValue order
      | none => .null))])

/-- The answer to a score request. -/
def ofScore : Except Failure Score → Response
  | .error e => ofFailure e
  | .ok s => json 200 (scoreValue s)

/-- The answer to a demand for a reload. -/
def ofReload : Except Failure Evaluator → Response
  | .error e => ofFailure e
  | .ok e => json 200 (.object (identity e.describe e.key.generation))

/-- The enumerations of a snapshot. -/
def ofSnapshot (s : Snapshot) : Response :=
  json 200 (.object [("generation", .number (.integer s.generation.toNat)),
    ("enums", s.enumerations.json)])

end Response

/-- The paths that are served. -/
inductive Route
  | score
  | reload
  | status
  | enumerations
deriving Repr, DecidableEq

namespace Route

/-- Whether a character ends the path of a target. -/
def endsPath (c : Char) : Bool := c = '?' || c = '#'

/-- A target from its path on: what is left without the scheme and the host that
it may begin with. -/
def fromPath (target : List Char) : List Char :=
  if target.head? = some '/' then target
  else
    match target.dropWhile (· ≠ ':') with
    | ':' :: '/' :: '/' :: rest => rest.dropWhile fun c => c ≠ '/' && !endsPath c
    | _ => []

/-- The path of a target, without query and fragment. -/
def path (target : String) : String :=
  String.ofList ((fromPath target.toList).takeWhile (!endsPath ·))

/-- The route of a target. -/
def ofTarget? (target : String) : Option Route :=
  match path target with
  | "/score" => some .score
  | "/reload" => some .reload
  | "/status" => some .status
  | "/enums" => some .enumerations
  | _ => none

/-- Whether a route is served under a method. What can be read can also be asked
for its head alone. -/
def accepts (method : String) : Route → Bool
  | .score => method = "POST"
  | .reload => method = "POST"
  | .status => method = "GET" || method = "HEAD"
  | .enumerations => method = "GET" || method = "HEAD"

end Route

/-- An answer that takes nothing from the source and leaves the store as it is. -/
def unchanged {α : Type} (store : Store) (answer : α) : Reply α := ⟨0, store, answer, []⟩

/-- Answers a call on a route under a method that the route accepts. -/
def serve (ranker : Ranker) (store : Store) (load : Load) (call : Call) :
    Route → Reply Response
  | .score =>
    match ScoreBody.decode call.contentType call.body with
    | .error refusal => unchanged store (.ofRefusal refusal)
    | .ok request => (ranker.score store load request).map .ofScore
  | .reload => (ranker.reloadAlone store load).map .ofReload
  | .status => unchanged store (.json 200 (ranker.report store).value)
  | .enumerations => unchanged store (.ofSnapshot store.current)

/-- Answers a call. -/
def respond (ranker : Ranker) (store : Store) (load : Load) (call : Call) : Reply Response :=
  match Route.ofTarget? call.target with
  | none => unchanged store (.blank 404)
  | some route =>
    if route.accepts call.method then
      let reply := serve ranker store load call route
      if call.method = "HEAD" then reply.map fun response => { response with body := "" }
      else reply
    else unchanged store (.blank 405)

end EnumOrdering.Http
