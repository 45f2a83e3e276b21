import EnumOrdering.Http.Router

/-!
# Which handler a call reaches

Path, method, declared type and body of a call decide which handler it reaches, or
with which response it is turned away; the store has no say in it. After that
decision there are only two handlers that ask for an evaluator, and two that read.
-/

namespace EnumOrdering.Http

/-- What becomes of a call before the store is looked at. -/
inductive Handler
  | score (request : ScoreRequest)
  | reload
  | status
  | enumerations
  /-- The call reaches no handler and is answered at once. -/
  | refusal (response : Response)

/-- The handler that a route has for a call. -/
def Route.handler (call : Call) : Route → Handler
  | .score =>
    match ScoreBody.decode call.contentType call.body with
    | .error refusal => .refusal (.ofRefusal refusal)
    | .ok request => .score request
  | .reload => .reload
  | .status => .status
  | .enumerations => .enumerations

/-- The handler that a call reaches. -/
def Call.handler (call : Call) : Handler :=
  match Route.ofTarget? call.target with
  | none => .refusal (.blank 404)
  | some route =>
    if route.accepts call.method then route.handler call else .refusal (.blank 405)

/-- A response as a call gets it: one that asks for the head alone gets no body. -/
def Call.shown (call : Call) (response : Response) : Response :=
  if call.method = "HEAD" then { response with body := "" } else response

/-- What a handler does. -/
def Handler.reply (r : Ranker) (store : Store) (load : Load) (call : Call) :
    Handler → Reply Response
  | .score request => (r.score store load request).map .ofScore
  | .reload => (r.reloadAlone store load).map .ofReload
  | .status => unchanged store (call.shown (.json 200 (r.report store).value))
  | .enumerations => unchanged store (call.shown (.ofSnapshot store.current))
  | .refusal response => unchanged store response

/-- How a call comes to its handler: the route that its target names, a method that the
route accepts and, for the scores, a body that can be read. -/
inductive Reaches (call : Call) : Handler → Prop
  | unknown (ht : Route.ofTarget? call.target = none) : Reaches call (.refusal (.blank 404))
  | notAccepted {route : Route} (ht : Route.ofTarget? call.target = some route)
      (hm : route.accepts call.method = false) : Reaches call (.refusal (.blank 405))
  | notRead {refusal : Refusal} (ht : Route.ofTarget? call.target = some .score)
      (hm : call.method = "POST")
      (hd : ScoreBody.decode call.contentType call.body = .error refusal) :
      Reaches call (.refusal (.ofRefusal refusal))
  | score {q : ScoreRequest} (ht : Route.ofTarget? call.target = some .score)
      (hm : call.method = "POST")
      (hd : ScoreBody.decode call.contentType call.body = .ok q) : Reaches call (.score q)
  | reload (ht : Route.ofTarget? call.target = some .reload) (hm : call.method = "POST") :
      Reaches call .reload
  | status (ht : Route.ofTarget? call.target = some .status) : Reaches call .status
  | enumerations (ht : Route.ofTarget? call.target = some .enumerations) :
      Reaches call .enumerations

theorem reaches_handler (call : Call) : Reaches call call.handler := by
  rw [Call.handler]
  cases ht : Route.ofTarget? call.target with
  | none => exact .unknown ht
  | some route =>
      dsimp only
      cases ha : route.accepts call.method with
      | false => exact .notAccepted ht ha
      | true =>
          cases route with
          | score =>
              have hm : call.method = "POST" := of_decide_eq_true ha
              rw [if_pos rfl, Route.handler]
              cases hd : ScoreBody.decode call.contentType call.body with
              | error refusal => exact .notRead ht hm hd
              | ok q => exact .score ht hm hd
          | reload => exact .reload ht (of_decide_eq_true ha)
          | status => exact .status ht
          | enumerations => exact .enumerations ht

theorem handler_eq_score_iff {call : Call} {q : ScoreRequest} :
    call.handler = .score q ↔
      call.method = "POST" ∧ Route.ofTarget? call.target = some .score ∧
        ScoreBody.decode call.contentType call.body = .ok q := by
  constructor
  · intro h
    cases h ▸ reaches_handler call with
    | score ht hm hd => exact ⟨hm, ht, hd⟩
  · rintro ⟨hm, ht, hd⟩
    simp only [Call.handler, ht, Route.accepts, hm, decide_true, if_true, Route.handler, hd]

/-- A body that is longer than is taken in gives no request for scores. -/
theorem ScoreBody.length_le_of_decode {contentType : Option String} {body : Bytes}
    {q : ScoreRequest} (h : decode contentType body = .ok q) : body.length ≤ maxBodyLength := by
  rw [decode] at h
  split at h
  · split at h
    · assumption
    · cases h
  · cases h

theorem handler_of_tooLong {call : Call} (ht : Route.ofTarget? call.target = some .score)
    (hl : maxBodyLength < call.body.length) : ∃ response, call.handler = .refusal response := by
  have hr := reaches_handler call
  generalize call.handler = handler at hr ⊢
  cases hr with
  | unknown => exact ⟨_, rfl⟩
  | notAccepted => exact ⟨_, rfl⟩
  | notRead => exact ⟨_, rfl⟩
  | score _ _ hd => exact absurd (ScoreBody.length_le_of_decode hd) (Nat.not_le.mpr hl)
  | reload ht' => cases ht.symm.trans ht'
  | status ht' => cases ht.symm.trans ht'
  | enumerations ht' => cases ht.symm.trans ht'

/-- A method that is `POST` does not ask for the head alone. -/
theorem not_head_of_post {method : String} (h : decide (method = "POST") = true) :
    method ≠ "HEAD" := by
  rw [decide_eq_true_eq] at h
  rw [h]
  decide

/-- A call is answered by the handler it reaches. -/
theorem respond_eq_reply (r : Ranker) (store : Store) (load : Load) (call : Call) :
    respond r store load call = call.handler.reply r store load call := by
  rw [respond, Call.handler]
  cases Route.ofTarget? call.target with
  | none => rfl
  | some route =>
      by_cases ha : route.accepts call.method = true
      · simp only [if_pos ha]
        cases route with
        | score =>
            rw [if_neg (not_head_of_post ha), serve, Route.handler]
            cases ScoreBody.decode call.contentType call.body <;> rfl
        | reload => rw [if_neg (not_head_of_post ha)]; rfl
        | status =>
            rw [Route.handler, Handler.reply, Call.shown]
            split <;> rfl
        | enumerations =>
            rw [Route.handler, Handler.reply, Call.shown]
            split <;> rfl
      · simp only [if_neg ha]; rfl

end EnumOrdering.Http
