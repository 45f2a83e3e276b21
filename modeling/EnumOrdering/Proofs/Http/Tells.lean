import EnumOrdering.Proofs.Http.Body
import EnumOrdering.Proofs.Provenance
import EnumOrdering.Proofs.SourceFailures

/-!
# What a response tells of the store

A client that sees a call and its response knows what became of the store, though it sees
neither the store nor the source. A response of status 502 is a reload that failed, and its
body has the error; a reload that worked is told by the response to a call that asked for
one; all other calls left the store as it was. `Tells` says so, and `tells_respond` says it
of every call.

The two handlers that reload differ in what they make of an evaluator and in nothing else,
so the store and the response are compared once, for anything that is made of one.
-/

namespace EnumOrdering

open Json (Value)

namespace Http

/-! ## What a client sees -/

/-- Whether the response to a call tells that a reload failed. -/
def failed (seen : Call × Response) : Bool := seen.2.status == 502

def errorText (response : Response) : Option String :=
  match response.member? "error" with
  | some (.text e) => some e
  | _ => none

/-- Whether the body of a call to the scores has an operation that reloads, or a name with
the reload mark. -/
def asksForReload (mark : String) (call : Call) : Bool :=
  match ScoreBody.decode call.contentType call.body with
  | .error _ => false
  | .ok q => (q.request mark).toOption.elim false (·.operation.reloads)

/-- Whether a call asks for a reload. -/
def Call.reloads (mark : String) (call : Call) : Bool :=
  call.method = "POST" &&
    match Route.ofTarget? call.target with
    | some .reload => true
    | some .score => asksForReload mark call
    | _ => false

/-- Whether the response to a call tells that it reloaded the store: a reload was asked
for, and there is a result, or scores were asked for and the enumeration is unknown. -/
def reloaded (mark : String) (seen : Call × Response) : Bool :=
  seen.1.reloads mark && (seen.2.status == 200 ||
    Route.ofTarget? seen.1.target = some .score && seen.2.status == 404)

/-- What a call and its response tell of a change of the store. -/
inductive Tells (mark : String) (seen : Call × Response) : Change → Prop
  | none (hf : failed seen = false) (hr : reloaded mark seen = false) : Tells mark seen .none
  | failed {e : Failure} (hf : failed seen = true) (he : errorText seen.2 = some e.message)
      (hr : reloaded mark seen = false) : Tells mark seen (.failed e)
  | installed {enumerations : EnumerationSet} (hf : failed seen = false)
      (hr : reloaded mark seen = true) : Tells mark seen (.installed enumerations)

/-! ## Handlers and responses -/

theorem reloads_eq (mark : String) (call : Call) :
    call.reloads mark = (call.handler.request? mark).elim false (·.operation.reloads) := by
  rw [Call.reloads, Call.handler]
  cases Route.ofTarget? call.target with
  | none => exact Bool.and_false _
  | some route =>
      cases route with
      | score =>
          by_cases hm : call.method = "POST"
          · simp only [Route.accepts, Route.handler, asksForReload, hm, decide_true, if_true,
              Bool.true_and]
            cases ScoreBody.decode call.contentType call.body <;> rfl
          · simp [Route.accepts, hm, Handler.request?]
      | reload =>
          by_cases hm : call.method = "POST"
          · simp [Route.accepts, Route.handler, hm, Handler.request?, Request.plain,
              Operation.reloads]
          · simp [Route.accepts, hm, Handler.request?]
      | status =>
          dsimp only
          rw [Bool.and_false]
          cases Route.status.accepts call.method <;> rfl
      | enumerations =>
          dsimp only
          rw [Bool.and_false]
          cases Route.enumerations.accepts call.method <;> rfl

theorem status_of_refusal {call : Call} {response : Response}
    (h : call.handler = .refusal response) :
    response.status ∈ [400, 404, 405, 413, 415, 422] := by
  cases h ▸ reaches_handler call with
  | unknown => decide
  | notAccepted => decide
  | @notRead refusal =>
      show refusal.status ∈ _
      cases refusal with
      | notDeclaredJson => decide
      | tooLong => decide
      | fault body f =>
          rw [Refusal.status]
          split <;> decide

theorem failed_of_status {call : Call} {response : Response} (h : response.status ≠ 502) :
    failed (call, response) = false := beq_eq_false_iff_ne.mpr h

theorem reloaded_of_status {mark : String} {call : Call} {response : Response}
    (h200 : response.status ≠ 200) (h404 : response.status ≠ 404) :
    reloaded mark (call, response) = false := by
  rw [reloaded, beq_eq_false_iff_ne.mpr h200, beq_eq_false_iff_ne.mpr h404]
  simp

theorem status_ofFailure {e : Failure} (h : e.isRequestError = false) :
    (Response.ofFailure e).status = 502 := by
  cases e with
  | sourceUnavailable => rfl
  | malformedDefinition => rfl
  | unknownEnumeration => cases h
  | invalidOperation => cases h

theorem status_ofFailure_ne (e : Failure) : (Response.ofFailure e).status ≠ 200 := by
  cases e with
  | sourceUnavailable | malformedDefinition => exact (by decide : (502 : Nat) ≠ 200)
  | unknownEnumeration => exact (by decide : (404 : Nat) ≠ 200)
  | invalidOperation => exact (by decide : (400 : Nat) ≠ 200)

theorem errorText_ofFailure (e : Failure) : errorText (.ofFailure e) = some e.message := by
  rw [errorText, Response.error_ofFailure]

end Http

namespace Ranker

variable {r : Ranker} {store : Store} {load : Load}

theorem resolve_error {snapshot : Snapshot} {request : Request} {e : Failure}
    (h : (r.resolve snapshot request).1 = .error e) :
    request.operation ≠ .reloadOnly ∧ e = .unknownEnumeration request.name := by
  have hd := r.resolve_due snapshot request
  rw [h] at hd
  cases hd with
  | unknown ho => exact ⟨ho, rfl⟩

end Ranker

namespace Http

open Ranker

variable {r : Ranker} {store : Store} {load : Load} {call : Call}

/-! ## One call -/

section
variable {request : Request} (answered : Except Failure Evaluator → Response)
  (hok : ∀ e, (answered (.ok e)).status = 200) (herr : ∀ e, answered (.error e) = .ofFailure e)
include hok herr

/-- From a snapshot there is a result, or an enumeration is unknown, though not to a reload
alone. -/
theorem status_resolve (snapshot : Snapshot) :
    (answered (r.resolve snapshot request).1).status = 200 ∨
      (answered (r.resolve snapshot request).1).status = 404 ∧
        request.operation ≠ .reloadOnly := by
  cases h : (r.resolve snapshot request).1 with
  | ok e => exact .inl (hok e)
  | error e =>
      obtain ⟨ho, rfl⟩ := resolve_error h
      rw [herr]
      exact .inr ⟨rfl, ho⟩

theorem tells_evaluator {mark : String} (hl : FailsBySource load.outcome)
    (hc : call.reloads mark = request.operation.reloads)
    (ht : request.operation ≠ .reloadOnly → Route.ofTarget? call.target = some .score) :
    Tells mark (call, answered (r.evaluator store load request).answer)
      (request.change load) := by
  -- No answer from a snapshot tells of a failure, and it tells of a reload if there was one.
  have resolved (snapshot : Snapshot) :
      let seen := (call, answered (r.resolve snapshot request).1)
      failed seen = false ∧ reloaded mark seen = request.operation.reloads := by
    rcases status_resolve (r := r) answered hok herr snapshot with hs | ⟨hs, ho⟩
    · exact ⟨by rw [failed, hs]; rfl, by rw [reloaded, hs, hc]; exact Bool.and_true _⟩
    · refine ⟨by rw [failed, hs]; rfl, ?_⟩
      rw [reloaded, hs, hc, ht ho]
      exact Bool.and_true _
  rw [Request.change]
  cases hr : request.operation.reloads with
  | false =>
      rw [evaluator_of_not_reloads store load hr]
      obtain ⟨hf, ha⟩ := resolved store.current
      exact .none hf (ha.trans hr)
  | true =>
      rw [if_pos rfl, Load.change]
      cases ho : load.outcome with
      | error e =>
          have hs := status_ofFailure (hl e ho)
          rw [evaluator_of_load_error hr ho, herr]
          exact .failed (beq_iff_eq.mpr hs) (errorText_ofFailure e)
            (reloaded_of_status (hs ▸ by decide) (hs ▸ by decide))
      | ok enumerations =>
          rw [evaluator_of_load_ok hr ho]
          obtain ⟨hf, ha⟩ := resolved (store.install enumerations).current
          exact .installed hf (ha.trans hr)

omit hok in
theorem generation_evaluator
    (hg : ∀ e, (answered (.ok e)).member? "generation" =
      some (.number (.integer e.key.generation.toNat)))
    (hs : (answered (r.evaluator store load request).answer).status = 200) :
    (answered (r.evaluator store load request).answer).member? "generation" =
      some (.number (.integer (r.evaluator store load request).store.generation.toNat)) := by
  cases he : (r.evaluator store load request).answer with
  | error e =>
      rw [he, herr] at hs
      exact (status_ofFailure_ne e hs).elim
  | ok e => rw [hg, (evaluator_owns he).generation]

end

theorem request_error {mark : String} {q : ScoreRequest} {e : Failure}
    (h : q.request mark = .error e) : ∃ code, e = .invalidOperation code := by
  rw [ScoreRequest.request, Operation.ofCode] at h
  by_cases h0 : q.code.getD 0 = 0
  · rw [if_pos h0] at h
    cases h
  · by_cases h1 : q.code.getD 0 = 1
    · rw [if_neg h0, if_pos h1] at h
      cases h
    · by_cases h2 : q.code.getD 0 = 2
      · rw [if_neg h0, if_neg h1, if_pos h2] at h
        cases h
      · rw [if_neg h0, if_neg h1, if_neg h2] at h
        cases h
        exact ⟨_, rfl⟩

theorem status_shown (response : Response) : (call.shown response).status = response.status := by
  rw [Call.shown]
  split <;> rfl

theorem answer_score (store : Store) (load : Load) {q : ScoreRequest} {request : Request}
    (h : q.request r.reloadMark = .ok request) :
    (r.score store load q).store = (r.evaluator store load request).store ∧
      (r.score store load q).answer =
        (r.evaluator store load request).answer.map fun e => e.score q.values := by
  rw [score, Reply.map, evaluatorOfCode_eq, h]
  exact ⟨rfl, rfl⟩

theorem answer_score_error {q : ScoreRequest} {e : Failure}
    (h : q.request r.reloadMark = .error e) :
    (r.score store load q).answer = .error e := by
  rw [score, Reply.map, evaluatorOfCode_eq, h]
  rfl

/-- A call and its response tell what became of the store. -/
theorem tells_respond (r : Ranker) (store : Store) (call : Call) (hl : FailsBySource load.outcome) :
    Tells r.reloadMark (call, (respond r store load call).answer) (r.change load (.call call)) := by
  have hc := reloads_eq r.reloadMark call
  show Tells _ _ ((call.handler.request? r.reloadMark).elim .none (·.change load))
  -- A call that makes no request reloads nothing, and is not answered as if it had failed to.
  have quiet {response : Response} (hq : call.handler.request? r.reloadMark = none)
      (hs : response.status ≠ 502) :
      Tells r.reloadMark (call, response) .none := by
    refine .none (failed_of_status hs) ?_
    rw [hq] at hc
    rw [reloaded, hc]
    rfl
  rw [respond_eq_reply]
  cases hh : call.handler with
  | score q =>
      rw [hh] at hc quiet
      rw [Handler.request?] at hc quiet ⊢
      rw [Handler.reply, Reply.map]
      cases hq : q.request r.reloadMark with
      | error e =>
          obtain ⟨code, rfl⟩ := request_error hq
          rw [answer_score_error hq]
          exact quiet (by rw [hq]; rfl) (by decide : (400 : Nat) ≠ 502)
      | ok request =>
          rw [hq] at hc
          rw [(answer_score store load hq).2]
          exact tells_evaluator (fun answer => .ofScore (answer.map _)) (fun e => rfl)
            (fun e => rfl) hl hc fun _ => (handler_eq_score_iff.mp hh).2.1
  | reload =>
      rw [hh] at hc
      exact tells_evaluator .ofReload (fun e => rfl) (fun e => rfl) hl hc fun ho => (ho rfl).elim
  | status =>
      refine quiet (by rw [hh]; rfl) ?_
      rw [Handler.reply, unchanged, status_shown]
      exact (by decide : (200 : Nat) ≠ 502)
  | enumerations =>
      refine quiet (by rw [hh]; rfl) ?_
      rw [Handler.reply, unchanged, status_shown]
      exact (by decide : (200 : Nat) ≠ 502)
  | refusal response =>
      exact quiet (by rw [hh]; rfl) (ne_of_mem_of_not_mem (status_of_refusal hh) (by decide))

/-- A result tells the generation that is in use once the call is answered. -/
theorem generation_respond (hs : (respond r store load call).answer.status = 200)
    (hm : call.method ≠ "HEAD") :
    (respond r store load call).answer.member? "generation" =
      some (.number (.integer (respond r store load call).store.generation.toNat)) := by
  rw [respond_eq_reply] at hs ⊢
  cases hh : call.handler with
  | score q =>
      rw [hh, Handler.reply, Reply.map] at hs
      rw [Handler.reply, Reply.map]
      dsimp only at hs ⊢
      cases hq : q.request r.reloadMark with
      | error e =>
          rw [answer_score_error hq] at hs
          exact (status_ofFailure_ne e hs).elim
      | ok request =>
          obtain ⟨hst, ha⟩ := answer_score store load hq
          rw [ha] at hs
          rw [ha, hst]
          exact generation_evaluator (fun answer => .ofScore (answer.map _)) (fun e => rfl)
            (fun e => Response.generation_ofScore (e.score q.values)) hs
  | reload =>
      rw [hh] at hs
      exact generation_evaluator .ofReload (fun e => rfl) Response.generation_ofReload hs
  | status =>
      rw [Handler.reply, unchanged, Call.shown, if_neg hm]
      exact Response.generation_report (r.report store)
  | enumerations =>
      rw [Handler.reply, unchanged, Call.shown, if_neg hm]
      exact Response.generation_ofSnapshot store.current
  | refusal response =>
      rw [hh] at hs
      exact absurd (hs ▸ status_of_refusal hh) (by decide)

theorem respond_store :
    (respond r store load call).store = store.apply (r.change load (.call call)) :=
  perform_store (.call call)

/-- A call that asks for no reload leaves the store as it was, whatever the source gives. -/
theorem respond_of_not_reloads (h : call.reloads r.reloadMark = false) :
    (respond r store load call).store = store := by
  rw [respond_store]
  rw [reloads_eq] at h
  show store.apply ((call.handler.request? r.reloadMark).elim .none (·.change load)) = store
  cases hq : call.handler.request? r.reloadMark with
  | none => rfl
  | some request =>
      have ho : request.operation.reloads = false := by rw [hq] at h; exact h
      rw [Option.elim_some, Request.change, ho]
      rfl

/-- So does one whose response tells of no failure and of no reload. -/
theorem respond_of_untold (hl : FailsBySource load.outcome)
    (hf : failed (call, (respond r store load call).answer) = false)
    (hr : reloaded r.reloadMark (call, (respond r store load call).answer) = false) :
    (respond r store load call).store = store := by
  have ht := tells_respond r store call hl
  rw [respond_store]
  cases hc : r.change load (.call call) with
  | none => rfl
  | failed e =>
      rw [hc] at ht
      cases ht with
      | failed told => exact absurd (told.symm.trans hf) (by decide)
  | installed enumerations =>
      rw [hc] at ht
      cases ht with
      | installed _ told => exact absurd (told.symm.trans hr) (by decide)

theorem respond_status (hm : call.method = "GET")
    (ht : Route.ofTarget? call.target = some .status) :
    respond r store load call = unchanged store (.json 200 (r.report store).value) := by
  have hh : call.handler = .status := by
    rw [Call.handler, ht]
    simp only [Route.accepts, hm]
    rfl
  rw [respond_eq_reply, hh, Handler.reply, Call.shown, hm]
  rfl

end Http

end EnumOrdering
