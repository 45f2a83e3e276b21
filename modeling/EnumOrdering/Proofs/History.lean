import EnumOrdering.Proofs.Change

/-!
# What an onlooker notes of a run

Someone who sees the actions of a run, the loads that are made for them and what the
source gives can say what became of the store without looking at it: a load that was
made put a set in place or failed, a replacement put a set in place, and nothing else
changes anything. `history` is such a record, and it lists the changes of the run.
-/

namespace EnumOrdering

/-- The failure of a change that is one. -/
def Change.failure? : Change → Option Failure
  | none => Option.none
  | failed e => some e
  | installed _ => Option.none

/-- The sets that were put in place, in their order. -/
def installs (history : List Change) : List EnumerationSet := history.filterMap Change.installed?

/-- The failures of the loads that failed, in their order. -/
def failures (history : List Change) : List Failure := history.filterMap Change.failure?

theorem installs_concat (history : List Change) (change : Change) :
    installs (history ++ [change]) = installs history ++ change.installed?.toList := by
  rw [installs, List.filterMap_append, List.filterMap_cons]
  cases change.installed? <;> rfl

theorem failures_concat (history : List Change) (change : Change) :
    failures (history ++ [change]) = failures history ++ change.failure?.toList := by
  rw [failures, List.filterMap_append, List.filterMap_cons]
  cases change.failure? <;> rfl

/-! ## The loads of an action -/

/-- How many loads a request takes. -/
def Request.takes (request : Request) : Nat := if request.operation.reloads then 1 else 0

namespace Ranker

variable {r : Ranker} {store : Store} {load : Load}

/-- How many loads an action takes. -/
def takes (r : Ranker) : Action → Nat
  | .replace _ => 0
  | .reload => 1
  | action => (r.request? action).elim 0 (·.takes)

theorem loads_evaluator (request : Request) :
    (r.evaluator store load request).loads = request.takes := by
  rw [Request.takes]
  cases hr : request.operation.reloads with
  | false => rw [evaluator_of_not_reloads store load hr]; rfl
  | true =>
      cases h : load.outcome with
      | error e => rw [evaluator_of_load_error hr h]; rfl
      | ok enumerations => rw [evaluator_of_load_ok hr h]; rfl

theorem takes_parse (name : String) (token : Option String) :
    r.takes (.parse name token) =
      (Request.parse r.reloadMark name token).toOption.elim 0 (·.takes) := rfl

theorem loads_parse (name : String) (token : Option String) :
    (r.parse store load name token).loads = r.takes (.parse name token) := by
  rw [parse, takes_parse]
  cases Request.parse r.reloadMark name token with
  | error e => rfl
  | ok request => exact loads_evaluator request

theorem loads_handler (call : Http.Call) (handler : Http.Handler) :
    (handler.reply r store load call).loads =
      (handler.request? r.reloadMark).elim 0 (·.takes) := by
  cases handler with
  | score q =>
      rw [Http.Handler.reply, Reply.map, score, Reply.map, evaluatorOfCode_eq,
        Http.Handler.request?]
      cases q.request r.reloadMark with
      | error e => rfl
      | ok request => exact loads_evaluator request
  | reload => exact loads_evaluator _
  | status => rfl
  | enumerations => rfl
  | refusal response => rfl

theorem loads_perform (action : Action) :
    (r.perform store load action).loads = r.takes action := by
  cases action with
  | parse name token => exact loads_parse name token
  | request request => exact loads_evaluator request
  | reload =>
      rw [perform, Reply.map, reload]
      cases h : load.outcome with
      | error e => rw [reload_of_error h]; rfl
      | ok enumerations => rw [reload_of_ok h]; rfl
  | replace enumerations => rfl
  | snapshot => rfl
  | report => rfl
  | call call =>
      rw [perform, Reply.map, Http.respond_eq_reply]
      exact loads_handler call call.handler

/-! ## The record of a run -/

/-- What is noted of an action with its reply, when the source gives `load`. -/
def noted (action : Action) (load : Load) (reply : Reply Answer) : Change :=
  match action with
  | .replace enumerations => .installed enumerations
  | _ => if reply.loads = 0 then .none else load.change

/-- What is noted of a run. -/
def history (r : Ranker) (store : Store) (run : List (Action × Load)) : List Change :=
  List.zipWith (fun p reply => noted p.1 p.2 reply) run (r.run store run)

theorem noted_perform (action : Action) :
    noted action load (r.perform store load action) = r.change load action := by
  -- A load that a request takes changes the store as the request does.
  have asked (o : Option Request) :
      (if o.elim 0 (·.takes) = 0 then .none else load.change) = o.elim .none (·.change load) := by
    cases o with
    | none => rfl
    | some request =>
        by_cases hr : request.operation.reloads = true <;>
          simp [Request.takes, Request.change, hr]
  cases action with
  | parse name token =>
      simp only [noted, loads_perform]
      exact asked (r.request? (.parse name token))
  | request request =>
      simp only [noted, loads_perform]
      exact asked (some request)
  | reload =>
      simp only [noted, loads_perform]
      rfl
  | replace enumerations => rfl
  | snapshot => rfl
  | report => rfl
  | call call =>
      simp only [noted, loads_perform]
      exact asked (r.request? (.call call))

/-- What is noted of a run is what its actions change. -/
theorem history_eq_map (run : List (Action × Load)) :
    r.history store run = run.map fun p => r.change p.2 p.1 := by
  induction run generalizing store with
  | nil => rfl
  | cons p run ih =>
      obtain ⟨action, load⟩ := p
      rw [history, Ranker.run, List.zipWith_cons_cons, noted_perform, List.map_cons]
      exact congrArg _ ih

theorem installs_history (run : List (Action × Load)) :
    installs (r.history store run) = r.installed run := by
  rw [history_eq_map, installs, List.filterMap_map]
  rfl

end Ranker

end EnumOrdering
