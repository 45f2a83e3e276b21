import EnumOrdering.Proofs.Accounting

/-!
# The trail of a store in the log

A store writes a line for every load that is made for it: one to inform of the set that is
in place now, or one to warn that the load failed. Whoever has only these lines knows the
counters of the store. The generations in them go up one by one to the one in use, a warning
names the generation that the lines before it have come to, and the last warning has the
error that the store keeps.

What one action can do is said once, by `Told`: the loads that it took, the store after it
and the events on the way belong together. All else is read off its three cases. The
invariant of a run is `Store.Logged`, which ties a store to what has been written so far.
-/

namespace EnumOrdering

/-- Whether an event is for whoever runs the store, not just for tracing requests. -/
def Event.isNotable (e : Event) : Bool := decide (e.level ≠ .debug)

/-- The generation that an event says has begun. -/
def Event.newGeneration? : Event → Option UInt64
  | .reloaded _ _ generation => some generation
  | _ => none

/-- The notable events of a reply that the load did not come with. -/
def Reply.notes {α : Type} (reply : Reply α) (load : Load) : List Event :=
  (reply.events.drop (reply.loads * load.events.length)).filter Event.isNotable

/-- How many events inform of new enumerations. -/
def informed (events : List Event) : Nat := events.countP (·.level = .info)

/-- How many events warn of a failure. -/
def warned (events : List Event) : Nat := events.countP (·.level = .warn)

theorem informed_append (front back : List Event) :
    informed (front ++ back) = informed front + informed back := List.countP_append

theorem warned_append (front back : List Event) :
    warned (front ++ back) = warned front + warned back := List.countP_append

/-! ## What one action can do -/

/-- No event of these is notable. -/
def Quiet (events : List Event) : Prop := ∀ e ∈ events, e.level = .debug

theorem Quiet.nil : Quiet [] := List.forall_mem_nil _

theorem Quiet.singleton {e : Event} (h : e.level = .debug) : Quiet [e] :=
  List.forall_mem_singleton.mpr h

theorem Quiet.filter_isNotable {events : List Event} (h : Quiet events) :
    events.filter Event.isNotable = [] := by
  refine List.filter_eq_nil_iff.mpr fun e he => ?_
  simp [Event.isNotable, h e he]

/-- The reply to anything but a replacement, asked of a store: no load was made and the
store is what it was, or there was a load, and the event of its outcome follows those that
the load came with. -/
inductive Told (source : String) (store : Store) (load : Load) {α : Type} : Reply α → Prop
  | nothing {answer : α} {later : List Event} (hq : Quiet later) :
      Told source store load ⟨0, store, answer, later⟩
  | reloaded {enumerations : EnumerationSet} {answer : α} {later : List Event}
      (ho : load.outcome = .ok enumerations) (hq : Quiet later) :
      Told source store load ⟨1, store.install enumerations, answer,
        load.events ++ .reloaded source enumerations.size (store.generation + 1) :: later⟩
  | failed {e : Failure} {answer : α} (ho : load.outcome = .error e) :
      Told source store load ⟨1, store.fail e, answer,
        load.events ++ [.reloadFailed store.generation e.message]⟩

section
variable {source : String} {store : Store} {load : Load} {α β : Type} {reply : Reply α}

theorem Told.map (h : Told source store load reply) (f : α → β) :
    Told source store load (reply.map f) := by
  cases h with
  | nothing hq => exact .nothing hq
  | reloaded ho hq => exact .reloaded ho hq
  | failed ho => exact .failed ho

theorem notes_of_no_load {answer : α} {later : List Event} (hq : Quiet later) :
    (Reply.mk 0 store answer later).notes load = [] := by
  rw [Reply.notes, Nat.zero_mul, List.drop_zero, hq.filter_isNotable]

theorem notes_of_load {answer : α} {later : List Event} :
    (Reply.mk 1 store answer (load.events ++ later)).notes load =
      later.filter Event.isNotable := by
  rw [Reply.notes, Nat.one_mul, List.drop_left]

theorem notes_reloaded {generation : UInt64} {size : Nat} {answer : α} {later : List Event}
    (hq : Quiet later) :
    (Reply.mk 1 store answer (load.events ++ .reloaded source size generation :: later)).notes
      load = [.reloaded source size generation] := by
  rw [notes_of_load, List.filter_cons_of_pos rfl, hq.filter_isNotable]

theorem notes_failed {generation : UInt64} {reason : String} {answer : α} :
    (Reply.mk 1 store answer (load.events ++ [.reloadFailed generation reason])).notes load =
      [.reloadFailed generation reason] := notes_of_load

/-- What a reply leaves behind it: nothing without a load, and for a load the event of its
outcome, which shows the store as it is afterwards. -/
inductive Marks (source : String) (load : Load) (reply : Reply α) : List Event → Prop
  | nothing (hl : reply.loads = 0) : Marks source load reply []
  | reloaded {enumerations : EnumerationSet} (hl : reply.loads = 1)
      (ho : load.outcome = .ok enumerations)
      (hc : reply.store.current.enumerations = enumerations) :
      Marks source load reply [.reloaded source enumerations.size reply.store.generation]
  | failed {e : Failure} {reason : String} (hl : reply.loads = 1) (ho : load.outcome = .error e)
      (hr : reply.store.lastError = some reason) :
      Marks source load reply [.reloadFailed reply.store.generation reason]

theorem Told.marks (h : Told source store load reply) :
    Marks source load reply (reply.notes load) := by
  cases h with
  | nothing hq => rw [notes_of_no_load hq]; exact .nothing rfl
  | reloaded ho hq => rw [notes_reloaded hq]; exact .reloaded rfl ho rfl
  | failed ho => rw [notes_failed]; exact .failed rfl ho rfl

/-- Where the load came with nothing notable, the notes are all that is notable. -/
theorem Told.filter_events (h : Told source store load reply) (hq : Quiet load.events) :
    reply.events.filter Event.isNotable = reply.notes load := by
  cases h with
  | nothing hl => rw [notes_of_no_load hl, hl.filter_isNotable]
  | reloaded ho hl => rw [notes_of_load, List.filter_append, hq.filter_isNotable, List.nil_append]
  | failed ho => rw [notes_of_load, List.filter_append, hq.filter_isNotable, List.nil_append]

end

/-! ## What the trail says of the store -/

/-- The reason that an event gives for a failed reload. -/
def Event.failureReason? : Event → Option String
  | .reloadFailed _ reason => some reason
  | _ => none

/-- A store agrees with the trail that it has left since its first generation. -/
structure Store.Logged (s : Store) (trail : List Event) : Prop where
  generation : s.generation = UInt64.ofNat (informed trail)
  generations : trail.filterMap Event.newGeneration? =
    (List.range (informed trail)).map fun i => UInt64.ofNat (i + 1)
  reloadsFailed : s.reloadsFailed = UInt64.ofNat (warned trail)
  lastError : s.lastError = (trail.filterMap Event.failureReason?).getLast?
  kept : ∀ past generation reason future,
    trail = past ++ .reloadFailed generation reason :: future →
      generation = UInt64.ofNat (informed past)

/-- An item of a list with one more at its end is that one or is among those before it. -/
theorem concat_eq_append_cons {γ : Type} {front past future : List γ} {last x : γ}
    (h : front ++ [last] = past ++ x :: future) :
    (front = past ∧ last = x) ∨ ∃ between, front = past ++ x :: between := by
  rcases List.eq_nil_or_concat future with rfl | ⟨between, y, rfl⟩
  · obtain ⟨hf, hl⟩ := List.append_inj' h rfl
    exact .inl ⟨hf, List.singleton_inj.mp hl⟩
  · rw [List.concat_eq_append, ← List.cons_append, ← List.append_assoc] at h
    exact .inr ⟨between, (List.append_inj' h rfl).1⟩

namespace Store

variable {source : String} {store : Store} {load : Load} {α : Type} {reply : Reply α}
  {trail : List Event}

theorem logged_new (initial : EnumerationSet) : (new initial).Logged [] where
  generation := rfl
  generations := rfl
  reloadsFailed := rfl
  lastError := rfl
  kept past _ _ _ h := by cases past <;> cases h

theorem Logged.install (h : store.Logged trail) (enumerations : EnumerationSet) (size : Nat) :
    (store.install enumerations).Logged
      (trail ++ [.reloaded source size (store.generation + 1)]) := by
  have hi : informed (trail ++ [.reloaded source size (store.generation + 1)]) =
      informed trail + 1 := informed_append _ _
  -- The new generation is the number of events that inform of one, this one included.
  have hg : store.generation + 1 = UInt64.ofNat (informed trail + 1) := by
    rw [h.generation, UInt64.ofNat_add]
    rfl
  constructor
  case generation => rw [hi]; exact hg
  case generations =>
    rw [hi, List.filterMap_append, h.generations, List.range_succ, List.map_append, hg]
    rfl
  case reloadsFailed =>
    rw [warned_append]
    exact h.reloadsFailed
  case lastError =>
    rw [List.filterMap_append, List.filterMap_cons_none rfl, List.filterMap_nil, List.append_nil]
    exact h.lastError
  case kept =>
    intro past generation reason future he
    rcases concat_eq_append_cons he with ⟨-, hx⟩ | ⟨between, hb⟩
    · cases hx
    · exact h.kept past generation reason between hb

theorem Logged.fail (h : store.Logged trail) (e : Failure) :
    (store.fail e).Logged (trail ++ [.reloadFailed store.generation e.message]) := by
  have hi : informed (trail ++ [.reloadFailed store.generation e.message]) = informed trail :=
    informed_append _ _
  constructor
  case generation => rw [hi]; exact h.generation
  case generations =>
    rw [hi, List.filterMap_append, List.filterMap_cons_none rfl, List.filterMap_nil,
      List.append_nil]
    exact h.generations
  case reloadsFailed =>
    rw [warned_append, UInt64.ofNat_add]
    exact congrArg (· + 1) h.reloadsFailed
  case lastError =>
    rw [List.filterMap_append]
    exact List.getLast?_concat.symm
  case kept =>
    intro past generation reason future he
    rcases concat_eq_append_cons he with ⟨rfl, hx⟩ | ⟨between, hb⟩
    · -- This is the warning just written, and all of the trail is before it.
      cases hx
      exact h.generation
    · exact h.kept past generation reason between hb

/-- What an action does to the store and what it leaves in the trail go together. -/
theorem Logged.step (h : store.Logged trail) (ht : Told source store load reply) :
    reply.store.Logged (trail ++ reply.notes load) := by
  cases ht with
  | nothing hq => rw [notes_of_no_load hq, List.append_nil]; exact h
  | reloaded ho hq => rw [notes_reloaded hq]; exact h.install _ _
  | failed ho => rw [notes_failed]; exact h.fail _

end Store

/-! ## Every action but a replacement -/

namespace Ranker

variable {r : Ranker} {store : Store} {load : Load} {initial : EnumerationSet}

theorem quiet_resolve (snapshot : Snapshot) (request : Request) :
    Quiet (r.resolve snapshot request).2 := by
  rw [resolve]
  split
  · exact .nil
  · split
    · exact .singleton rfl
    · split
      · exact .singleton rfl
      · exact .nil

theorem told_reload : Told r.source store load (r.reload store load) := by
  rw [reload]
  cases ho : load.outcome with
  | error e => rw [reload_of_error ho]; exact .failed ho
  | ok enumerations => rw [reload_of_ok ho]; exact .reloaded ho .nil

theorem told_evaluator (request : Request) :
    Told r.source store load (r.evaluator store load request) := by
  cases hr : request.operation.reloads with
  | false =>
      rw [evaluator_of_not_reloads store load hr]
      exact .nothing (quiet_resolve _ _)
  | true =>
      cases ho : load.outcome with
      | error e =>
          rw [evaluator_of_load_error hr ho, reload, reload_of_error ho]
          exact .failed ho
      | ok enumerations =>
          rw [evaluator_of_load_ok hr ho, reload, reload_of_ok ho, List.append_assoc]
          exact .reloaded ho (quiet_resolve _ _)

theorem told_parse (name : String) (token : Option String) :
    Told r.source store load (r.parse store load name token) := by
  rw [parse]
  cases Request.parse r.reloadMark name token with
  | error e => exact .nothing .nil
  | ok request => exact told_evaluator request

theorem told_handler (call : Http.Call) (handler : Http.Handler) :
    Told r.source store load (handler.reply r store load call) := by
  cases handler with
  | score q =>
      refine Told.map (Told.map ?_ _) _
      rw [evaluatorOfCode_eq]
      cases q.request r.reloadMark with
      | error e => exact .nothing .nil
      | ok request => exact told_evaluator request
  | reload => exact (told_evaluator _).map _
  | status => exact .nothing .nil
  | enumerations => exact .nothing .nil
  | refusal response => exact .nothing .nil

theorem told_perform {action : Action} (ha : ∀ enumerations, action ≠ .replace enumerations) :
    Told r.source store load (r.perform store load action) := by
  cases action with
  | parse name token => exact (told_parse name token).map _
  | request request => exact (told_evaluator request).map _
  | reload => exact told_reload.map _
  | replace enumerations => exact absurd rfl (ha enumerations)
  | snapshot => exact .nothing .nil
  | report => exact .nothing .nil
  | call call =>
      rw [perform, Http.respond_eq_reply]
      exact (told_handler call call.handler).map _

/-! ## The trail of a run -/

/-- The notes of all replies of a run, in their order. -/
def trail (r : Ranker) (store : Store) (run : List (Action × Load)) : List Event :=
  (List.zipWith (fun p reply => reply.notes p.2) run (r.run store run)).flatten

theorem trail_cons (action : Action) (run : List (Action × Load)) :
    r.trail store ((action, load) :: run) =
      (r.perform store load action).notes load ++
        r.trail (r.perform store load action).store run := rfl

/-- A run in which sets are put in place by reloads alone. -/
def OnlyReloads (run : List (Action × Load)) : Prop :=
  ∀ p ∈ run, ∀ enumerations, p.1 ≠ .replace enumerations

theorem logged_finalStore {past : List Event} (run : List (Action × Load))
    (h : store.Logged past) (hr : OnlyReloads run) :
    (r.finalStore store run).Logged (past ++ r.trail store run) := by
  induction run generalizing store past with
  | nil => rw [trail, Ranker.run, List.zipWith_nil_left, List.flatten_nil, List.append_nil]; exact h
  | cons p run ih =>
      obtain ⟨action, load⟩ := p
      obtain ⟨ha, hr⟩ := List.forall_mem_cons.mp hr
      rw [trail_cons, ← List.append_assoc]
      exact ih (h.step (told_perform ha)) hr

/-- Where no load comes with anything notable, the trail is all of the log that is. -/
theorem filter_log (run : List (Action × Load)) (hr : OnlyReloads run)
    (hq : ∀ p ∈ run, Quiet p.2.events) :
    ((r.run store run).flatMap Reply.events).filter Event.isNotable = r.trail store run := by
  induction run generalizing store with
  | nil => rfl
  | cons p run ih =>
      obtain ⟨action, load⟩ := p
      obtain ⟨ha, hr⟩ := List.forall_mem_cons.mp hr
      obtain ⟨hl, hq⟩ := List.forall_mem_cons.mp hq
      rw [Ranker.run, List.flatMap_cons, List.filter_append, (told_perform ha).filter_events hl,
        ih hr hq, trail_cons]

/-- The numbers that the trail gives while sixty-four bits hold them. -/
theorem generations_of_lt {s : Store} {trail : List Event} (h : s.Logged trail)
    (hn : informed trail < UInt64.size) :
    (trail.filterMap Event.newGeneration?).map UInt64.toNat =
      List.range' 1 s.generation.toNat := by
  rw [h.generation, UInt64.toNat_ofNat_of_lt' hn, h.generations, List.map_map,
    List.range'_eq_map_range]
  refine List.map_congr_left fun i hi => ?_
  have hi : i < informed trail := List.mem_range.mp hi
  rw [Function.comp_apply, UInt64.toNat_ofNat_of_lt' (by omega), Nat.add_comm]

end Ranker

end EnumOrdering
