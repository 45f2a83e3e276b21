import EnumOrdering.Proofs.History

/-!
# The reload mark against the operations

There are two ways to ask for a reload: by the operation, and by the mark before
the name. The second is told here in terms of the first. A request by a name whose
mark was taken off reloads and evaluates as one without a mark does, and where the
reload brings no enumeration of that name it comes down to a reload alone. Names
that are the mark and nothing else are reloads alone from the start, whatever
enumerations there are, one with the empty name included.
-/

namespace EnumOrdering

namespace Request

theorem ofName_mark {mark : String} (hm : mark ≠ "") (operation : Operation) :
    ofName mark mark operation = ⟨"", .reloadOnly, true⟩ :=
  ofName_eq_iff.mpr (.markAlone hm rfl)

/-- A request reloads by its operation or by its mark, and by nothing else. -/
theorem ofName_reloads_iff {mark name : String} {operation : Operation} :
    (ofName mark name operation).operation.reloads = true ↔
      operation.reloads = true ∨ (mark ≠ "" ∧ ∃ rest, name = mark ++ rest) := by
  generalize hq : ofName mark name operation = request
  cases ofName_eq_iff.mp hq with
  | unmarked h =>
      refine ⟨.inl, fun hr => hr.resolve_right ?_⟩
      rintro ⟨hm, rest, hn⟩
      exact h.elim hm (fun h => h rest hn)
  | markAlone hm hn => exact ⟨fun _ => .inr ⟨hm, "", by simp [hn]⟩, fun _ => rfl⟩
  | reloadOnly hm hr hn => exact ⟨fun _ => .inl rfl, fun _ => rfl⟩
  | reloadFirst hm hr hn ho => exact ⟨fun _ => .inr ⟨hm, _, hn⟩, fun _ => rfl⟩

/-- With the operation of a reload alone the mark makes no difference to it. -/
theorem ofName_reloadOnly (mark name : String) :
    (ofName mark name .reloadOnly).operation = .reloadOnly := by
  generalize hq : ofName mark name .reloadOnly = request
  cases ofName_eq_iff.mp hq with
  | unmarked => rfl
  | markAlone => rfl
  | reloadOnly => rfl
  | reloadFirst hm hr hn ho => exact absurd rfl ho

end Request

namespace Ranker

variable {r : Ranker} {store : Store} {load : Load} {request : Request}

theorem loads_pos_iff (request : Request) :
    0 < (r.evaluator store load request).loads ↔ request.operation.reloads = true := by
  rw [loads_evaluator, Request.takes]
  cases request.operation.reloads <;> simp

theorem resolve_reloadOnly (snapshot : Snapshot) (ho : request.operation = .reloadOnly) :
    r.resolve snapshot request = (.ok (r.noop snapshot.generation), []) := by
  rw [resolve, if_pos ho]

/-- A reload alone looks neither at the name nor at whether it was marked. -/
theorem evaluator_reloadOnly (ho : request.operation = .reloadOnly) (other : String) :
    r.evaluator store load request = r.evaluator store load (.plain other .reloadOnly) := by
  have hr : request.operation.reloads = true := by rw [ho]; rfl
  cases hl : load.outcome with
  | error e => rw [evaluator_of_load_error hr hl, evaluator_of_load_error rfl hl]
  | ok enumerations =>
      rw [evaluator_of_load_ok hr hl, evaluator_of_load_ok rfl hl, resolve_reloadOnly _ ho,
        resolve_reloadOnly _ rfl]

/-- The reload went through and brought no enumeration of the name asked for. -/
def UnknownAfterReload (load : Load) (answer : Except Failure Evaluator) : Prop :=
  (∃ enumerations, load.outcome = .ok enumerations) ∧
    ∃ name, answer = .error (.unknownEnumeration name)

/-- A marked name differs from a plain one only when the enumeration is not among
those that the reload brought. -/
theorem resolve_marked {snapshot : Snapshot} {name : String} {m : Mapping}
    (hm : snapshot.enumerations.get? name = some m) :
    r.resolve snapshot ⟨name, .reloadThenEvaluate, true⟩ =
      r.resolve snapshot (.plain name .reloadThenEvaluate) := by
  simp only [resolve, Request.plain, hm]

theorem resolve_markedUnknown {snapshot : Snapshot} {name : String}
    (hm : snapshot.enumerations.get? name = none) :
    r.resolve snapshot ⟨name, .reloadThenEvaluate, true⟩ =
      (.ok (r.noop snapshot.generation), [.markedUnknown name]) := by
  simp [resolve, hm]

theorem resolve_plain_eq_unknown_iff {snapshot : Snapshot} {name asked : String} :
    (r.resolve snapshot (.plain name .reloadThenEvaluate)).1 = .error (.unknownEnumeration asked) ↔
      asked = name ∧ snapshot.enumerations.get? name = none := by
  cases hm : snapshot.enumerations.get? name with
  | none => simp [resolve, Request.plain, hm, eq_comm]
  | some m => simp [resolve, Request.plain, hm]

/-- A marked name that the reload did not bring: the reload is all there is. -/
theorem evaluator_marked_of_unknown {name : String} (other : String)
    (h : UnknownAfterReload load
      (r.evaluator store load (.plain name .reloadThenEvaluate)).answer) :
    let alone := r.evaluator store load (.plain other .reloadOnly)
    r.evaluator store load ⟨name, .reloadThenEvaluate, true⟩ =
        { alone with events := alone.events ++ [.markedUnknown name] } ∧
      alone.answer = .ok (r.noop alone.store.generation) := by
  obtain ⟨⟨enumerations, hl⟩, asked, ha⟩ := h
  rw [evaluator_of_load_ok rfl hl] at ha
  obtain ⟨-, hm⟩ := resolve_plain_eq_unknown_iff.mp ha
  rw [evaluator_of_load_ok rfl hl, evaluator_of_load_ok rfl hl, resolve_markedUnknown hm,
    resolve_reloadOnly _ rfl]
  exact ⟨by simp, rfl⟩

/-- In every other case the mark leaves no trace, a load that fails included. -/
theorem evaluator_marked_of_not_unknown {name : String}
    (h : ¬ UnknownAfterReload load
      (r.evaluator store load (.plain name .reloadThenEvaluate)).answer) :
    r.evaluator store load ⟨name, .reloadThenEvaluate, true⟩ =
      r.evaluator store load (.plain name .reloadThenEvaluate) := by
  cases hl : load.outcome with
  | error e => rw [evaluator_of_load_error rfl hl, evaluator_of_load_error rfl hl]
  | ok enumerations =>
      cases hm : enumerations.get? name with
      | none =>
          refine absurd ⟨⟨enumerations, hl⟩, name, ?_⟩ h
          rw [evaluator_of_load_ok rfl hl]
          exact resolve_plain_eq_unknown_iff.mpr ⟨rfl, hm⟩
      | some m =>
          rw [evaluator_of_load_ok rfl hl, evaluator_of_load_ok rfl hl, resolve_marked hm]

/-- What a name with a mark does, told by requests without one. The mark is taken
off once, so the name behind it may begin with the mark again. -/
theorem marks_agree_with_operations (r : Ranker) (store : Store) (load : Load) (mark : String)
    (operation : Operation) :
    (∀ name other, mark ≠ "" → name ≠ "" → operation ≠ .reloadOnly →
      let marked := r.evaluator store load (.ofName mark (mark ++ name) operation)
      let full := r.evaluator store load (.plain name .reloadThenEvaluate)
      let alone := r.evaluator store load (.plain other .reloadOnly)
      marked.store = full.store ∧
      (UnknownAfterReload load full.answer →
        marked = { alone with events := alone.events ++ [.markedUnknown name] } ∧
          alone.answer = .ok (r.noop alone.store.generation)) ∧
      (¬ UnknownAfterReload load full.answer → marked = full)) ∧
    (∀ name other, operation = .reloadOnly ∨ (mark ≠ "" ∧ name = mark) →
      r.evaluator store load (.ofName mark name operation) =
        r.evaluator store load (.plain other .reloadOnly)) ∧
    (∀ name, mark = "" ∨ (∀ rest, name ≠ mark ++ rest) →
      Request.ofName mark name operation = .plain name operation) ∧
    (∀ name, 0 < (r.evaluator store load (.ofName mark name operation)).loads ↔
      operation.reloads = true ∨ (mark ≠ "" ∧ ∃ rest, name = mark ++ rest)) := by
  refine ⟨fun name other hm hn ho => ?_, fun name other h => ?_, fun name h => ?_, fun name => ?_⟩
  · rw [Request.ofName_append hm, Request.reloading_of_ne hn, if_neg ho]
    exact ⟨by rw [evaluator_store, evaluator_store]; rfl, evaluator_marked_of_unknown other,
      evaluator_marked_of_not_unknown⟩
  · rcases h with rfl | ⟨hm, rfl⟩
    · exact evaluator_reloadOnly (Request.ofName_reloadOnly mark name) other
    · exact evaluator_reloadOnly (by rw [Request.ofName_mark hm]) other
  · exact Request.ofName_of_unmarked operation h
  · exact (loads_pos_iff _).trans Request.ofName_reloads_iff

/-- A name behind two marks where no enumeration begins with one: an evaluation
that comes down to a reload. -/
theorem marks_agree_with_operations_twice :
    let r : Ranker := ⟨"scripted", ⟨-1, 0⟩, .report, "__"⟩
    let store := Store.new .empty
    let load : Load := ⟨.ok .empty, []⟩
    let alone := r.evaluator store load (.plain "medal" .reloadOnly)
    r.evaluator store load (.ofName "__" ("__" ++ "__medal") .evaluate) =
        { alone with events := alone.events ++ [.markedUnknown "__medal"] } ∧
      alone.answer = .ok (r.noop alone.store.generation) := by
  intro r store load
  exact ((marks_agree_with_operations r store load "__" .evaluate).1 "__medal" "medal"
    (by decide) (by decide) (by decide)).2.1 ⟨⟨.empty, rfl⟩, "__medal", by rfl⟩

end Ranker

end EnumOrdering
