import EnumOrdering.Ranker

/-!
# What a request does

A request given as a name and the token of an operation takes one of four
courses. Its token is refused; or it is answered from the snapshot in use; or it
reloads and the load fails; or it reloads and is answered from the snapshot that
the reload put in place. Which course it takes depends on the two texts, on the
reload mark and on what the source would give, never on the store; what it does
to the store and what it is answered with follow from the course.

The reading of the two texts comes first: `Denotes` says without the parser which
request a name and a token stand for.
-/

namespace EnumOrdering

/-! ## Names that bear the reload mark -/

theorem dropFront?_append {α : Type} [DecidableEq α] (front rest : List α) :
    dropFront? front (front ++ rest) = some rest := by
  induction front with
  | nil => rfl
  | cons a front ih =>
      rw [List.cons_append, dropFront?, if_pos rfl]
      exact ih

theorem eq_append_of_dropFront? {α : Type} [DecidableEq α] {front whole rest : List α}
    (h : dropFront? front whole = some rest) : whole = front ++ rest := by
  fun_induction dropFront? front whole with
  | case1 whole => cases h; rfl
  | case2 => cases h
  | case3 front b whole ih => rw [List.cons_append, ← ih h]
  | case4 => cases h

namespace Request

/-- The request that a name stands for, with an operation given beside it. A name
that begins with the mark loses it once and asks for a reload. -/
inductive Resolves (mark name : String) : Operation → Request → Prop
  | unmarked {operation : Operation} (h : mark = "" ∨ ∀ rest, name ≠ mark ++ rest) :
      Resolves mark name operation ⟨name, operation, false⟩
  | markAlone {operation : Operation} (hm : mark ≠ "") (hn : name = mark) :
      Resolves mark name operation ⟨"", .reloadOnly, true⟩
  | reloadOnly {rest : String} (hm : mark ≠ "") (hr : rest ≠ "") (hn : name = mark ++ rest) :
      Resolves mark name .reloadOnly ⟨rest, .reloadOnly, true⟩
  | reloadFirst {operation : Operation} {rest : String} (hm : mark ≠ "") (hr : rest ≠ "")
      (hn : name = mark ++ rest) (ho : operation ≠ .reloadOnly) :
      Resolves mark name operation ⟨rest, .reloadThenEvaluate, true⟩

theorem ofName_of_unmarked {mark name : String} (operation : Operation)
    (h : mark = "" ∨ ∀ rest, name ≠ mark ++ rest) :
    ofName mark name operation = ⟨name, operation, false⟩ := by
  rw [ofName]
  split
  · rfl
  · next hm =>
      split
      · next rest hd =>
          have hn := eq_append_of_dropFront? hd
          rcases h with rfl | h
          · exact absurd rfl hm
          · refine absurd ?_ (h (String.ofList rest))
            rw [← String.toList_inj, String.toList_append, String.toList_ofList]
            exact hn
      · rfl

theorem ofName_append {mark : String} (hm : mark ≠ "") (rest : String) (operation : Operation) :
    ofName mark (mark ++ rest) operation = reloading rest.toList operation := by
  rw [ofName, if_neg (by simpa using hm), String.toList_append, dropFront?_append]

theorem reloading_of_ne {rest : String} (hr : rest ≠ "") (operation : Operation) :
    reloading rest.toList operation =
      if operation = .reloadOnly then ⟨rest, .reloadOnly, true⟩
      else ⟨rest, .reloadThenEvaluate, true⟩ := by
  obtain ⟨c, cs, hc⟩ : ∃ c cs, rest.toList = c :: cs := by
    cases h : rest.toList with
    | nil => exact absurd (String.toList_eq_nil_iff.mp h) hr
    | cons c cs => exact ⟨c, cs, rfl⟩
  have ho : String.ofList (c :: cs) = rest := by rw [← hc, String.ofList_toList]
  rw [hc, reloading.eq_def]
  cases operation <;> simp [ho]

/-- `ofName` computes what `Resolves` describes. -/
theorem ofName_eq_iff {mark name : String} {operation : Operation} {request : Request} :
    ofName mark name operation = request ↔ Resolves mark name operation request := by
  constructor
  · intro h
    by_cases hu : mark = "" ∨ ∀ rest, name ≠ mark ++ rest
    · rw [ofName_of_unmarked operation hu] at h
      exact h ▸ .unmarked hu
    · obtain ⟨hm, hn⟩ := not_or.mp hu
      obtain ⟨rest, hn⟩ := Classical.not_forall.mp hn
      have hn := Classical.not_not.mp hn
      subst hn
      rw [ofName_append hm] at h
      by_cases hr : rest = ""
      · subst hr
        exact h ▸ .markAlone hm (by simp)
      · rw [reloading_of_ne hr] at h
        split at h
        · next ho => exact h ▸ ho ▸ .reloadOnly hm hr rfl
        · next ho => exact h ▸ .reloadFirst hm hr rfl ho
  · intro h
    cases h with
    | unmarked h => exact ofName_of_unmarked _ h
    | markAlone hm hn =>
        subst hn
        have := ofName_append hm "" operation
        rw [String.append_empty] at this
        exact this
    | reloadOnly hm hr hn => rw [hn, ofName_append hm, reloading_of_ne hr, if_pos rfl]
    | reloadFirst hm hr hn ho => rw [hn, ofName_append hm, reloading_of_ne hr, if_neg ho]

/-- The operation that a token stands for; without a token it is an evaluation. -/
def OperationOf (token : Option String) (operation : Operation) : Prop :=
  match token with
  | none => operation = .evaluate
  | some text => Operation.parse text = .ok operation

/-- The request that a name and the token of an operation stand for. -/
def Denotes (mark name : String) (token : Option String) (request : Request) : Prop :=
  ∃ operation, OperationOf token operation ∧ Resolves mark name operation request

theorem parse_eq_ok_iff {mark name : String} {token : Option String} {request : Request} :
    parse mark name token = .ok request ↔ Denotes mark name token request := by
  cases token with
  | none =>
      simp only [parse, Denotes, OperationOf, Except.ok.injEq, exists_eq_left]
      exact ofName_eq_iff
  | some text =>
      simp only [parse, Denotes, OperationOf]
      cases Operation.parse text with
      | error e => simp [Except.map]
      | ok operation =>
          simp only [Except.map, Except.ok.injEq, exists_eq_left']
          exact ofName_eq_iff

end Request

theorem Operation.parse_error {text : String} {e : Failure} (h : Operation.parse text = .error e) :
    ∃ code, e = .invalidOperation code := by
  unfold Operation.parse Operation.ofCode at h
  repeat' split at h
  all_goals cases h
  all_goals exact ⟨_, rfl⟩

theorem Request.parse_eq_error_iff {mark name : String} {token : Option String} {e : Failure} :
    parse mark name token = .error e ↔
      ∃ text, token = some text ∧ Operation.parse text = .error e := by
  cases token with
  | none => simp [parse]
  | some text =>
      simp only [parse, Option.some.injEq, exists_eq_left']
      cases Operation.parse text <;> simp [Except.map]

/-! ## What an answer is made from -/

namespace Ranker

/-- What a request is due from the enumerations of a generation. -/
inductive Due (r : Ranker) (request : Request) (enumerations : EnumerationSet)
    (generation : UInt64) : Except Failure Evaluator → Prop
  | reloadAlone (ho : request.operation = .reloadOnly) :
      Due r request enumerations generation
        (.ok ⟨⟨none, generation⟩, .noop, r.policy, r.absentMode⟩)
  | found {m : Mapping} (ho : request.operation ≠ .reloadOnly)
      (hm : enumerations.get? request.name = some m) :
      Due r request enumerations generation
        (.ok ⟨⟨some request.name, generation⟩, .lookup m, r.policy, r.absentMode⟩)
  | markedUnknown (ho : request.operation ≠ .reloadOnly)
      (hm : enumerations.get? request.name = none) (hk : request.marked = true) :
      Due r request enumerations generation
        (.ok ⟨⟨none, generation⟩, .noop, r.policy, r.absentMode⟩)
  | unknown (ho : request.operation ≠ .reloadOnly)
      (hm : enumerations.get? request.name = none) (hk : request.marked = false) :
      Due r request enumerations generation (.error (.unknownEnumeration request.name))

theorem resolve_due (r : Ranker) (snapshot : Snapshot) (request : Request) :
    r.Due request snapshot.enumerations snapshot.generation (r.resolve snapshot request).1 := by
  rw [resolve]
  split
  · next ho => exact .reloadAlone ho
  · next ho =>
      split
      · next m hm => exact .found ho hm
      · next hm =>
          split
          · next hk => exact .markedUnknown ho hm hk
          · next hk => exact .unknown ho hm (by simpa using hk)

/-! ## Requests that do not reload, and requests that do -/

variable {r : Ranker} {store : Store} {load : Load} {request : Request}

theorem evaluator_of_not_reloads (store : Store) (load : Load)
    (h : request.operation.reloads = false) :
    r.evaluator store load request =
      ⟨0, store, (r.resolve store.current request).1, (r.resolve store.current request).2⟩ := by
  rw [evaluator, if_neg (by simp [h])]

theorem reload_of_error {source : String} {e : Failure} (h : load.outcome = .error e) :
    store.reload source load =
      ⟨1, store.fail e, .error e,
        load.events ++ [.reloadFailed (store.fail e).generation e.message]⟩ := by
  rw [Store.reload, h]

theorem reload_of_ok {source : String} {enumerations : EnumerationSet}
    (h : load.outcome = .ok enumerations) :
    store.reload source load =
      ⟨1, store.install enumerations, .ok (store.install enumerations).current,
        load.events ++
          [.reloaded source enumerations.size (store.install enumerations).generation]⟩ := by
  rw [Store.reload, h]

theorem evaluator_of_load_error (hr : request.operation.reloads = true) {e : Failure}
    (h : load.outcome = .error e) :
    r.evaluator store load request =
      ⟨1, store.fail e, .error e, (r.reload store load).events⟩ := by
  rw [evaluator, if_pos hr, reload, reload_of_error h]

theorem evaluator_of_load_ok (hr : request.operation.reloads = true)
    {enumerations : EnumerationSet} (h : load.outcome = .ok enumerations) :
    r.evaluator store load request =
      ⟨1, store.install enumerations,
        (r.resolve (store.install enumerations).current request).1,
        (r.reload store load).events ++
          (r.resolve (store.install enumerations).current request).2⟩ := by
  rw [evaluator, if_pos hr, reload, reload_of_ok h]

theorem parse_of_error (store : Store) (load : Load) {name : String} {token : Option String}
    {e : Failure} (h : Request.parse r.reloadMark name token = .error e) :
    r.parse store load name token = ⟨0, store, .error e, []⟩ := by
  rw [parse, h]

theorem parse_of_denotes (store : Store) (load : Load) {name : String} {token : Option String}
    (h : Request.Denotes r.reloadMark name token request) :
    r.parse store load name token = r.evaluator store load request := by
  rw [parse, Request.parse_eq_ok_iff.mpr h]

end Ranker

/-! ## The four courses -/

/-- The courses that a name and the token of an operation can take. -/
inductive Course
  /-- The token is refused. -/
  | refused (code : String)
  /-- The request is answered from the snapshot in use. -/
  | answered (request : Request)
  /-- The request reloads, and the load fails. -/
  | failed (request : Request) (e : Failure)
  /-- The request reloads, and is answered from what the load gave. -/
  | reloaded (request : Request) (enumerations : EnumerationSet)

namespace Course

/-- When a course is taken: the two texts, the reload mark and the outcome that a
load would have decide it. -/
def Taken (mark name : String) (token : Option String) (outcome : Except Failure EnumerationSet) :
    Course → Prop
  | refused code =>
    ∃ text, token = some text ∧ Operation.parse text = .error (.invalidOperation code)
  | answered request =>
    Request.Denotes mark name token request ∧ request.operation.reloads = false
  | failed request e =>
    Request.Denotes mark name token request ∧ request.operation.reloads = true ∧ outcome = .error e
  | reloaded request enumerations =>
    Request.Denotes mark name token request ∧ request.operation.reloads = true ∧
      outcome = .ok enumerations

/-- What a name and the token of an operation do to a store and are answered with
on a course, when `load` is what the source would give. -/
def Effect (r : Ranker) (store : Store) (load : Load) (name : String) (token : Option String)
    (course : Course) : Prop :=
  let reply := r.parse store load name token
  match course with
  | refused code =>
    (∀ other, r.parse store other name token = reply) ∧ reply.loads = 0 ∧ reply.store = store ∧
      reply.answer = .error (.invalidOperation code)
  | answered request =>
    (∀ other, r.parse store other name token = reply) ∧ reply.loads = 0 ∧ reply.store = store ∧
      reply.answer =
        match store.current.enumerations.get? request.name with
        | some m => .ok ⟨⟨some request.name, store.generation⟩, .lookup m, r.policy, r.absentMode⟩
        | none => .error (.unknownEnumeration request.name)
  | failed _ e =>
    reply.loads = 1 ∧ reply.store.current = store.current ∧
      reply.store.reloadsOk = store.reloadsOk ∧
      reply.store.reloadsFailed = store.reloadsFailed + 1 ∧
      reply.store.lastError = some e.message ∧ reply.answer = .error e
  | reloaded request enumerations =>
    reply.loads = 1 ∧ reply.store.current.enumerations = enumerations ∧
      reply.store.generation.toNat = store.generation.toNat + 1 ∧
      reply.store.reloadsOk = store.reloadsOk + 1 ∧
      reply.store.reloadsFailed = store.reloadsFailed ∧
      reply.store.lastError = store.lastError ∧
      r.Due request enumerations (store.generation + 1) reply.answer

/-- A generation that is not the greatest has a next one. -/
theorem toNat_succ {generation : UInt64} (h : generation.toNat < UInt64.size - 1) :
    (generation + 1).toNat = generation.toNat + 1 := by
  have hs : UInt64.size = 2 ^ 64 := rfl
  have h1 : (1 : UInt64).toNat = 1 := rfl
  rw [UInt64.toNat_add, h1]
  exact Nat.mod_eq_of_lt (by omega)

/-- Some course is taken. -/
theorem exists_taken (mark name : String) (token : Option String)
    (outcome : Except Failure EnumerationSet) : ∃ course, Taken mark name token outcome course := by
  cases hp : Request.parse mark name token with
  | error e =>
      obtain ⟨text, ht, he⟩ := Request.parse_eq_error_iff.mp hp
      obtain ⟨code, rfl⟩ := Operation.parse_error he
      exact ⟨.refused code, text, ht, he⟩
  | ok request =>
      have hd := Request.parse_eq_ok_iff.mp hp
      cases hr : request.operation.reloads with
      | false => exact ⟨.answered request, hd, hr⟩
      | true =>
          cases outcome with
          | error e => exact ⟨.failed request e, hd, hr, rfl⟩
          | ok enumerations => exact ⟨.reloaded request enumerations, hd, hr, rfl⟩

/-- What the parser says of the two texts when a course is taken. -/
theorem Taken.parse {mark name : String} {token : Option String}
    {outcome : Except Failure EnumerationSet} {course : Course}
    (h : Taken mark name token outcome course) :
    Request.parse mark name token =
      match course with
      | refused code => .error (.invalidOperation code)
      | answered request => .ok request
      | failed request _ => .ok request
      | reloaded request _ => .ok request := by
  cases course with
  | refused code => exact Request.parse_eq_error_iff.mpr h
  | answered request => exact Request.parse_eq_ok_iff.mpr h.1
  | failed request e => exact Request.parse_eq_ok_iff.mpr h.1
  | reloaded request enumerations => exact Request.parse_eq_ok_iff.mpr h.1

/-- No two courses are taken. -/
theorem Taken.unique {mark name : String} {token : Option String}
    {outcome : Except Failure EnumerationSet} {course other : Course}
    (h : Taken mark name token outcome course) (h' : Taken mark name token outcome other) :
    course = other := by
  have hp := h.parse.symm.trans h'.parse
  cases course with
  | refused code => cases other <;> cases hp; rfl
  | answered request =>
      cases other <;> cases hp
      case answered.answered.refl => rfl
      all_goals exact absurd (h.2.symm.trans h'.2.1) (by decide)
  | failed request e =>
      cases other <;> cases hp
      case failed.answered.refl => exact absurd (h'.2.symm.trans h.2.1) (by decide)
      all_goals cases h.2.2.symm.trans h'.2.2
      rfl
  | reloaded request enumerations =>
      cases other <;> cases hp
      case reloaded.answered.refl => exact absurd (h'.2.symm.trans h.2.1) (by decide)
      all_goals cases h.2.2.symm.trans h'.2.2
      rfl

/-- A request that reloads nothing is a plain evaluation. -/
theorem plain_of_not_reloads {mark name : String} {token : Option String} {request : Request}
    (hd : Request.Denotes mark name token request) (hr : request.operation.reloads = false) :
    request.operation = .evaluate ∧ request.marked = false := by
  obtain ⟨operation, -, hs⟩ := hd
  cases hs with
  | unmarked => cases operation <;> simp_all [Operation.reloads]
  | markAlone => cases hr
  | reloadOnly => cases hr
  | reloadFirst => cases hr

/-- A name and the token of an operation take exactly one course, whatever the
reload mark, the store and the load are, and the reply is what that course says.
The generation is below its greatest value, so the next one is a new number. -/
theorem parse_takes_one_course {r : Ranker} {store : Store} (load : Load) (name : String)
    (token : Option String)
    (hg : store.generation.toNat < UInt64.size - 1) :
    ∃ course, Taken r.reloadMark name token load.outcome course ∧
      (∀ other, Taken r.reloadMark name token load.outcome other → other = course) ∧
      Effect r store load name token course := by
  obtain ⟨course, ht⟩ := exists_taken r.reloadMark name token load.outcome
  refine ⟨course, ht, fun other ho => ho.unique ht, ?_⟩
  cases course with
  | refused code =>
      have hp (given : Load) := Ranker.parse_of_error store given ht.parse
      exact ⟨fun other => (hp other).trans (hp load).symm, congrArg Reply.loads (hp load),
        congrArg Reply.store (hp load), congrArg Reply.answer (hp load)⟩
  | answered request =>
      obtain ⟨hd, hr⟩ := ht
      have hp (given : Load) :=
        (Ranker.parse_of_denotes store given hd).trans
          (Ranker.evaluator_of_not_reloads store given hr)
      refine ⟨fun other => (hp other).trans (hp load).symm, congrArg Reply.loads (hp load),
        congrArg Reply.store (hp load), (congrArg Reply.answer (hp load)).trans ?_⟩
      obtain ⟨ho, hk⟩ := plain_of_not_reloads hd hr
      rw [Ranker.resolve, if_neg (by rw [ho]; decide), hk]
      cases store.current.enumerations.get? request.name <;> rfl
  | failed request e =>
      obtain ⟨hd, hr, he⟩ := ht
      have hp := (Ranker.parse_of_denotes store load hd).trans
        (Ranker.evaluator_of_load_error hr he)
      refine ⟨?_, ?_, ?_, ?_, ?_, ?_⟩ <;> rw [hp] <;> rfl
  | reloaded request enumerations =>
      obtain ⟨hd, hr, he⟩ := ht
      have hp := (Ranker.parse_of_denotes store load hd).trans
        (Ranker.evaluator_of_load_ok hr he)
      refine ⟨?_, ?_, ?_, ?_, ?_, ?_, ?_⟩ <;> rw [hp]
      case refine_3 => exact toNat_succ hg
      case refine_7 => exact r.resolve_due (store.install enumerations).current request
      all_goals rfl

/-- A marked name that is unknown before the reload and after it, at a store that
has not reloaded yet. -/
theorem parse_takes_one_course_markedUnknown :
    let r : Ranker := ⟨"scripted", ⟨-1, 0⟩, .report, "__"⟩
    let store := Store.new .empty
    let load : Load := ⟨.ok .empty, []⟩
    store.generation.toNat < UInt64.size - 1 ∧
      ∃ course, Taken r.reloadMark "__foo" none load.outcome course ∧
        (∀ other, Taken r.reloadMark "__foo" none load.outcome other → other = course) ∧
        Effect r store load "__foo" none course :=
  have hg : (Store.new .empty).generation.toNat < UInt64.size - 1 := by decide
  ⟨hg, parse_takes_one_course ⟨.ok .empty, []⟩ "__foo" none hg⟩

end Course

end EnumOrdering
