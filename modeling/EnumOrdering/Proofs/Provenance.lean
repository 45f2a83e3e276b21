import EnumOrdering.Proofs.Change
import EnumOrdering.Proofs.Description

/-!
# Where evaluators come from

A run of actions puts sets of enumerations in place, one after the other. Every
evaluator that is obtained on the way belongs to exactly one of them: the one whose
position among the sets is the generation in its cache key. So two evaluators of
one run whose keys are equal are the same evaluator, and a cache that goes by the
key gives no order that is out of date.

The invariant is `Store.Shows`: the store shows the last set, and its generation
counts those before it. It is kept by every change, hence by every run, and an
evaluator is always resolved against the store as its own action leaves it.
-/

namespace EnumOrdering

/-! ## What a mapping answers -/

namespace Mapping

/-- The order of a value under a policy. -/
def valueUnder (m : Mapping) (policy : Policy) : Option String → Int64
  | none => policy.noValue
  | some text => (m.get? text).getD policy.noOrder

/-- The order of a value under a policy, or none where its absence is reported. -/
def orderUnder (m : Mapping) (policy : Policy) (mode : AbsentMode) (value : Option String) :
    Option Int64 :=
  match mode with
  | .substitute => some (m.valueUnder policy value)
  | .report => value.bind m.get?

end Mapping

namespace Evaluator

theorem valueFor_of_lookup {e : Evaluator} {m : Mapping} (h : e.mode = .lookup m)
    (value : Option String) : e.valueFor value = m.valueUnder e.policy value := by
  rw [valueFor, resolve, h]
  cases value with
  | none => rfl
  | some text =>
      simp only [Mapping.valueUnder]
      cases m.get? text <;> rfl

theorem orderFor_of_lookup {e : Evaluator} {m : Mapping} (h : e.mode = .lookup m)
    (value : Option String) : e.orderFor value = m.orderUnder e.policy e.absentMode value := by
  rw [orderFor, resolve, h]
  cases value with
  | none => cases e.absentMode <;> rfl
  | some text =>
      simp only [Mapping.orderUnder, Mapping.valueUnder, Option.bind_some]
      cases m.get? text <;> cases e.absentMode <;> rfl

/-- Evaluators that answer every question alike. -/
structure Agree (e e' : Evaluator) : Prop where
  valueFor : ∀ value, e.valueFor value = e'.valueFor value
  orderFor : ∀ value, e.orderFor value = e'.orderFor value
  docValue : ∀ source doc, e.docValue source doc = e'.docValue source doc
  hasOrder : ∀ source doc, e.hasOrder source doc = e'.hasOrder source doc
  scoreAll : ∀ source docs, e.scoreAll source docs = e'.scoreAll source docs
  describe : e.describe = e'.describe
  hash : hash e = hash e'

theorem Agree.of_eq {e e' : Evaluator} (h : e = e') : e.Agree e' :=
  h ▸ ⟨fun _ => rfl, fun _ => rfl, fun _ _ => rfl, fun _ _ => rfl, fun _ _ => rfl, rfl, rfl⟩

end Evaluator

/-! ## The sets that a store shows -/

/-- A store after the given sets were put in place: it shows the last of them, and
its generation is the number of those before it. -/
structure Store.Shows (s : Store) (sets : List EnumerationSet) : Prop where
  length : sets.length = s.generation.toNat + 1
  current : sets.getLast? = some s.current.enumerations

namespace Store

theorem shows_new (enumerations : EnumerationSet) : (new enumerations).Shows [enumerations] :=
  ⟨rfl, rfl⟩

theorem Shows.getElem? {s : Store} {sets : List EnumerationSet} (h : s.Shows sets) :
    sets[s.generation.toNat]? = some s.current.enumerations := by
  rw [← h.current, List.getLast?_eq_getElem?, h.length, Nat.add_sub_cancel]

theorem Shows.install {s : Store} {sets : List EnumerationSet} (h : s.Shows sets)
    (hn : sets.length < UInt64.size) (enumerations : EnumerationSet) :
    (s.install enumerations).Shows (sets ++ [enumerations]) := by
  have hg : s.generation.toNat < UInt64.size - 1 := by
    have := h.length
    omega
  refine ⟨?_, List.getLast?_concat⟩
  rw [List.length_append, List.length_singleton, h.length]
  exact congrArg (· + 1) (Course.toNat_succ hg).symm

/-- Every change keeps the sets shown in step with the sets put in place. -/
theorem Shows.apply {s : Store} {sets : List EnumerationSet} (h : s.Shows sets) (change : Change)
    (hn : (sets ++ change.installed?.toList).length ≤ UInt64.size) :
    (s.apply change).Shows (sets ++ change.installed?.toList) := by
  cases change with
  | none =>
      rw [Change.installed?, Option.toList_none, List.append_nil]
      exact h
  | failed e =>
      rw [Change.installed?, Option.toList_none, List.append_nil]
      exact ⟨h.length, h.current⟩
  | installed enumerations =>
      rw [Change.installed?, Option.toList_some] at hn ⊢
      rw [List.length_append, List.length_singleton] at hn
      exact h.install hn enumerations

end Store

namespace Ranker

variable {r : Ranker} {store : Store} {load : Load}

theorem installed_cons (action : Action) (load : Load) (run : List (Action × Load)) :
    r.installed ((action, load) :: run) =
      (r.change load action).installed?.toList ++ r.installed run := by
  rw [installed, List.filterMap_cons]
  cases (r.change load action).installed? <;> rfl

/-- A run keeps the sets shown in step with the sets put in place. -/
theorem shows_finalStore {sets : List EnumerationSet} (run : List (Action × Load))
    (h : store.Shows sets) (hn : (sets ++ r.installed run).length ≤ UInt64.size) :
    (r.finalStore store run).Shows (sets ++ r.installed run) := by
  induction run generalizing store sets with
  | nil => simpa [installed, finalStore] using h
  | cons p run ih =>
      obtain ⟨action, load⟩ := p
      rw [installed_cons, ← List.append_assoc] at hn ⊢
      rw [finalStore_cons]
      refine ih (h.apply _ ?_) hn
      rw [List.length_append] at hn
      omega

/-- A store as a ranker is first given it: made of a set, or of the first load of a
source. -/
def Begins (enumerations : EnumerationSet) (store : Store) : Prop :=
  store = Store.new enumerations ∨
    ∃ source load, load.outcome = .ok enumerations ∧ (Store.opening source load).1 = .ok store

theorem Begins.eq_new {enumerations : EnumerationSet} (h : Begins enumerations store) :
    store = Store.new enumerations := by
  rcases h with h | ⟨source, load, hl, ho⟩
  · exact h
  · rw [Store.opening, hl] at ho
    exact (Except.ok.inj ho).symm

/-! ## The evaluators of a run -/

/-- The evaluator that an action obtains from a ranker, to be handed out or to score
with. -/
def obtained? (r : Ranker) (store : Store) (load : Load) (action : Action) : Option Evaluator :=
  (r.request? action).bind fun request => (r.evaluator store load request).answer.toOption

/-- The last action of a run obtains an evaluator. -/
def Obtains (r : Ranker) (store : Store) (run : List (Action × Load)) (e : Evaluator) : Prop :=
  ∃ past action load, run = past ++ [(action, load)] ∧
    r.obtained? (r.finalStore store past) load action = some e

/-- An evaluator of a ranker that belongs to the enumerations of a generation. -/
inductive Owns (r : Ranker) (enumerations : EnumerationSet) (generation : UInt64) :
    Evaluator → Prop
  | lookup {name : String} {m : Mapping} (h : enumerations.get? name = some m) :
      Owns r enumerations generation ⟨⟨some name, generation⟩, .lookup m, r.policy, r.absentMode⟩
  | noop : Owns r enumerations generation ⟨⟨none, generation⟩, .noop, r.policy, r.absentMode⟩

theorem Owns.generation {enumerations : EnumerationSet} {generation : UInt64} {e : Evaluator}
    (h : r.Owns enumerations generation e) : e.key.generation = generation := by
  cases h <;> rfl

/-- Within the enumerations of one generation the key decides the evaluator. -/
theorem Owns.eq_of_key {enumerations : EnumerationSet} {generation : UInt64} {e e' : Evaluator}
    (h : r.Owns enumerations generation e) (h' : r.Owns enumerations generation e')
    (hk : e.key = e'.key) : e = e' := by
  cases h with
  | lookup hm =>
      cases h' with
      | lookup hm' =>
          cases hk
          rw [Option.some.inj (hm.symm.trans hm')]
      | noop => cases hk
  | noop =>
      cases h' with
      | lookup hm' => cases hk
      | noop => rfl

theorem Due.owns {request : Request} {enumerations : EnumerationSet} {generation : UInt64}
    {e : Evaluator} (h : r.Due request enumerations generation (.ok e)) :
    r.Owns enumerations generation e := by
  cases h with
  | reloadAlone => exact .noop
  | found _ hm => exact .lookup hm
  | markedUnknown => exact .noop

theorem resolve_owns {snapshot : Snapshot} {request : Request} {e : Evaluator}
    (h : (r.resolve snapshot request).1 = .ok e) :
    r.Owns snapshot.enumerations snapshot.generation e :=
  (h ▸ r.resolve_due snapshot request).owns

/-- A request that is answered with an evaluator is answered from the store as the
request leaves it. -/
theorem evaluator_owns {request : Request} {e : Evaluator}
    (h : (r.evaluator store load request).answer = .ok e) :
    r.Owns (r.evaluator store load request).store.current.enumerations
      (r.evaluator store load request).store.generation e := by
  cases hr : request.operation.reloads with
  | false =>
      rw [evaluator_of_not_reloads store load hr] at h ⊢
      exact resolve_owns h
  | true =>
      cases hl : load.outcome with
      | error e => rw [evaluator_of_load_error hr hl] at h; cases h
      | ok enumerations =>
          rw [evaluator_of_load_ok hr hl] at h ⊢
          exact resolve_owns h

theorem change_of_request {action : Action} {request : Request}
    (h : r.request? action = some request) : r.change load action = request.change load := by
  cases action <;> simp_all [change, request?]

theorem Obtains.owns {run : List (Action × Load)} {e : Evaluator} (h : r.Obtains store run e) :
    r.Owns (r.finalStore store run).current.enumerations (r.finalStore store run).generation e := by
  obtain ⟨past, action, load, rfl, ho⟩ := h
  obtain ⟨request, hq, ho⟩ := Option.bind_eq_some_iff.mp ho
  have ha : (r.evaluator (r.finalStore store past) load request).answer = .ok e := by
    cases ha : (r.evaluator (r.finalStore store past) load request).answer with
    | error e => rw [ha] at ho; cases ho
    | ok e' => rw [ha] at ho; exact congrArg _ (Option.some.inj ho)
  have hs : r.finalStore store (past ++ [(action, load)]) =
      (r.evaluator (r.finalStore store past) load request).store := by
    rw [finalStore_append, finalStore_cons, change_of_request hq, ← evaluator_store]
    rfl
  rw [hs]
  exact evaluator_owns ha

theorem Obtains.of_take {run : List (Action × Load)} {i : Nat} {action : Action} {load : Load}
    {e : Evaluator} (hi : run[i]? = some (action, load))
    (h : r.obtained? (r.finalStore store (run.take i)) load action = some e) :
    r.Obtains store (run.take (i + 1)) e :=
  ⟨run.take i, action, load, by rw [List.take_add_one, hi]; rfl, h⟩

/-! ## Answers and the evaluators they are made of -/

/-- A response is made of an evaluator that was obtained, where the handler makes it
of one: it is the score that the evaluator gives, or its identity after a reload. -/
def MadeOf (obtained : Evaluator → Prop) : Http.Handler → Http.Response → Prop
  | .score q, response =>
    (∃ e, obtained e ∧ response = .ofScore (.ok (e.score q.values))) ∨
      ∃ failure, response = .ofFailure failure
  | .reload, response =>
    (∃ e, obtained e ∧ response = .ofReload (.ok e)) ∨ ∃ failure, response = .ofFailure failure
  | _, _ => True

/-- An answer gives away no other evaluators than those that were obtained. -/
def GivesAway (obtained : Evaluator → Prop) : Action → Answer → Prop
  | .call call, .response response => MadeOf obtained call.handler response
  | _, .evaluator (.ok e) => obtained e
  | _, _ => True

theorem obtained?_of_request {action : Action} {request : Request} {e : Evaluator}
    (hq : r.request? action = some request)
    (h : (r.evaluator store load request).answer = .ok e) :
    r.obtained? store load action = some e := by
  rw [obtained?, hq, Option.bind_some, h]
  rfl

theorem handler_madeOf {obtained : Evaluator → Prop} (call : Http.Call) (handler : Http.Handler)
    (ho : ∀ request e, handler.request? r.reloadMark = some request →
      (r.evaluator store load request).answer = .ok e → obtained e) :
    MadeOf obtained handler (handler.reply r store load call).answer := by
  cases handler with
  | score q =>
      simp only [Http.Handler.reply, Reply.map, score, evaluatorOfCode_eq]
      cases hq : q.request r.reloadMark with
      | error e => exact .inr ⟨e, rfl⟩
      | ok request =>
          simp only []
          cases ha : (r.evaluator store load request).answer with
          | error e => exact .inr ⟨e, rfl⟩
          | ok e => exact .inl ⟨e, ho request e (by rw [Http.Handler.request?, hq]; rfl) ha, rfl⟩
  | reload =>
      simp only [Http.Handler.reply, Reply.map, reloadAlone]
      cases ha : (r.evaluator store load (Request.plain "" .reloadOnly)).answer with
      | error e => exact .inr ⟨e, rfl⟩
      | ok e => exact .inl ⟨e, ho _ e rfl ha, rfl⟩
  | status => trivial
  | enumerations => trivial
  | refusal response => trivial

theorem perform_givesAway {obtained : Evaluator → Prop} (action : Action)
    (ho : ∀ e, r.obtained? store load action = some e → obtained e) :
    GivesAway obtained action (r.perform store load action).answer := by
  cases action with
  | parse name token =>
      simp only [perform, Reply.map]
      cases hp : Request.parse r.reloadMark name token with
      | error e => rw [parse_of_error store load hp]; trivial
      | ok request =>
          rw [parse_of_denotes store load (Request.parse_eq_ok_iff.mp hp)]
          cases ha : (r.evaluator store load request).answer with
          | error e => trivial
          | ok e => exact ho e (obtained?_of_request (by rw [request?, hp]; rfl) ha)
  | request request =>
      simp only [perform, Reply.map]
      cases ha : (r.evaluator store load request).answer with
      | error e => trivial
      | ok e => exact ho e (obtained?_of_request rfl ha)
  | reload => trivial
  | replace enumerations => trivial
  | snapshot => trivial
  | report => trivial
  | call call =>
      simp only [perform, Reply.map, Http.respond_eq_reply]
      exact handler_madeOf call call.handler fun request e hq ha =>
        ho e (obtained?_of_request hq ha)

/-- What an evaluator must answer by the set that it belongs to. -/
def AnswersBy (r : Ranker) (enumerations : EnumerationSet) (e : Evaluator) : Prop :=
  match e.key.enumeration with
  | some name =>
    ∃ m, enumerations.get? name = some m ∧
      ∀ value, e.valueFor value = m.valueUnder r.policy value ∧
        e.orderFor value = m.orderUnder r.policy r.absentMode value
  | none => e.isNoop = true

theorem Owns.answersBy {enumerations : EnumerationSet} {generation : UInt64} {e : Evaluator}
    (h : r.Owns enumerations generation e) : r.AnswersBy enumerations e := by
  cases h with
  | lookup hm =>
      exact ⟨_, hm, fun value =>
        ⟨Evaluator.valueFor_of_lookup rfl _, Evaluator.orderFor_of_lookup rfl _⟩⟩
  | noop => rfl

/-- An evaluator belongs to the set that its generation counts to, among all sets
of the run. -/
theorem Obtains.owns_installed {enumerations : EnumerationSet} {run upTo : List (Action × Load)}
    {e : Evaluator} (hb : Begins enumerations store)
    (hn : (r.installed run).length < UInt64.size - 1) (hp : upTo <+: run)
    (h : r.Obtains store upTo e) :
    e.key.generation.toNat = (r.installed upTo).length ∧
      ∃ set, (enumerations :: r.installed run)[e.key.generation.toNat]? = some set ∧
        r.Owns set e.key.generation e := by
  obtain ⟨future, rfl⟩ := hp
  rw [installed_append] at hn ⊢
  rw [List.length_append] at hn
  -- The generation of the store counts its sets, so it is the position of the last one.
  have hs : (r.finalStore store upTo).Shows ([enumerations] ++ r.installed upTo) := by
    refine shows_finalStore upTo (hb.eq_new ▸ Store.shows_new enumerations) ?_
    rw [List.length_append, List.length_singleton]
    omega
  have hg := h.owns.generation
  refine ⟨?_, (r.finalStore store upTo).current.enumerations, ?_, ?_⟩
  · have hl := hs.length
    rw [List.length_append, List.length_singleton] at hl
    rw [hg]
    omega
  · rw [← List.cons_append, List.getElem?_append_left, hg]
    · exact hs.getElem?
    · have hl := hs.length
      rw [List.length_append, List.length_singleton] at hl
      rw [hg, List.length_cons]
      omega
  · exact hg ▸ h.owns

/-- Every evaluator that a run obtains carries as its generation the number of sets
put in place up to and including its own action, and answers by the set at that
position; two with equal keys agree on every question, whenever they were obtained;
and no answer of the run is made of any other evaluator. -/
theorem evaluators_belong_to_installed_sets {enumerations : EnumerationSet}
    {run : List (Action × Load)} (hb : Begins enumerations store)
    (hn : (r.installed run).length < UInt64.size - 1) :
    (∀ upTo e, upTo <+: run → r.Obtains store upTo e →
      e.key.generation.toNat = (r.installed upTo).length ∧
        ∃ set, (enumerations :: r.installed run)[e.key.generation.toNat]? = some set ∧
          r.AnswersBy set e) ∧
    (∀ upTo e upTo' e', upTo <+: run → r.Obtains store upTo e → upTo' <+: run →
      r.Obtains store upTo' e' → (e == e') = true → e.Agree e') ∧
    ∀ i action load, run[i]? = some (action, load) →
      ∃ reply, (r.run store run)[i]? = some reply ∧
        GivesAway (r.Obtains store (run.take (i + 1))) action reply.answer := by
  refine ⟨?_, ?_, ?_⟩
  · intro upTo e hp h
    obtain ⟨hg, set, hset, ho⟩ := h.owns_installed hb hn hp
    exact ⟨hg, set, hset, ho.answersBy⟩
  · intro upTo e upTo' e' hp h hp' h' heq
    obtain ⟨-, set, hset, ho⟩ := h.owns_installed hb hn hp
    obtain ⟨-, set', hset', ho'⟩ := h'.owns_installed hb hn hp'
    have hk := Evaluator.beq_iff.mp heq
    rw [hk] at hset ho
    cases hset.symm.trans hset'
    exact .of_eq (ho.eq_of_key ho' hk)
  · intro i action load hi
    refine ⟨r.perform (r.finalStore store (run.take i)) load action, ?_, ?_⟩
    · rw [run_getElem?, hi]
      rfl
    · exact perform_givesAway action fun e he => .of_take hi he

/-- Two sets that give a value different orders, put in place by a replacement and by a
reload, and an evaluator of each. -/
theorem evaluators_belong_to_installed_sets_twoGenerations :
    let r : Ranker := ⟨"scripted", ⟨-1, 0⟩, .report, "__"⟩
    let medals (order : Int64) : Mapping := .ofPairs [("gold", order)]
    let set (order : Int64) : EnumerationSet := EnumerationSet.empty.insert "medal" (medals order)
    let run : List (Action × Load) :=
      [(.replace (set 3), ⟨.ok .empty, []⟩),
        (.request (.plain "medal" .evaluate), ⟨.ok .empty, []⟩),
        (.request (.plain "medal" .reloadThenEvaluate), ⟨.ok (set 5), []⟩)]
    let first := r.lookup "medal" 1 (medals 3)
    let second := r.lookup "medal" 2 (medals 5)
    Begins .empty (Store.new .empty) ∧ (r.installed run).length < UInt64.size - 1 ∧
      r.Obtains (Store.new .empty) (run.take 2) first ∧ r.Obtains (Store.new .empty) run second ∧
      r.AnswersBy (set 3) first ∧ r.AnswersBy (set 5) second ∧
      first.valueFor (some "gold") = 3 ∧ second.valueFor (some "gold") = 5 := by
  intro r medals set run first second
  have hb : Begins .empty (Store.new .empty) := .inl rfl
  have hn : (r.installed run).length < UInt64.size - 1 := by decide
  have h1 : r.Obtains (Store.new .empty) (run.take 2) first := ⟨run.take 1, _, _, rfl, by rfl⟩
  have h2 : r.Obtains (Store.new .empty) run second := ⟨run.take 2, _, _, rfl, by rfl⟩
  obtain ⟨belongs, -, -⟩ := evaluators_belong_to_installed_sets hb hn
  obtain ⟨-, set1, hs1, ha1⟩ := belongs _ first (List.take_prefix 2 run) h1
  obtain ⟨-, set2, hs2, ha2⟩ := belongs _ second (List.prefix_refl run) h2
  cases hs1
  cases hs2
  exact ⟨hb, hn, h1, h2, ha1, ha2, by decide, by decide⟩

end Ranker

end EnumOrdering
