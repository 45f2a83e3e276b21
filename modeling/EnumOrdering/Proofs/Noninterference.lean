import EnumOrdering.Proofs.Change
import Mathlib.Data.List.Forall2

/-!
# Steps that put nothing in place

A host talks to a ranker step by step. It asks for things, keeps the evaluators and
the snapshots it is given, and works with them later. Steps that put no set in place
can be left out of such a conversation: every other step is answered as before, but
for what reports say of failed reloads.

Two conversations are compared, one with some steps left out. Their stores stay
`Similar`, alike in everything but the count of failed reloads and the last error;
their notes stay alike on what the steps that remain have kept. Each action keeps
both, and its answers agree.
-/

namespace EnumOrdering

/-! ## Stores that differ in failed reloads -/

/-- Stores that are alike but for what they keep of failed reloads. -/
structure Store.Similar (s s' : Store) : Prop where
  current : s.current = s'.current
  reloadsOk : s.reloadsOk = s'.reloadsOk

/-- Reports that are alike but for what they say of failed reloads. -/
def Report.Similar (q q' : Report) : Prop :=
  { q with reloadsFailed := 0, lastError := none } =
    { q' with reloadsFailed := 0, lastError := none }

namespace Store

theorem Similar.refl (s : Store) : s.Similar s := ⟨rfl, rfl⟩

theorem Similar.trans {s s' s'' : Store} (h : s.Similar s') (h' : s'.Similar s'') :
    s.Similar s'' := ⟨h.current.trans h'.current, h.reloadsOk.trans h'.reloadsOk⟩

/-- A change does the same to similar stores. -/
theorem Similar.apply {s s' : Store} (h : s.Similar s') (change : Change) :
    (s.apply change).Similar (s'.apply change) := by
  cases change with
  | none => exact h
  | failed e => exact ⟨h.current, h.reloadsOk⟩
  | installed enumerations =>
      refine ⟨?_, ?_⟩
      · rw [Store.apply, Store.apply, install, install, h.current]
      · rw [Store.apply, Store.apply, install, install, h.reloadsOk]

/-- A change that puts nothing in place leaves a similar store. -/
theorem similar_apply {change : Change} (h : change.installed? = none) (s : Store) :
    (s.apply change).Similar s := by
  cases change with
  | none => exact .refl s
  | failed e => exact ⟨rfl, rfl⟩
  | installed enumerations => cases h

end Store

/-! ## Answers that agree -/

/-- Answers to an action that are the same, or reports that are similar, in the
library's own form or in the body of a response. -/
inductive Answer.Agree (action : Action) : Answer → Answer → Prop
  | same (answer : Answer) : Agree action answer answer
  | report {q q' : Report} (ha : action = .report) (h : q.Similar q') :
      Agree action (.report q) (.report q')
  | status {call : Http.Call} {q q' : Report} (ha : action = .call call)
      (hc : call.handler = .status) (h : q.Similar q') :
      Agree action (.response (call.shown (.json 200 q.value)))
        (.response (call.shown (.json 200 q'.value)))

theorem Answer.Agree.of_eq {action : Action} {answer answer' : Answer} (h : answer = answer') :
    Agree action answer answer' := h ▸ .same answer

namespace Ranker

variable {r : Ranker} {s s' : Store} {load : Load}

theorem reload_answer_congr (h : s.Similar s') :
    (r.reload s load).answer = (r.reload s' load).answer := by
  rw [reload, reload]
  cases hl : load.outcome with
  | error e => rw [reload_of_error hl, reload_of_error hl]
  | ok enumerations =>
      rw [reload_of_ok hl, reload_of_ok hl]
      exact congrArg Except.ok (h.apply (.installed enumerations)).current

theorem evaluator_answer_congr (h : s.Similar s') (request : Request) :
    (r.evaluator s load request).answer = (r.evaluator s' load request).answer := by
  cases hr : request.operation.reloads with
  | false =>
      rw [evaluator_of_not_reloads s load hr, evaluator_of_not_reloads s' load hr, h.current]
  | true =>
      cases hl : load.outcome with
      | error e => rw [evaluator_of_load_error hr hl, evaluator_of_load_error hr hl]
      | ok enumerations =>
          have hc : (s.install enumerations).current = (s'.install enumerations).current :=
            (h.apply (.installed enumerations)).current
          rw [evaluator_of_load_ok hr hl, evaluator_of_load_ok hr hl, hc]

theorem parse_answer_congr (h : s.Similar s') (name : String) (token : Option String) :
    (r.parse s load name token).answer = (r.parse s' load name token).answer := by
  cases hp : Request.parse r.reloadMark name token with
  | error e => rw [parse_of_error s load hp, parse_of_error s' load hp]
  | ok request =>
      have hd := Request.parse_eq_ok_iff.mp hp
      rw [parse_of_denotes s load hd, parse_of_denotes s' load hd]
      exact evaluator_answer_congr h request

theorem score_answer_congr (h : s.Similar s') (q : ScoreRequest) :
    (r.score s load q).answer = (r.score s' load q).answer := by
  simp only [score, Reply.map, evaluatorOfCode_eq]
  cases q.request r.reloadMark with
  | error e => rfl
  | ok request => simp only [evaluator_answer_congr h request]

theorem report_similar (h : s.Similar s') : (r.report s).Similar (r.report s') := by
  simp only [Report.Similar, report, Store.report, h.current, h.reloadsOk]

/-- An action is answered alike at similar stores. -/
theorem perform_agree (h : s.Similar s') (action : Action) :
    Answer.Agree action (r.perform s load action).answer (r.perform s' load action).answer := by
  cases action with
  | parse name token => exact .of_eq (congrArg Answer.evaluator (parse_answer_congr h name token))
  | request request => exact .of_eq (congrArg Answer.evaluator (evaluator_answer_congr h request))
  | reload => exact .of_eq (congrArg Answer.snapshot (reload_answer_congr h))
  | replace enumerations =>
      have hc := (h.apply (.installed enumerations)).current
      exact .of_eq (congrArg (fun c => Answer.snapshot (.ok c)) hc)
  | snapshot => exact .of_eq (congrArg (fun c => Answer.snapshot (.ok c)) h.current)
  | report => exact .report rfl (report_similar h)
  | call call =>
      simp only [perform, Reply.map, Http.respond_eq_reply]
      cases hc : call.handler with
      | score q =>
          have ha : (r.score s load q).answer = (r.score s' load q).answer := score_answer_congr h q
          exact .of_eq (congrArg (fun o => Answer.response (.ofScore o)) ha)
      | reload =>
          have ha : (r.reloadAlone s load).answer = (r.reloadAlone s' load).answer :=
            evaluator_answer_congr h _
          exact .of_eq (congrArg (fun o => Answer.response (.ofReload o)) ha)
      | status => exact .status rfl hc (report_similar h)
      | enumerations =>
          refine .of_eq (congrArg _ ?_)
          simp only [Http.Handler.reply, Http.unchanged, h.current]
      | refusal response => exact .same _

end Ranker

/-! ## Conversations -/

/-- What a host can keep of an answer. -/
inductive Kept
  | evaluator (e : Evaluator)
  | snapshot (s : Snapshot)

/-- What there is to keep of an answer. -/
def Answer.kept? : Answer → Option Kept
  | .evaluator (.ok e) => some (.evaluator e)
  | .snapshot (.ok s) => some (.snapshot s)
  | _ => none

/-- What a host does in one step of a conversation: it asks the ranker for something,
or works something out from what the steps with the given labels have kept. -/
inductive Turn (α : Type)
  | ask (action : Action)
  | use (labels : List Nat) (work : List (Option Kept) → α)

/-- A step of a conversation. What it keeps is known by its label, and `load` is what
the source gives at that time. -/
structure Item (α : Type) where
  label : Nat
  turn : Turn α
  load : Load

/-- What a step comes to. -/
inductive Outcome (α : Type)
  | answered (answer : Answer)
  | worked (result : α)

/-- Outcomes of a step that are the same, or that are answers that agree. -/
def Outcome.Agree {α : Type} : Turn α → Outcome α → Outcome α → Prop
  | .ask action, .answered answer, .answered answer' => answer.Agree action answer'
  | _, outcome, outcome' => outcome = outcome'

/-- What has been kept, by label. -/
abbrev Notes := Nat → Option Kept

/-- Notes with one thing more, if there is one to keep. -/
def Notes.keep (notes : Notes) (label : Nat) : Option Kept → Notes
  | none => notes
  | some kept => fun l => if l = label then some kept else notes l

namespace Item

variable {α : Type}

/-- The labels of the steps whose evaluators and snapshots a step works with. -/
def uses (item : Item α) : List Nat :=
  match item.turn with
  | .ask _ => []
  | .use labels _ => labels

/-- The set that a step puts in place. -/
def installed? (r : Ranker) (item : Item α) : Option EnumerationSet :=
  match item.turn with
  | .ask action => (r.change item.load action).installed?
  | .use _ _ => none

end Item

namespace Ranker

variable {α : Type} {r : Ranker}

/-- The outcomes of a conversation, each beside its step. -/
def converse (r : Ranker) : Store → Notes → List (Item α) → List (Item α × Outcome α)
  | _, _, [] => []
  | store, notes, item :: rest =>
    match item.turn with
    | .ask action =>
      let reply := r.perform store item.load action
      (item, .answered reply.answer)
        :: r.converse reply.store (notes.keep item.label reply.answer.kept?) rest
    | .use labels work =>
      (item, .worked (work (labels.map notes))) :: r.converse store notes rest

end Ranker

/-- Notes that are alike on the labels of the steps that remain. -/
def Notes.AlikeOn (gone : Nat → Bool) (notes notes' : Notes) : Prop :=
  ∀ label, gone label = false → notes label = notes' label

namespace Notes

variable {gone : Nat → Bool} {notes notes' : Notes}

theorem AlikeOn.keep (h : notes.AlikeOn gone notes') (label : Nat) (kept : Option Kept) :
    (notes.keep label kept).AlikeOn gone (notes'.keep label kept) := by
  intro l hl
  cases kept with
  | none => exact h l hl
  | some kept =>
      show (if l = label then some kept else notes l) = if l = label then some kept else notes' l
      rw [h l hl]

theorem AlikeOn.keep_gone (h : notes.AlikeOn gone notes') {label : Nat} (hg : gone label = true)
    (kept : Option Kept) : (notes.keep label kept).AlikeOn gone notes' := by
  intro l hl
  cases kept with
  | none => exact h l hl
  | some kept =>
      have hne : l ≠ label := fun e => absurd (hl.symm.trans (e ▸ hg)) (by decide)
      show (if l = label then some kept else notes l) = notes' l
      rw [if_neg hne]
      exact h l hl

theorem AlikeOn.map_eq (h : notes.AlikeOn gone notes') {labels : List Nat}
    (hl : ∀ label ∈ labels, gone label = false) : labels.map notes = labels.map notes' :=
  List.map_congr_left fun label hm => h label (hl label hm)

end Notes

theorem Answer.Agree.kept? {action : Action} {answer answer' : Answer}
    (h : Answer.Agree action answer answer') : answer.kept? = answer'.kept? := by
  cases h <;> rfl

namespace Ranker

variable {α : Type} {r : Ranker} {gone : Nat → Bool}

/-- Steps that put nothing in place are left out of a conversation that is at a
similar store, with notes that are alike; the steps that remain end as they did. -/
theorem converse_filter_agree {store store' : Store} {notes notes' : Notes}
    (items : List (Item α)) (hs : store.Similar store') (hn : notes.AlikeOn gone notes')
    (hq : ∀ item ∈ items, gone item.label = true → item.installed? r = none)
    (hu : ∀ item ∈ items, gone item.label = false → ∀ label ∈ item.uses, gone label = false) :
    List.Forall₂ (fun p p' => p.1 = p'.1 ∧ Outcome.Agree p.1.turn p.2 p'.2)
      ((r.converse store notes items).filter fun p => !gone p.1.label)
      (r.converse store' notes' (items.filter fun item => !gone item.label)) := by
  induction items generalizing store store' notes notes' with
  | nil => exact .nil
  | cons item rest ih =>
      have hq' := fun i hi => hq i (List.mem_cons_of_mem item hi)
      have hu' := fun i hi => hu i (List.mem_cons_of_mem item hi)
      obtain ⟨label, turn, load⟩ := item
      cases hg : gone label with
      | true =>
          -- The step is left out: the store it leaves is similar, its note is not asked for.
          rw [List.filter_cons_of_neg (by simp [hg])]
          have hi := hq _ List.mem_cons_self hg
          cases turn with
          | ask action =>
              rw [converse, List.filter_cons_of_neg (by simp [hg])]
              refine ih ?_ (hn.keep_gone hg _) hq' hu'
              rw [perform_store]
              exact (Store.similar_apply hi store).trans hs
          | use labels work =>
              rw [converse, List.filter_cons_of_neg (by simp [hg])]
              exact ih hs hn hq' hu'
      | false =>
          rw [List.filter_cons_of_pos (by simp [hg])]
          cases turn with
          | ask action =>
              have ha : Answer.Agree action (r.perform store load action).answer
                  (r.perform store' load action).answer := perform_agree hs action
              rw [converse, converse, List.filter_cons_of_pos (by simp [hg])]
              refine .cons ⟨rfl, ha⟩ (ih ?_ ?_ hq' hu')
              · rw [perform_store, perform_store]
                exact hs.apply _
              · simp only [ha.kept?]
                exact hn.keep label _
          | use labels work =>
              have hl := hn.map_eq (hu _ List.mem_cons_self hg)
              rw [converse, converse, List.filter_cons_of_pos (by simp [hg])]
              refine .cons ⟨rfl, ?_⟩ (ih hs hn hq' hu')
              exact congrArg (fun kept => Outcome.worked (work kept)) hl

/-- Steps that put no set in place do not interfere with the others. Leave out any of
them, as long as no step that remains works with something that one of them kept:
every step that remains has the outcome it had, but for what reports say of failed
reloads. -/
theorem steps_without_install_do_not_interfere (store : Store) (items : List (Item α))
    (hq : ∀ item ∈ items, gone item.label = true → item.installed? r = none)
    (hu : ∀ item ∈ items, gone item.label = false → ∀ label ∈ item.uses, gone label = false) :
    List.Forall₂ (fun p p' => p.1 = p'.1 ∧ Outcome.Agree p.1.turn p.2 p'.2)
      ((r.converse store (fun _ => none) items).filter fun p => !gone p.1.label)
      (r.converse store (fun _ => none) (items.filter fun item => !gone item.label)) :=
  converse_filter_agree items (.refl store) (fun _ _ => rfl) hq hu

/-- A failed reload, the evaluation that follows it and a call with too long a body are left
out; the report and the work with an evaluator of the first step remain. -/
theorem steps_without_install_do_not_interfere_failedReload :
    let r : Ranker := ⟨"scripted", ⟨-1, 0⟩, .report, "__"⟩
    let load : Load := ⟨.ok .empty, []⟩
    let failing : Load := ⟨.error (.sourceUnavailable "scripted" "exhausted"), []⟩
    let long : Http.Call := ⟨"POST", "/score", some "application/json",
      List.replicate (Http.maxBodyLength + 1) 0x20⟩
    let items : List (Item Nat) :=
      [⟨0, .ask (.request (.plain "" .reloadOnly)), load⟩, ⟨1, .ask .reload, failing⟩,
        ⟨2, .ask (.request (.plain "medal" .evaluate)), load⟩, ⟨3, .ask (.call long), load⟩,
        ⟨4, .use [0] fun kept => kept.length, load⟩, ⟨5, .ask .report, load⟩]
    let gone : Nat → Bool := fun label => label == 1 || label == 2 || label == 3
    (∀ item ∈ items, gone item.label = true → item.installed? r = none) ∧
      (∀ item ∈ items, gone item.label = false → ∀ label ∈ item.uses, gone label = false) ∧
      List.Forall₂ (fun p p' => p.1 = p'.1 ∧ Outcome.Agree p.1.turn p.2 p'.2)
        ((r.converse (.new .empty) (fun _ => none) items).filter fun p => !gone p.1.label)
        (r.converse (.new .empty) (fun _ => none) (items.filter fun item => !gone item.label)) := by
  intro r load failing long items gone
  have hlong : (r.change load (.call long)).installed? = none := by
    have ht : Http.Route.ofTarget? long.target = some .score := by decide
    have hl : Http.maxBodyLength < long.body.length := by
      rw [List.length_replicate]
      exact Nat.lt_succ_self _
    obtain ⟨response, hr⟩ := Http.handler_of_tooLong ht hl
    show ((long.handler.request? r.reloadMark).elim .none (·.change load)).installed? = none
    rw [hr]
    rfl
  have hq : ∀ item ∈ items, gone item.label = true → item.installed? r = none := by
    simp only [items, List.forall_mem_cons, gone]
    refine ⟨?_, ?_, ?_, ?_, ?_, ?_, ?_⟩
    case refine_2 => exact fun _ => rfl
    case refine_3 => exact fun _ => rfl
    case refine_4 => exact fun _ => hlong
    all_goals simp
  have hu : ∀ item ∈ items, gone item.label = false → ∀ label ∈ item.uses, gone label = false := by
    simp [items, gone, Item.uses]
  exact ⟨hq, hu, steps_without_install_do_not_interfere (.new .empty) items hq hu⟩

end Ranker

end EnumOrdering
