import EnumOrdering.Proofs.Accounting
import EnumOrdering.Proofs.Http.Tells

/-!
# Responses account for the store

What the responses of a run tell adds up to the counters of the store: those of status 502
to the failures, with the last of the errors, and those that tell of a reload to the
generation. So a client that has seen all of them knows the report before it asks for it.
-/

namespace EnumOrdering

namespace Http

/-- The error that a client was told of last. -/
def lastTold (seen : List (Call × Response)) : Option String :=
  (seen.filter failed).getLast?.bind fun s => errorText s.2

section
variable {mark : String} {seen : List (Call × Response)} {changes : List Change}

theorem countP_reloaded (h : List.Forall₂ (Tells mark) seen changes) :
    seen.countP (reloaded mark) = (installs changes).length := by
  induction h with
  | nil => rfl
  | cons ht h ih =>
      rw [List.countP_cons, ih]
      cases ht with
      | none hf hr => rw [hr]; rfl
      | failed hf he hr => rw [hr]; rfl
      | installed hf hr => rw [hr]; rfl

theorem errorTexts_failed (h : List.Forall₂ (Tells mark) seen changes) :
    (seen.filter failed).map (fun s => errorText s.2) =
      (failures changes).map fun e => some e.message := by
  induction h with
  | nil => rfl
  | cons ht h ih =>
      cases ht with
      | none hf hr => rw [List.filter_cons_of_neg (Bool.eq_false_iff.mp hf), ih]; rfl
      | failed hf he hr => rw [List.filter_cons_of_pos hf, List.map_cons, he, ih]; rfl
      | installed hf hr => rw [List.filter_cons_of_neg (Bool.eq_false_iff.mp hf), ih]; rfl

theorem countP_failed (h : List.Forall₂ (Tells mark) seen changes) :
    seen.countP failed = (failures changes).length := by
  rw [List.countP_eq_length_filter, ← List.length_map fun s => errorText s.2, errorTexts_failed h,
    List.length_map]

theorem lastTold_eq (h : List.Forall₂ (Tells mark) seen changes) :
    lastTold seen = (failures changes).getLast?.map Failure.message := by
  calc lastTold seen
      = ((seen.filter failed).map fun s => errorText s.2).getLast?.bind id := by
        rw [List.getLast?_map, Option.bind_map]
        rfl
    _ = ((failures changes).map fun e => some e.message).getLast?.bind id := by
        rw [errorTexts_failed h]
    _ = (failures changes).getLast?.map Failure.message := by
        rw [List.getLast?_map]
        cases (failures changes).getLast? <;> rfl

end

end Http

namespace Ranker

open Http

variable {r : Ranker} {store : Store} {initial : EnumerationSet}

/-- Calls, each with its response, when they are answered one after the other. -/
def exchanges (r : Ranker) : Store → List (Call × Load) → List (Call × Response)
  | _, [] => []
  | store, (call, load) :: rest =>
    let reply := respond r store load call
    (call, reply.answer) :: r.exchanges reply.store rest

/-- A run that consists of calls. -/
def callRun (calls : List (Call × Load)) : List (Action × Load) :=
  calls.map fun p => (.call p.1, p.2)

theorem tells_exchanges {calls : List (Call × Load)}
    (hl : ∀ p ∈ calls, FailsBySource p.2.outcome) :
    List.Forall₂ (Tells r.reloadMark) (r.exchanges store calls)
      (r.history store (callRun calls)) := by
  rw [history_eq_map]
  induction calls generalizing store with
  | nil => exact .nil
  | cons p calls ih =>
      obtain ⟨call, load⟩ := p
      obtain ⟨h, hs⟩ := List.forall_mem_cons.mp hl
      exact .cons (tells_respond r store call h) (ih hs)

/-- What a client has seen makes up the counters of a store, that of the failures in the
arithmetic of sixty-four bits. -/
structure Accounted (mark : String) (seen : List (Call × Response)) (s : Store) : Prop where
  generation : s.generation.toNat = seen.countP (reloaded mark)
  reloadsFailed : s.reloadsFailed.toNat = seen.countP failed % UInt64.size
  lastError : s.lastError = lastTold seen

theorem accounted_exchanges {calls : List (Call × Load)} (hb : Begins initial store)
    (hl : ∀ p ∈ calls, FailsBySource p.2.outcome)
    (hn : (installs (r.history store (callRun calls))).length < UInt64.size) :
    Accounted r.reloadMark (r.exchanges store calls) (r.finalStore store (callRun calls)) := by
  have ha := accounts_of_begins hb hn
  have ht : List.Forall₂ (Tells r.reloadMark) (r.exchanges store calls) _ := tells_exchanges hl
  constructor
  case generation => exact ha.generation.trans (countP_reloaded ht).symm
  case reloadsFailed =>
    rw [ha.reloadsFailed, countP_failed ht]
    rfl
  case lastError => exact ha.lastError.trans (lastTold_eq ht).symm

/-- The loads of calls that are answered from a source, with what its environment holds at
the time of each. -/
def loadsFrom (source : Source) (calls : List (Call × Source.Environment Id)) :
    List (Call × Load) :=
  calls.map fun p => (p.1, (source.load p.2).run)

/-- From a source of any kind a client always has the account of the store, whatever the
files and the web hold at the time of each call. -/
theorem accounted_loadsFrom {source : Source} {calls : List (Call × Source.Environment Id)}
    (hb : Begins initial store)
    (hn : (installs (r.history store (callRun (loadsFrom source calls)))).length < UInt64.size) :
    Accounted r.reloadMark (r.exchanges store (loadsFrom source calls))
      (r.finalStore store (callRun (loadsFrom source calls))) := by
  refine accounted_exchanges hb (fun p hp => ?_) hn
  obtain ⟨⟨call, env⟩, -, rfl⟩ := List.mem_map.mp hp
  exact Source.failsBySource_load env source

/-- What a client has seen of a run of calls makes up the counters of the store, and the
report gives them. Calls that ask for no reload, and those whose responses tell neither of
a failure nor of a reload, leave the store as it was. A result tells the generation that is
in use right after it. -/
theorem responses_account_for_the_store {calls : List (Call × Load)} (hb : Begins initial store)
    (hl : ∀ p ∈ calls, FailsBySource p.2.outcome)
    (hn : (installs (r.history store (callRun calls))).length < UInt64.size) :
    let seen := r.exchanges store calls
    let final := r.finalStore store (callRun calls)
    Accounted r.reloadMark seen final ∧
    ∀ call load, FailsBySource load.outcome →
      let reply := respond r final load call
      (call.method = "GET" → Route.ofTarget? call.target = some .status →
        reply.answer.status = 200 ∧
        reply.answer.member? "generation" =
          some (.number (.integer (seen.countP (reloaded r.reloadMark)))) ∧
        reply.answer.member? "reloads_failed" =
          some (.number (.integer (seen.countP failed % UInt64.size : Nat))) ∧
        reply.answer.member? "last_error" = some ((lastTold seen).elim .null .text)) ∧
      (call.reloads r.reloadMark = false ∨ reply.answer.status ∉ [200, 404, 502] →
        reply.store = final) ∧
      (failed (call, reply.answer) = false → reloaded r.reloadMark (call, reply.answer) = false →
        reply.store = final) ∧
      (reply.answer.status = 200 → call.method ≠ "HEAD" →
        reply.answer.member? "generation" =
          some (.number (.integer reply.store.generation.toNat))) := by
  intro seen final
  have ha : Accounted r.reloadMark seen final := accounted_exchanges hb hl hn
  refine ⟨ha, fun call load hload => ?_⟩
  intro reply
  refine ⟨fun hm hr => ?_, ?_, respond_of_untold hload, generation_respond⟩
  · have hreply : reply.answer = .json 200 (r.report final).value :=
      congrArg Reply.answer (respond_status hm hr)
    rw [hreply, Response.generation_report, Response.reloadsFailed_report,
      Response.lastError_report, ← ha.generation, ← ha.reloadsFailed, ← ha.lastError]
    exact ⟨rfl, rfl, rfl, rfl⟩
  · rintro (hr | hs)
    · exact respond_of_not_reloads hr
    · simp only [List.mem_cons, List.not_mem_nil, or_false, not_or] at hs
      obtain ⟨h200, h404, h502⟩ := hs
      exact respond_of_untold hload (failed_of_status h502) (reloaded_of_status h200 h404)

/-- A reload that works, one that fails, and the report after them. -/
theorem responses_account_for_the_store_failedReload :
    let r : Ranker := ⟨"scripted", ⟨-1, 0⟩, .report, "__"⟩
    let gone : Failure := .sourceUnavailable "scripted" "gone"
    let demand : Call := ⟨"POST", "/reload", none, []⟩
    let calls : List (Call × Load) := [(demand, ⟨.ok .empty, []⟩), (demand, ⟨.error gone, []⟩)]
    let reply := respond r (r.finalStore (.new .empty) (callRun calls)) ⟨.error gone, []⟩
      ⟨"GET", "/status", none, []⟩
    Begins .empty (Store.new .empty) ∧ (∀ p ∈ calls, FailsBySource p.2.outcome) ∧
      (installs (r.history (.new .empty) (callRun calls))).length < UInt64.size ∧
      reply.answer.member? "generation" = some (.number (.integer 1)) ∧
      reply.answer.member? "reloads_failed" = some (.number (.integer 1)) ∧
      reply.answer.member? "last_error" = some (.text gone.message) := by
  intro r gone demand calls reply
  have hb : Begins .empty (Store.new .empty) := .inl rfl
  have hgone : FailsBySource (.error gone : Except Failure EnumerationSet) :=
    failsBySource_error rfl
  have hl : ∀ p ∈ calls, FailsBySource p.2.outcome :=
    List.forall_mem_cons.mpr ⟨failsBySource_ok _, List.forall_mem_singleton.mpr hgone⟩
  have hn : (installs (r.history (.new .empty) (callRun calls))).length < UInt64.size := by decide
  obtain ⟨-, next⟩ := responses_account_for_the_store hb hl hn
  obtain ⟨report, -⟩ := next ⟨"GET", "/status", none, []⟩ ⟨.error gone, []⟩ hgone
  obtain ⟨-, hg, hf, he⟩ := report rfl (by decide)
  have ht : List.Forall₂ (Tells r.reloadMark) (r.exchanges (.new .empty) calls) _ :=
    tells_exchanges hl
  rw [(countP_reloaded ht).trans (by decide +kernel : _ = 1)] at hg
  rw [(countP_failed ht).trans (by decide +kernel : _ = 1)] at hf
  rw [(lastTold_eq ht).trans (by decide +kernel : _ = some gone.message)] at he
  exact ⟨hb, hl, hn, hg, hf, he⟩

end Ranker

end EnumOrdering
