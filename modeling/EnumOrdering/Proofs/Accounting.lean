import EnumOrdering.Proofs.History
import EnumOrdering.Proofs.Keys
import EnumOrdering.Proofs.Provenance

/-!
# What a store counts

The counters of a store are the totals of its history: its generation and the reloads
that worked count the sets put in place, the reloads that failed count the failures, and
the error kept is that of the last failure, whatever worked since. The four are changed in
different places, so they are held together by one invariant, `Store.Accounts`, which
every change keeps and hence every run.

Sixty-four bits count the failures up to `2 ^ 64` of them, so the counter is said to be
their number in that arithmetic; what it says of their number follows while it has not
run out.
-/

namespace EnumOrdering

/-- The state of a store that began with a set agrees with its history since. -/
structure Store.Accounts (s : Store) (initial : EnumerationSet) (history : List Change) :
    Prop where
  shows : s.Shows (initial :: installs history)
  reloadsOk : s.reloadsOk = s.generation
  reloadsFailed : s.reloadsFailed = UInt64.ofNat (failures history).length
  lastError : s.lastError = (failures history).getLast?.map Failure.message

namespace Store

variable {s : Store} {initial : EnumerationSet} {history : List Change}

theorem accounts_new (initial : EnumerationSet) : (new initial).Accounts initial [] :=
  ⟨shows_new initial, rfl, rfl, rfl⟩

theorem Accounts.generation (h : s.Accounts initial history) :
    s.generation.toNat = (installs history).length :=
  (Nat.succ.inj h.shows.length).symm

theorem Accounts.current (h : s.Accounts initial history) :
    s.current.enumerations = (installs history).getLast?.getD initial := by
  have hc := h.shows.current
  rw [List.getLast?_cons] at hc
  exact (Option.some.inj hc).symm

theorem Accounts.lastError_eq_none_iff (h : s.Accounts initial history) :
    s.lastError = none ↔ failures history = [] := by
  rw [h.lastError, Option.map_eq_none_iff, List.getLast?_eq_none_iff]

theorem Accounts.toNat_reloadsFailed (h : s.Accounts initial history)
    (hn : (failures history).length < UInt64.size) :
    s.reloadsFailed.toNat = (failures history).length := by
  rw [h.reloadsFailed]
  exact UInt64.toNat_ofNat_of_lt' hn

/-- While the counter of failures has not run out, it tells whether there is an error. -/
theorem Accounts.lastError_eq_none_iff_reloadsFailed (h : s.Accounts initial history)
    (hn : (failures history).length < UInt64.size) :
    s.lastError = none ↔ s.reloadsFailed = 0 := by
  rw [h.lastError_eq_none_iff, ← List.length_eq_zero_iff, ← h.toNat_reloadsFailed hn,
    ← UInt64.toNat_inj]
  rfl

/-- Every change of a store keeps its accounts. -/
theorem Accounts.apply (h : s.Accounts initial history) (change : Change)
    (hn : (installs (history ++ [change])).length < UInt64.size) :
    (s.apply change).Accounts initial (history ++ [change]) := by
  have hs : (s.apply change).Shows (initial :: installs (history ++ [change])) := by
    rw [installs_concat] at hn ⊢
    exact h.shows.apply change hn
  -- Only a failure adds to the failures of the history.
  have kept (hf : change.failure? = none) : failures (history ++ [change]) = failures history := by
    rw [failures_concat, hf, Option.toList_none, List.append_nil]
  cases change with
  | none => exact ⟨hs, h.reloadsOk, kept rfl ▸ h.reloadsFailed, kept rfl ▸ h.lastError⟩
  | failed e =>
      refine ⟨hs, h.reloadsOk, ?_, ?_⟩
      · rw [failures_concat, Change.failure?, Option.toList_some, List.length_append,
          List.length_singleton, UInt64.ofNat_add, ← h.reloadsFailed]
        rfl
      · rw [failures_concat, Change.failure?, Option.toList_some, List.getLast?_concat]
        rfl
  | installed enumerations =>
      exact ⟨hs, congrArg (· + 1) h.reloadsOk, kept rfl ▸ h.reloadsFailed, kept rfl ▸ h.lastError⟩

end Store

/-! ## The books of a run -/

namespace Ranker

variable {r : Ranker} {store : Store} {load : Load} {initial : EnumerationSet}

/-- A run keeps the accounts of its store. -/
theorem accounts_finalStore {history : List Change} (run : List (Action × Load))
    (h : store.Accounts initial history)
    (hn : (installs (history ++ r.history store run)).length < UInt64.size) :
    (r.finalStore store run).Accounts initial (history ++ r.history store run) := by
  rw [history_eq_map] at hn ⊢
  induction run generalizing store history with
  | nil => rw [List.map_nil, List.append_nil]; exact h
  | cons p run ih =>
      obtain ⟨action, load⟩ := p
      rw [List.map_cons, List.append_cons] at hn ⊢
      rw [finalStore_cons]
      refine ih (h.apply _ ?_) hn
      rw [installs, List.filterMap_append, List.length_append] at hn
      exact Nat.lt_of_le_of_lt (Nat.le_add_right _ _) hn

theorem accounts_of_begins {run : List (Action × Load)} (hb : Begins initial store)
    (hn : (installs (r.history store run)).length < UInt64.size) :
    (r.finalStore store run).Accounts initial (r.history store run) :=
  accounts_finalStore run (hb.eq_new ▸ Store.accounts_new initial) hn

/-- A set that a change puts in place comes with the next generation; without one the set
in use and its generation stay. -/
def Advances (before : Store) (change : Change) (after : Store) : Prop :=
  match change.installed? with
  | some enumerations =>
    after.current.enumerations = enumerations ∧
      after.generation.toNat = before.generation.toNat + 1
  | none => after.current = before.current

theorem advances_apply (change : Change) (h : store.generation.toNat < UInt64.size - 1) :
    Advances store change (store.apply change) := by
  cases change with
  | none => rfl
  | failed e => rfl
  | installed enumerations => exact ⟨rfl, Course.toNat_succ h⟩

/-- A reload answers with the snapshot that it leaves in use. -/
theorem reload_answer : (r.reload store load).answer =
    load.outcome.map fun _ => (r.reload store load).store.current := by
  rw [reload]
  cases h : load.outcome with
  | error e => rw [reload_of_error h]; rfl
  | ok enumerations => rw [reload_of_ok h]; rfl

theorem generation_take {run : List (Action × Load)} (i : Nat) (hb : Begins initial store)
    (hn : (installs (r.history store run)).length < UInt64.size - 1) :
    (r.finalStore store (run.take i)).generation.toNat < UInt64.size - 1 := by
  have hp : (installs (r.history store (run.take i))).length ≤
      (installs (r.history store run)).length := by
    rw [installs_history, installs_history]
    exact ((List.take_sublist i run).filterMap _).length_le
  rw [(accounts_of_begins hb (by omega)).generation]
  omega

/-- After every run the generation and the reloads that worked count the sets put in
place, the last of which is in use; the failed reloads are counted, and the error kept is
that of the last one; the report gives these numbers with the sizes of the set in use.
Every step moves to the next generation just when it puts a set in place, whatever it
answers, and replacements and reloads answer with the snapshot that they leave in use. -/
theorem counters_total_the_history {run : List (Action × Load)} (hb : Begins initial store)
    (hn : (installs (r.history store run)).length < UInt64.size - 1) :
    let history := r.history store run
    let final := r.finalStore store run
    (final.generation.toNat = (installs history).length ∧
      final.reloadsOk.toNat = (installs history).length ∧
      final.current.enumerations = (installs history).getLast?.getD initial) ∧
    (final.reloadsFailed = UInt64.ofNat (failures history).length ∧
      final.lastError = (failures history).getLast?.map Failure.message ∧
      ((failures history).length < UInt64.size →
        final.reloadsFailed.toNat = (failures history).length ∧
          (final.lastError = none ↔ final.reloadsFailed = 0))) ∧
    r.report final =
      { source := r.source
        generation := final.generation
        enumerationCount := final.current.enumerations.nameSet.card
        totalValues := ∑ name ∈ final.current.enumerations.nameSet,
          final.current.enumerations.valueCount name
        reloadsOk := final.reloadsOk
        reloadsFailed := final.reloadsFailed
        lastError := final.lastError } ∧
    ∀ i action load, run[i]? = some (action, load) →
      ∃ reply, (r.run store run)[i]? = some reply ∧
        reply.store = r.finalStore store (run.take (i + 1)) ∧
        Advances (r.finalStore store (run.take i)) (noted action load reply) reply.store ∧
        (∀ enumerations, action = .replace enumerations →
          reply.answer = .snapshot (.ok reply.store.current)) ∧
        (action = .reload →
          reply.answer = .snapshot (load.outcome.map fun _ => reply.store.current)) := by
  intro history final
  have ha : final.Accounts initial history := accounts_of_begins hb (by omega)
  refine ⟨⟨ha.generation, ha.reloadsOk ▸ ha.generation, ha.current⟩, ?_, ?_, ?_⟩
  · exact ⟨ha.reloadsFailed, ha.lastError, fun hf =>
      ⟨ha.toNat_reloadsFailed hf, ha.lastError_eq_none_iff_reloadsFailed hf⟩⟩
  · rw [EnumerationSet.card_nameSet, ← EnumerationSet.totalValues_eq_sum]
    rfl
  · intro i action load hi
    refine ⟨r.perform (r.finalStore store (run.take i)) load action, ?_, ?_, ?_, ?_, ?_⟩
    · rw [run_getElem?, hi]
      rfl
    · rw [List.take_add_one, hi, Option.toList_some, finalStore_append]
      rfl
    · rw [noted_perform, perform_store]
      exact advances_apply _ (generation_take i hb hn)
    · rintro enumerations rfl
      rfl
    · rintro rfl
      exact congrArg Answer.snapshot reload_answer

/-- A reload that fails, and a set put in place after it: the error is kept. -/
theorem counters_total_the_history_errorKept :
    let r : Ranker := ⟨"scripted", ⟨-1, 0⟩, .report, "__"⟩
    let run : List (Action × Load) :=
      [(.reload, ⟨.error (.sourceUnavailable "scripted" "gone"), []⟩),
        (.replace .empty, ⟨.ok .empty, []⟩)]
    let final := r.finalStore (.new .empty) run
    Begins .empty (Store.new .empty) ∧
      (installs (r.history (.new .empty) run)).length < UInt64.size - 1 ∧
      final.generation.toNat = 1 ∧ final.reloadsFailed.toNat = 1 ∧
      final.lastError = some (Failure.sourceUnavailable "scripted" "gone").message := by
  intro r run final
  have hb : Begins .empty (Store.new .empty) := .inl rfl
  have hn : (installs (r.history (.new .empty) run)).length < UInt64.size - 1 := by decide
  obtain ⟨⟨hg, -, -⟩, ⟨-, he, hf⟩, -⟩ := counters_total_the_history hb hn
  exact ⟨hb, hn, hg, (hf (by decide)).1, he⟩

end Ranker

end EnumOrdering
