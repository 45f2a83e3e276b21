import EnumOrdering.Http.Router
import EnumOrdering.Proofs.Json.Member

/-!
# What the bodies of responses tell

Every body that the HTTP interface writes for a result or a failure is an object. Here are
the members of it that tell of the store: the error of a failure, the generation of a
result, and the counters of a report. They are found by a reader that takes no interest
in the rest, since a report counts things without a bound and a set may hold anything.
-/

namespace EnumOrdering

open Json

namespace Http.Response

/-- The scalar under a name in the body of a response. -/
def member? (response : Response) (name : String) : Option Value :=
  Json.member? name (Bytes.ofText response.body)

theorem member?_json {status : Nat} {ps : List (String × Value)} {name : String}
    (h : ∀ p ∈ ps, Passes p.2 ∧ (p.1 = name → Returns p.2)) :
    (json status (.object ps)).member? name = ps.reverse.lookup name := member?_object h

/-- A member that comes back as it was, whoever asks for it. -/
theorem kept {name n : String} {v : Value} (h : Returns v) :
    Passes (n, v).2 ∧ ((n, v).1 = name → Returns (n, v).2) := ⟨h.passes, fun _ => h⟩

/-- A member that is passed over, as another one is asked for. -/
theorem unasked {name n : String} {v : Value} (h : Passes v) (hn : n ≠ name) :
    Passes (n, v).2 ∧ ((n, v).1 = name → Returns (n, v).2) := ⟨h, fun he => (hn he).elim⟩

theorem returns_generation (generation : UInt64) :
    Returns (.number (.integer generation.toNat)) := returns_natural generation.toNat_lt_size

theorem error_ofFailure (e : Failure) :
    (ofFailure e).member? "error" = some (.text e.message) := by
  refine (member?_json ?_).trans rfl
  exact List.forall_mem_cons.mpr ⟨kept (returns_text _), nofun⟩

theorem members_identity {name : String} (description : String) (generation : UInt64) :
    ∀ p ∈ identity description generation, Passes p.2 ∧ (p.1 = name → Returns p.2) :=
  List.forall_mem_cons.mpr ⟨kept (returns_text _),
    List.forall_mem_cons.mpr ⟨kept (returns_generation _), nofun⟩⟩

theorem generation_ofReload (e : Evaluator) : (ofReload (.ok e)).member? "generation" =
    some (.number (.integer e.key.generation.toNat)) :=
  (member?_json (members_identity _ _)).trans rfl

theorem generation_ofScore (s : Score) : (ofScore (.ok s)).member? "generation" =
    some (.number (.integer s.generation.toNat)) := by
  refine (member?_json ?_).trans rfl
  refine List.forall_mem_append.mpr ⟨members_identity _ _, ?_⟩
  refine List.forall_mem_cons.mpr ⟨unasked (passes_array ?_) (by decide), nofun⟩
  intro v hv
  obtain ⟨order, -, rfl⟩ := List.mem_map.mp hv
  cases order with
  | none => exact returns_null.passes
  | some order => exact passes_integer order.toInt

theorem passes_entry (e : Entry) : Passes e.json :=
  passes_object (List.forall_mem_cons.mpr ⟨(returns_text _).passes,
    List.forall_mem_cons.mpr ⟨passes_integer _, nofun⟩⟩)

theorem passes_set (s : EnumerationSet) : Passes s.json := by
  refine passes_object fun p hp => ?_
  obtain ⟨⟨name, m⟩, -, rfl⟩ := List.mem_map.mp hp
  refine passes_array fun v hv => ?_
  obtain ⟨e, -, rfl⟩ := List.mem_map.mp hv
  exact passes_entry e

theorem generation_ofSnapshot (s : Snapshot) : (ofSnapshot s).member? "generation" =
    some (.number (.integer s.generation.toNat)) := by
  refine (member?_json ?_).trans rfl
  exact List.forall_mem_cons.mpr ⟨kept (returns_generation _),
    List.forall_mem_cons.mpr ⟨unasked (passes_set _) (by decide), nofun⟩⟩

/-- The two sizes in a report have no bound, and are the only members that may not come
back as they were. -/
theorem member?_report {r : Report} {ps : List (String × Value)} (h : r.value = .object ps)
    {name : String} (hc : "enumeration_count" ≠ name) (hv : "total_values" ≠ name)
    {status : Nat} : (json status r.value).member? name = ps.reverse.lookup name := by
  rw [h]
  refine member?_json ?_
  cases h
  simp only [List.forall_mem_cons]
  refine ⟨kept (returns_text _), kept (returns_generation _), unasked (passes_integer _) hc,
    unasked (passes_integer _) hv, kept (returns_generation _), kept (returns_generation _),
    kept ?_, nofun⟩
  cases r.lastError with
  | none => exact returns_null
  | some e => exact returns_text e

theorem generation_report (r : Report) {status : Nat} :
    (json status r.value).member? "generation" =
      some (.number (.integer r.generation.toNat)) :=
  (member?_report rfl (by decide) (by decide)).trans rfl

theorem reloadsFailed_report (r : Report) {status : Nat} :
    (json status r.value).member? "reloads_failed" =
      some (.number (.integer r.reloadsFailed.toNat)) :=
  (member?_report rfl (by decide) (by decide)).trans rfl

theorem lastError_report (r : Report) {status : Nat} :
    (json status r.value).member? "last_error" = some (r.lastError.elim .null .text) := by
  refine (member?_report rfl (by decide) (by decide)).trans ?_
  cases r.lastError <;> rfl

end Http.Response

end EnumOrdering
