import EnumOrdering.Proofs.Json.Skippable
import EnumOrdering.Proofs.Json.Written

/-!
# One member of an object

Someone who gets an object and wants to know the text, number or null under one name reads
that member and passes over the others, whatever they hold. `member?` is such a reader. Of
an object that was written it finds the last member of the name, provided that the value
is one that comes back as it was and that the other values can be passed over; both are
properties of the written values, which the lemmas here hand on from part to whole.
-/

namespace EnumOrdering.Json

/-- How the members of an object are read by someone who wants the scalar of one name. -/
def onWanted (wanted : String) (found : Option Value) (name : String) :
    Except Mismatch (Reader (Option Value)) :=
  if name = wanted then .ok fun input => (readValue 0 input).map (·.map some)
  else .ok fun input => (skipValue input).map (·.map fun _ => found)

/-- The scalar under a name in an object. -/
def member? (wanted : String) (text : Bytes) : Option Value :=
  match readWholeText (readMap 1 (fun _ => onWanted wanted) none) text with
  | .ok found => found
  | .error _ => none

/-! ## The grammar of the object -/

/-- A member as it is read: with its value if it is wanted, and without it otherwise. -/
def WantedText (wanted name : String) : Grammar (Option Value) := fun i m k =>
  if name = wanted then ∃ v, ValueText 0 i v k ∧ m = some v else SkippedValue i k ∧ m = none

variable {wanted : String}

theorem keyed_wanted (wanted : String) :
    Keyed (onWanted wanted) (WantedText wanted) fun found m => some (m.or found) where
  takes := by
    intro found name read hr
    unfold onWanted at hr
    split at hr
    · next hn =>
        cases hr
        refine ((takes_readValue 0).map some).congr ?_
        intro i found' k
        simp only [WantedText, if_pos hn]
        constructor
        · rintro ⟨v, hv, rfl⟩
          exact ⟨some v, ⟨v, hv, rfl⟩, rfl⟩
        · rintro ⟨m, ⟨v, hv, rfl⟩, hs⟩
          exact ⟨v, hv, Option.some.inj hs⟩
    · next hn =>
        cases hr
        refine (takes_skipValue.map fun _ => found).congr ?_
        intro i found' k
        simp only [WantedText, if_neg hn]
        constructor
        · rintro ⟨_, hv, rfl⟩
          exact ⟨none, ⟨hv, rfl⟩, rfl⟩
        · rintro ⟨m, ⟨hv, rfl⟩, hs⟩
          exact ⟨(), hv, Option.some.inj hs⟩
  refuses := by
    intro found name e j m k hr
    unfold onWanted at hr
    split at hr <;> cases hr

/-! ## Written values -/

/-- A value that can be passed over as it is written. -/
def Passes (v : Value) : Prop := ∀ k, SkippedValue (Utf8.encode (write v) ++ k) k

/-- A value that comes back as it was written. -/
def Returns (v : Value) : Prop := Spells (ValueText 0) (write v) v

theorem Returns.passes {v : Value} (h : Returns v) : Passes v :=
  fun k => skippable_valueText 0 _ _ _ (h k)

theorem returns_null : Returns .null := fun _ => ⟨.null, .null, rfl⟩

theorem returns_text (s : String) : Returns (.text s) :=
  fun k => ⟨.text s, spells_scalar_text s k, rfl⟩

theorem passes_integer (z : Int) : Passes (.number (.integer z)) := by
  obtain ⟨n, -, -, -, -, h⟩ := exists_spells_numeral z
  rw [Passes, write_integer]
  exact fun k => .scalar (.number (h k))

/-- A natural number of 64 bits comes back as it was; a greater one would come back as a
double. -/
theorem returns_natural {n : Nat} (hn : n < UInt64.size) : Returns (.number (.integer n)) := by
  have hsize : UInt64.size = 2 ^ 64 := rfl
  rw [Returns, write_integer]
  exact fun k => ⟨.number (.integer n), .number (spells_integer ⟨by omega, by omega⟩ k), rfl⟩

theorem passes_array {values : List Value} (h : ∀ v ∈ values, Passes v) :
    Passes (.array values) := by
  have hs : List.Forall₂ (fun v (_ : Unit) => Spells (fun i _ k => SkippedValue i k) (write v) ())
      values (values.map fun _ => ()) := by
    rw [List.forall₂_map_right_iff]
    exact List.forall₂_same.mpr h
  intro k
  exact skippable_arrayText (fun _ _ _ h => h) _ _ _ (spells_array hs k)

theorem forall₂_writeMember {μ : Type} {C : String → Grammar μ} {ps : List (String × Value)}
    {f : String × Value → μ} (h : ∀ p ∈ ps, Spells (C p.1) (write p.2) (f p)) :
    List.Forall₂ (fun p => Spells (MemberText C) (writeMember p)) ps (ps.map f) := by
  rw [List.forall₂_map_right_iff]
  exact List.forall₂_same.mpr fun p hp => spells_member (h p hp)

theorem passes_object {ps : List (String × Value)} (h : ∀ p ∈ ps, Passes p.2) :
    Passes (.object ps) := by
  intro k
  have hp := parts_writeMembers (C := fun _ i _ k => SkippedValue i k)
    (forall₂_writeMember (f := fun _ => ()) h) k
  rw [encode_object]
  exact @SkippedValue.container .object _ _ (hp.skipped_object fun _ _ _ _ h => h)

/-! ## The member of a written object -/

/-- What a member adds to what was found before it. -/
def finding (wanted : String) (p : String × Value) : Option Value :=
  if p.1 = wanted then some p.2 else none

theorem foldl_finding (ps : List (String × Value)) (found : Option Value) :
    ps.foldl (fun found p => (finding wanted p).or found) found =
      (ps.reverse.lookup wanted).or found := by
  induction ps generalizing found with
  | nil => rfl
  | cons p ps ih =>
      rw [List.foldl_cons, ih, List.reverse_cons, List.lookup_append, Option.or_assoc]
      by_cases hp : p.1 = wanted
      · rw [finding, if_pos hp, ← hp, List.lookup_cons_self]
      · have hb : (wanted == p.1) = false := beq_eq_false_iff_ne.mpr (Ne.symm hp)
        rw [finding, if_neg hp, List.lookup_cons, hb]
        rfl

/-- Of an object that was written the last member of the name is found. -/
theorem member?_object {ps : List (String × Value)}
    (h : ∀ p ∈ ps, Passes p.2 ∧ (p.1 = wanted → Returns p.2)) :
    member? wanted (Bytes.ofText (Value.object ps).compact) = ps.reverse.lookup wanted := by
  have hs : ∀ p ∈ ps, Spells (WantedText wanted p.1) (write p.2) (finding wanted p) := by
    intro p hp k
    by_cases hn : p.1 = wanted
    · simp only [WantedText, finding, if_pos hn]
      exact ⟨p.2, (h p hp).2 hn k, rfl⟩
    · simp only [WantedText, finding, if_neg hn]
      exact ⟨(h p hp).1 k, trivial⟩
  have hf : (ps.map (finding wanted)).foldlM (fun found m => some (m.or found)) none =
      some (ps.reverse.lookup wanted) := by
    rw [← Option.pure_def, List.foldlM_pure, List.foldl_map]
    exact congrArg some ((foldl_finding ps none).trans (Option.or_none ..))
  have hr : readWholeText (readMap 1 (fun _ => onWanted wanted) none)
      (Bytes.ofText (Value.object ps).compact) = .ok (ps.reverse.lookup wanted) := by
    refine (readWholeText_eq_ok_iff (takes_readMap (keyed_wanted wanted))).mpr ?_
    refine ⟨_, [], .refl _, ?_, .refl []⟩
    rw [ofText_compact, ← List.append_nil (Utf8.encode _), encode_object]
    exact .mk (parts_writeMembers (forall₂_writeMember hs) []) hf
  rw [member?, hr]

end EnumOrdering.Json
