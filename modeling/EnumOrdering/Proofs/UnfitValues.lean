import EnumOrdering.Proofs.DocumentText

/-!
# Values that stand for no text

A definition may have values that stand for no text: nothing, a list or an object. They are
no fault of the text, so it is read to its end before anyone minds them, and whatever else is
wrong with it is found first. Then the definition is refused for the first such value, and
neither the records before it nor those after it make a difference to what is said.

The two kinds of reason are never mistaken for each other. A refused value is announced by
the word `entry`, and all that a reader has to say begins otherwise.
-/

namespace EnumOrdering

open Json (Value Problem Fault Blanks ArrayText maxDepth)

/-- A value that stands for no text. -/
inductive Unfit : Value → Prop
  | null : Unfit .null
  | array (items : List Value) : Unfit (.array items)
  | object (members : List (String × Value)) : Unfit (.object members)

theorem Record.key?_eq_none_iff {v : Value} : key? v = none ↔ Unfit v := by
  constructor
  · intro h
    cases v with
    | null => exact .null
    | boolean b => cases b <;> cases h
    | number x => cases h
    | text s => cases h
    | array items => exact .array items
    | object members => exact .object members
  · intro h
    cases h <;> rfl

/-! ## The first of them -/

namespace Definition

variable {definition earlier later : Definition} {record : Record}

/-- The records before the first unfit value take up their indices and nothing else. -/
theorem pairs_of_unfit {index : Nat} (he : ∀ r ∈ earlier, ¬ Unfit r.value)
    (hu : Unfit record.value) :
    pairs index (earlier ++ record :: later) =
      .error (refusal (index + earlier.length) record.value) := by
  induction earlier generalizing index with
  | nil =>
      rw [List.nil_append, pairs, Record.key?_eq_none_iff.mpr hu]
      rfl
  | cons first earlier ih =>
      obtain ⟨hf, he⟩ := List.forall_mem_cons.mp he
      obtain ⟨key, hk⟩ := Option.ne_none_iff_exists'.mp (mt Record.key?_eq_none_iff.mp hf)
      rw [List.cons_append, pairs, hk]
      simp only []
      rw [ih he, List.length_cons, Nat.add_assoc, Nat.add_comm 1]

theorem mapping_of_unfit {origin : String} (he : ∀ r ∈ earlier, ¬ Unfit r.value)
    (hu : Unfit record.value) :
    mapping origin (earlier ++ record :: later) =
      .error (.malformedDefinition origin (refusal earlier.length record.value)) := by
  rw [mapping, pairs_of_unfit he hu, Nat.zero_add]

/-- Where there are unfit values, there is a first one. -/
theorem exists_first_unfit (h : ∃ record ∈ definition, Unfit record.value) :
    ∃ earlier record later, definition = earlier ++ record :: later ∧
      (∀ r ∈ earlier, ¬ Unfit r.value) ∧ Unfit record.value := by
  induction definition with
  | nil =>
      obtain ⟨_, hm, _⟩ := h
      cases hm
  | cons record definition ih =>
      by_cases hu : Unfit record.value
      · exact ⟨[], record, definition, rfl, nofun, hu⟩
      · obtain ⟨other, hm, ho⟩ := h
        rcases List.mem_cons.mp hm with rfl | hm
        · exact absurd ho hu
        · obtain ⟨earlier, first, later, rfl, he, hf⟩ := ih ⟨other, hm, ho⟩
          exact ⟨record :: earlier, first, later, rfl, List.forall_mem_cons.mpr ⟨hu, he⟩, hf⟩

theorem exists_says (h : ∀ record ∈ definition, ¬ Unfit record.value) :
    ∃ pairs, definition.Says pairs := by
  induction definition with
  | nil => exact ⟨[], .nil⟩
  | cons record definition ih =>
      obtain ⟨hf, h⟩ := List.forall_mem_cons.mp h
      obtain ⟨key, hk⟩ := Option.ne_none_iff_exists'.mp (mt Record.key?_eq_none_iff.mp hf)
      obtain ⟨pairs, hp⟩ := ih h
      refine ⟨(key, record.order) :: pairs, .cons (Record.pair?_eq_some_iff.mp ?_) hp⟩
      rw [Record.pair?, hk]
      rfl

theorem mapping_of_fit (origin : String) (h : ∀ record ∈ definition, ¬ Unfit record.value) :
    ∃ pairs, definition.Says pairs ∧ definition.mapping origin = .ok (.ofPairs pairs) := by
  obtain ⟨pairs, hp⟩ := exists_says h
  exact ⟨pairs, hp, mapping_eq_ok_iff.mpr ⟨pairs, hp, rfl⟩⟩

theorem mapping_eq_error_iff {origin : String} :
    (∃ e, definition.mapping origin = .error e) ↔ ∃ record ∈ definition, Unfit record.value := by
  constructor
  · rintro ⟨e, he⟩
    by_contra hn
    have hn : ∀ record ∈ definition, ¬ Unfit record.value := fun r hr hu => hn ⟨r, hr, hu⟩
    obtain ⟨pairs, -, hm⟩ := mapping_of_fit origin hn
    rw [hm] at he
    cases he
  · intro h
    obtain ⟨earlier, record, later, rfl, he, hu⟩ := exists_first_unfit h
    exact ⟨_, mapping_of_unfit he hu⟩

end Definition

/-! ## What a reader has to say -/

/-- A text that is not about an entry, by its beginning. -/
def BeginsOtherwise (s : String) : Prop :=
  5 ≤ s.toList.length ∧ ¬ ['e', 'n', 't', 'r', 'y'] <+: s.toList

instance (s : String) : Decidable (BeginsOtherwise s) :=
  inferInstanceAs (Decidable (_ ∧ _))

theorem BeginsOtherwise.append {s : String} (h : BeginsOtherwise s) (t : String) :
    BeginsOtherwise (s ++ t) := by
  rw [BeginsOtherwise, String.toList_append]
  refine ⟨?_, fun hp => h.2 (List.prefix_of_prefix_length_le hp (List.prefix_append _ _) h.1)⟩
  rw [List.length_append]
  exact Nat.le_trans h.1 (Nat.le_add_right _ _)

theorem Mismatch.beginsOtherwise_message (m : Mismatch) : BeginsOtherwise m.message := by
  cases m with
  | invalidType found expected =>
      have h : BeginsOtherwise "invalid type: " := by decide
      exact ((h.append _).append _).append _
  | invalidValue found expected =>
      have h : BeginsOtherwise "invalid value: " := by decide
      exact ((h.append _).append _).append _
  | invalidLength length expected =>
      have h : BeginsOtherwise "invalid length " := by decide
      exact ((h.append _).append _).append _
  | missingField name =>
      have h : BeginsOtherwise "missing field `" := by decide
      exact (h.append _).append _
  | duplicateField name =>
      have h : BeginsOtherwise "duplicate field `" := by decide
      exact (h.append _).append _

theorem Json.Problem.beginsOtherwise_message (p : Problem) : BeginsOtherwise p.message := by
  cases p
  case mismatch m => exact m.beginsOtherwise_message
  all_goals decide

theorem Json.Fault.beginsOtherwise_message (input : Bytes) (f : Fault) :
    BeginsOtherwise (f.message input) :=
  (((f.problem.beginsOtherwise_message.append _).append _).append _).append _

theorem Definition.refusal_begins (index : Nat) (v : Value) :
    ['e', 'n', 't', 'r', 'y'] <+: (refusal index v).toList := by
  have h : ['e', 'n', 't', 'r', 'y'] <+: "entry ".toList := by decide
  refine h.trans ?_
  simp only [refusal, String.toList_append, List.append_assoc]
  exact List.prefix_append _ _

/-- What a reader says of a text is not what is said of a value. -/
theorem Definition.message_ne_refusal (bytes : Bytes) (fault : Fault) (index : Nat) (v : Value) :
    fault.message bytes ≠ refusal index v := fun h =>
  (fault.beginsOtherwise_message bytes).2 (h ▸ refusal_begins index v)

/-! ## A definition and its text -/

/-- A text that is one array of records of any values, and blanks around it. -/
def Definition.RecordsText (bytes : Bytes) (definition : Definition) : Prop :=
  ∃ j k, Blanks bytes j ∧ ArrayText (Record.Text (maxDepth - 2)) j definition k ∧ Blanks k []

namespace Mapping

open Definition (RecordsText)

variable {origin : String} {bytes : Bytes}

theorem parse_of_recordsText {definition : Definition} (h : RecordsText bytes definition) :
    parse origin bytes = definition.mapping origin := by
  rw [parse, Definition.decode_eq_ok_iff.mpr h]

theorem parse_of_not_recordsText (origin : String)
    (h : ∀ definition, ¬ RecordsText bytes definition) :
    ∃ fault, Definition.decode bytes = .error fault ∧
      parse origin bytes = .error (.malformedDefinition origin (fault.message bytes)) := by
  cases hd : Definition.decode bytes with
  | ok definition => exact absurd (Definition.decode_eq_ok_iff.mp hd) (h definition)
  | error fault => exact ⟨fault, rfl, by rw [parse, hd]⟩

/-- Records are refused just where one of them has an unfit value, and the reason gives the
index and the value of the first such record, whatever stands before it and after it; all
others make up the mapping of their pairs. A text is refused for a value only once all of it
has been read: one that is no array of records is refused with what the reader says of it,
and that is never what is said of a value. -/
theorem definitions_are_refused_for_the_first_unfit_value (origin : String) :
    (∀ definition : Definition,
      ((∃ e, definition.mapping origin = .error e) ↔ ∃ record ∈ definition, Unfit record.value) ∧
      (∀ earlier record later, definition = earlier ++ record :: later →
        (∀ r ∈ earlier, ¬ Unfit r.value) → Unfit record.value →
        definition.mapping origin = .error (.malformedDefinition origin
          (s!"entry {Decimal.natText earlier.length}: value must be a string, number or boolean,"
            ++ s!" got {record.value.compact}"))) ∧
      ((∀ record ∈ definition, ¬ Unfit record.value) →
        ∃ pairs, definition.Says pairs ∧ definition.mapping origin = .ok (ofPairs pairs))) ∧
    ∀ bytes : Bytes,
      (∀ definition, RecordsText bytes definition →
        parse origin bytes = definition.mapping origin) ∧
      ((∀ definition, ¬ RecordsText bytes definition) →
        ∃ fault, Definition.decode bytes = .error fault ∧
          parse origin bytes = .error (.malformedDefinition origin (fault.message bytes)) ∧
          ∀ index v, fault.message bytes ≠ Definition.refusal index v) := by
  refine ⟨fun definition => ⟨Definition.mapping_eq_error_iff, ?_, Definition.mapping_of_fit origin⟩,
    fun bytes => ⟨fun definition => parse_of_recordsText, fun h => ?_⟩⟩
  · rintro earlier record later rfl he hu
    rw [Definition.mapping_of_unfit he hu, Definition.refusal]
    simp only [String.append_assoc]
    rfl
  · obtain ⟨fault, hd, hp⟩ := parse_of_not_recordsText origin h
    exact ⟨fault, hd, hp, Definition.message_ne_refusal bytes fault⟩

example : parse "medal" (Bytes.ofText "[[null,1]") =
    .error (.malformedDefinition "medal" "EOF while parsing a list at line 1 column 9") := by
  decide +kernel

end Mapping

end EnumOrdering
