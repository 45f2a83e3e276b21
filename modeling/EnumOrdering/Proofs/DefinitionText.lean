import EnumOrdering.Proofs.LastWins
import EnumOrdering.Proofs.RecordText

/-!
# The grammar of definitions

A definition text is one array of records, and the value of each record is a text, a
number or a boolean. `Definition.decode` reads records whose values are anything and
`Definition.pairs` refuses the rest afterwards, so the grammar is first shown for
records of values and then carried over to the texts that the values come to.
-/

namespace EnumOrdering

open Json

/-! ## The grammar -/

/-- A value that comes to a text: a text, a boolean or a number. -/
inductive KeyText : Grammar String
  | text {i k : Bytes} {s : String} (h : StringText i s k) : KeyText (Sign.quote :: i) s k
  | true {k : Bytes} : KeyText ([0x74, 0x72, 0x75, 0x65] ++ k) "true" k
  | false {k : Bytes} : KeyText ([0x66, 0x61, 0x6C, 0x73, 0x65] ++ k) "false" k
  | number {i k : Bytes} {x : Number} (h : NumberText i x k) : KeyText i x.text k

/-- A text that is one array of records and blanks around it. -/
def DefinitionText (bytes : Bytes) (pairs : List (String × Int64)) : Prop :=
  ∃ j k, Blanks bytes j ∧ ArrayText (RecordText KeyText) j pairs k ∧ Blanks k []

/-! ## Values and texts -/

variable {i k : Bytes}

/-- A value that is no container is a scalar. -/
theorem exists_scalarText {room : Nat} {v : Value} (h : ValueText room i v k)
    (ha : ∀ items, v ≠ .array items) (ho : ∀ members, v ≠ .object members) :
    ∃ s, ScalarText i s k ∧ v = s.value := by
  cases room with
  | zero => exact h
  | succ room =>
      rcases h with h | ⟨items, _, rfl⟩ | ⟨members, _, rfl⟩
      · exact h
      · exact absurd rfl (ha items)
      · exact absurd rfl (ho members)

theorem keyText_iff (room : Nat) (i : Bytes) (t : String) (k : Bytes) :
    KeyText i t k ↔ ∃ v, Record.key? v = some t ∧ ValueText room i v k := by
  constructor
  · intro h
    cases h with
    | text h => exact ⟨_, rfl, (ScalarText.text h).valueText room⟩
    | true => exact ⟨_, rfl, ScalarText.true.valueText room⟩
    | false => exact ⟨_, rfl, ScalarText.false.valueText room⟩
    | number h => exact ⟨_, rfl, (ScalarText.number h).valueText room⟩
  · intro ⟨v, hv, h⟩
    obtain ⟨s, hs, rfl⟩ :=
      exists_scalarText h (by rintro _ rfl; cases hv) (by rintro _ rfl; cases hv)
    cases hs with
    | null => cases hv
    | true => cases hv; exact .true
    | false => cases hv; exact .false
    | number h => cases hv; exact .number h
    | text h => cases hv; exact .text h

namespace Record

/-- The pair of a record whose value comes to a text. -/
def pair? (record : Record) : Option (String × Int64) :=
  (key? record.value).map fun key => (key, record.order)

theorem recordText_key_iff (room : Nat) (i : Bytes) (p : String × Int64) (k : Bytes) :
    RecordText KeyText i p k ↔ ∃ record : Record, pair? record = some p ∧ Text room i record k := by
  obtain ⟨key, order⟩ := p
  rw [recordText_mapM_iff (keyText_iff room)]
  constructor
  · intro ⟨v, hv, h⟩
    exact ⟨⟨v, order⟩, by rw [pair?, hv]; rfl, h⟩
  · intro ⟨record, hr, h⟩
    obtain ⟨key', hk, hp⟩ := Option.map_eq_some_iff.mp hr
    cases hp
    exact ⟨record.value, hk, h⟩

end Record

namespace Definition

theorem decode_eq_ok_iff {bytes : Bytes} {definition : Definition} :
    decode bytes = .ok definition ↔ ∃ j k, Blanks bytes j ∧
      ArrayText (Record.Text (maxDepth - 2)) j definition k ∧ Blanks k [] :=
  readWholeText_eq_ok_iff (takes_readSequence (Record.takes_read _))

theorem pairs_eq_ok_iff {index : Nat} {records : List Record} {ps : List (String × Int64)} :
    pairs index records = .ok ps ↔ records.mapM Record.pair? = some ps := by
  induction records generalizing index ps with
  | nil => simp [pairs]
  | cons record records ih =>
      rw [pairs, mapM_cons_eq_some_iff]
      cases hk : Record.key? record.value with
      | none => simp [hk, Record.pair?]
      | some key =>
          constructor
          · intro h
            dsimp only at h
            split at h
            · cases h
            · next others ho =>
                cases h
                exact ⟨_, others, by rw [Record.pair?, hk]; rfl, ih.mp ho, rfl⟩
          · intro ⟨p, others, hp, ho, hps⟩
            rw [Record.pair?, hk] at hp
            cases hp
            cases hps
            simp only [ih.mpr ho]

/-- Every record of a definition text comes to a pair exactly where the text is one of
the narrower grammar. -/
theorem definitionText_iff {bytes : Bytes} {ps : List (String × Int64)} :
    DefinitionText bytes ps ↔
      ∃ definition, decode bytes = .ok definition ∧ pairs 0 definition = .ok ps := by
  simp only [decode_eq_ok_iff, pairs_eq_ok_iff]
  constructor
  · intro ⟨j, k, hj, ha, hk⟩
    cases ha with
    | mk hp =>
        obtain ⟨records, hm, hp⟩ := (Parts.mapM_iff (Record.recordText_key_iff _)).mp hp
        exact ⟨records, ⟨_, k, hj, .mk hp, hk⟩, hm⟩
  · intro ⟨records, ⟨j, k, hj, ha, hk⟩, hm⟩
    cases ha with
    | mk hp =>
        exact ⟨_, k, hj, .mk ((Parts.mapM_iff (Record.recordText_key_iff _)).mpr ⟨_, hm, hp⟩), hk⟩

end Definition

namespace Mapping

theorem parse_eq_ok_iff {origin : String} {bytes : Bytes} {m : Mapping} :
    parse origin bytes = .ok m ↔ ∃ pairs, DefinitionText bytes pairs ∧ ofPairs pairs = m := by
  simp only [Definition.definitionText_iff]
  rw [parse]
  constructor
  · intro h
    split at h
    · cases h
    · next definition hd =>
        rw [Definition.mapping] at h
        split at h
        · cases h
        · next ps hp =>
            cases h
            exact ⟨ps, ⟨definition, hd, hp⟩, rfl⟩
  · intro ⟨ps, ⟨definition, hd, hp⟩, hm⟩
    rw [hd]
    simp only [Definition.mapping, hp, hm]

theorem parse_eq_ok_or_malformed (origin : String) (bytes : Bytes) :
    (∃ m, parse origin bytes = .ok m) ∨
      ∃ reason, parse origin bytes = .error (.malformedDefinition origin reason) := by
  rw [parse]
  split
  · exact .inr ⟨_, rfl⟩
  · rw [Definition.mapping]
    split
    · exact .inr ⟨_, rfl⟩
    · exact .inl ⟨_, rfl⟩

/-- The parser accepts exactly the definition texts, and the mapping that it gives sends
every text to the order of the last record that has it. All other byte strings are
malformed definitions. -/
theorem parse_accepts_definition_texts (origin : String) (bytes : Bytes) :
    (∀ m, parse origin bytes = .ok m ↔ ∃ pairs, DefinitionText bytes pairs ∧
      ∀ key, m.get? key = pairs.reverse.lookup key) ∧
    ((¬ ∃ pairs, DefinitionText bytes pairs) →
      ∃ reason, parse origin bytes = .error (.malformedDefinition origin reason)) := by
  constructor
  · intro m
    rw [parse_eq_ok_iff]
    constructor
    · rintro ⟨pairs, hp, rfl⟩
      exact ⟨pairs, hp, get?_ofPairs pairs⟩
    · intro ⟨pairs, hp, hm⟩
      exact ⟨pairs, hp, ext fun key => by rw [get?_ofPairs, hm]⟩
  · intro hn
    rcases parse_eq_ok_or_malformed origin bytes with ⟨m, hm⟩ | hr
    · obtain ⟨pairs, hp, _⟩ := parse_eq_ok_iff.mp hm
      exact (hn ⟨pairs, hp⟩).elim
    · exact hr

end Mapping

end EnumOrdering
