import EnumOrdering.Proofs.LastWins
import EnumOrdering.Proofs.Provenance
import EnumOrdering.Proofs.Scoring

/-!
# The order of a document

A document reaches an evaluator as the bytes of its field, and there are five questions
that can be asked: what order a value has, whether it has one that counts, and both of a
document, one at a time or many together. The first main result says that the questions
about documents are the questions about what the bytes show as, and that an order that
counts is the order that is given in any case.

The second is about bytes that are no text. What is ill-formed shows as a replacement
character, so as long as no key has one in it, bytes that are not the encoding of a key
are not taken for it.
-/

namespace EnumOrdering

theorem FieldColumn.bytes?_eq_none_iff {c : FieldColumn} {doc : DocId} :
    c.bytes? doc = none ↔ c.size ≤ doc.toNat ∨ c.values[doc.toNat]? = some none := by
  rw [bytes?, size, ← Array.getElem?_eq_none_iff]
  cases c.values[doc.toNat]? with
  | none => simp
  | some value => simp

namespace Evaluator

variable {e : Evaluator} {m : Mapping}

theorem valueFor_of_noop (h : e.mode = .noop) (value : Option String) :
    e.valueFor value = e.policy.noValue := by
  rw [valueFor, resolve, h]

theorem hasOrder_iff {source : FieldSource} {doc : DocId} :
    e.hasOrder source doc = true ↔
      ∃ order, e.orderFor ((source doc).map Bytes.display) = some order := by
  rw [hasOrder_eq, Option.isSome_iff_exists]

theorem hasOrder_eq_false_iff {source : FieldSource} {doc : DocId} :
    e.hasOrder source doc = false ↔ e.absentMode = .report ∧ ∃ m, e.mode = .lookup m ∧
      ∀ text, (source doc).map Bytes.display = some text → m.get? text = none := by
  rw [hasOrder_eq, Option.isSome_eq_false_iff, Option.isNone_iff_eq_none, orderFor_eq_none_iff]
  simp only [Option.bind_eq_none_iff]

/-- What an evaluator says of documents is what it says of the values that their bytes
show as. An order that counts is the order that is given in any case, and only a look-up
that reports absence has orders that do not count; the absent mode has no say in the
order that is given. Many documents get the order of each. -/
theorem orders_of_documents_cohere (e : Evaluator) :
    (∀ (source : FieldSource) (doc : DocId),
      let value := (source doc).map Bytes.display
      (e.hasOrder source doc = true ↔ ∃ order, e.orderFor value = some order) ∧
      (∀ order, e.orderFor value = some order → e.docValue source doc = order) ∧
      e.docValue source doc = e.valueFor value ∧
      (e.hasOrder source doc = false ↔ e.absentMode = .report ∧ ∃ m, e.mode = .lookup m ∧
        ∀ text, value = some text → m.get? text = none)) ∧
    (∀ (column : FieldColumn) (doc : DocId), column.bytes? doc = none ↔
      column.size ≤ doc.toNat ∨ column.values[doc.toNat]? = some none) ∧
    (∀ absentMode value, { e with absentMode := absentMode }.valueFor value = e.valueFor value) ∧
    (e.mode = .noop → ∀ value, e.valueFor value = e.policy.noValue) ∧
    (∀ m, e.mode = .lookup m → e.valueFor none = e.policy.noValue ∧
      (∀ text order, m.get? text = some order → e.valueFor (some text) = order) ∧
      ∀ text, m.get? text = none → e.valueFor (some text) = e.policy.noOrder) ∧
    ∀ (source : FieldSource) (docs : List DocId),
      (e.scoreAll source docs).length = docs.length ∧
      ∀ i : Nat, (e.scoreAll source docs)[i]? = docs[i]?.map (e.docValue source) := by
  refine ⟨?_, fun _ _ => FieldColumn.bytes?_eq_none_iff, fun _ _ => rfl, valueFor_of_noop, ?_, ?_⟩
  · intro source doc value
    refine ⟨hasOrder_iff, ?_, docValue_eq source doc, hasOrder_eq_false_iff⟩
    intro order ho
    rw [docValue_eq, valueFor_of_orderFor ho]
  · intro m hm
    refine ⟨valueFor_of_lookup hm none, ?_, ?_⟩
    · intro text order hg
      rw [valueFor_of_lookup hm, Mapping.valueUnder, hg, Option.getD_some]
    · intro text hg
      rw [valueFor_of_lookup hm, Mapping.valueUnder, hg, Option.getD_none]
  · intro source docs
    rw [scoreAll]
    exact ⟨List.length_map .., fun _ => List.getElem?_map ..⟩

/-! ## Bytes that are no text -/

theorem docValue_of_bytes (hm : e.mode = .lookup m) {source : FieldSource} {doc : DocId}
    {bytes : Bytes} (hb : source doc = some bytes) :
    e.docValue source doc = (m.get? (Bytes.display bytes)).getD e.policy.noOrder := by
  rw [docValue_eq, hb, Option.map_some, valueFor_of_lookup hm, Mapping.valueUnder]

/-- What bytes show as is a key exactly when they encode that key, as long as no key has a
replacement character in it. -/
theorem get?_display_eq_some_iff
    (hk : ∀ key order, m.get? key = some order → Utf8.replacement ∉ key.toList)
    {bytes : Bytes} {order : Int64} :
    m.get? (Bytes.display bytes) = some order ↔
      ∃ key, m.get? key = some order ∧ bytes = Bytes.ofText key := by
  constructor
  · intro hg
    exact ⟨_, hg, (Bytes.display_eq_iff (hk _ order hg)).mp rfl⟩
  · rintro ⟨key, hg, rfl⟩
    rw [Bytes.display_ofText, hg]

/-- As long as no key has a replacement character in it, a document has the order of a key
when its bytes are the encoding of that key, and of no other bytes: not of those of another
text, and not of those that encode none. Bytes that encode a text have the order of the
text whatever the keys are. -/
theorem bytes_pass_for_the_key_they_encode (e : Evaluator) (m : Mapping) (hm : e.mode = .lookup m)
    (source : FieldSource) (doc : DocId) (bytes : Bytes) (hb : source doc = some bytes) :
    ((∀ key order, m.get? key = some order → Utf8.replacement ∉ key.toList) →
      (∀ key order, m.get? key = some order → bytes = Bytes.ofText key →
        e.docValue source doc = order) ∧
      ((∀ key order, m.get? key = some order → bytes ≠ Bytes.ofText key) →
        e.docValue source doc = e.policy.noOrder) ∧
      ((∀ text, bytes ≠ Bytes.ofText text) → e.docValue source doc = e.policy.noOrder) ∧
      (e.absentMode = .report → (e.hasOrder source doc = true ↔
        ∃ key order, m.get? key = some order ∧ bytes = Bytes.ofText key))) ∧
    ∀ text, bytes = Bytes.ofText text → e.docValue source doc = e.valueFor (some text) := by
  refine ⟨?_, ?_⟩
  · intro hk
    have unknown (hu : ∀ key order, m.get? key = some order → bytes ≠ Bytes.ofText key) :
        e.docValue source doc = e.policy.noOrder := by
      rw [docValue_of_bytes hm hb]
      cases hg : m.get? (Bytes.display bytes) with
      | none => rfl
      | some order =>
          obtain ⟨key, hkey, henc⟩ := (get?_display_eq_some_iff hk).mp hg
          exact absurd henc (hu key order hkey)
    refine ⟨?_, unknown, fun hu => unknown fun key _ _ => hu key, ?_⟩
    · rintro key order hg rfl
      rw [docValue_of_bytes hm hb, Bytes.display_ofText, hg, Option.getD_some]
    · intro hr
      rw [hasOrder_iff, hb, Option.map_some, orderFor_of_lookup hm, hr, Mapping.orderUnder]
      simp only [Option.bind_some, get?_display_eq_some_iff hk]
      exact exists_comm
  · rintro text rfl
    rw [docValue_eq, hb, Option.map_some, Bytes.display_ofText]

/-- Half of a surrogate pair encoded by itself, which is the encoding of no text. -/
theorem bytes_pass_for_the_key_they_encode_surrogate :
    let e : Evaluator := ⟨.field "medal" 0, .lookup (.ofPairs [("gold", 3)]), ⟨-1, 0⟩, .report⟩
    let source : FieldSource := fun _ => some [0xED, 0xA0, 0x80]
    (∀ key order, (Mapping.ofPairs [("gold", 3)]).get? key = some order →
      Utf8.replacement ∉ key.toList) ∧
    (∀ text, [0xED, 0xA0, 0x80] ≠ Bytes.ofText text) ∧ e.docValue source 0 = 0 := by
  intro e source
  have hk : ∀ key order, (Mapping.ofPairs [("gold", 3)]).get? key = some order →
      Utf8.replacement ∉ key.toList := by
    intro key order hg
    rw [Mapping.get?_ofPairs, lookup_eq_some_iff_mem (by decide)] at hg
    obtain ⟨rfl, rfl⟩ : key = "gold" ∧ order = 3 := by simpa using hg
    decide
  have hu : ∀ text, [0xED, 0xA0, 0x80] ≠ Bytes.ofText text := by
    intro text ht
    have hh : Utf8.head 0xED [0xA0, 0x80] = .broken [0xA0, 0x80] := rfl
    have hd := Utf8.decode_eq_ok_iff.mpr ht
    rw [Utf8.decode_cons_broken hh] at hd
    cases hd
  exact ⟨hk, hu, ((bytes_pass_for_the_key_they_encode e _ rfl source 0 _ rfl).1 hk).2.2.1 hu⟩

end Evaluator

end EnumOrdering
