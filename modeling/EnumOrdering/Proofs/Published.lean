import EnumOrdering.Proofs.DocumentText
import EnumOrdering.Proofs.Handler
import EnumOrdering.Proofs.Json.Written

/-!
# What is published can be loaded

The entries of a mapping are published in an order of their own, and a set under its
names in theirs. Neither order matters to whoever loads them: no value and no name comes
twice, so there is nothing for a last one to replace. The texts are definitions and
documents of the grammar, record by record and member by member.
-/

namespace EnumOrdering

open Json

theorem forall₂_map_map {α β γ : Type} {R : β → γ → Prop} {f : α → β} {g : α → γ} {l : List α}
    (h : ∀ a ∈ l, R (f a) (g a)) : List.Forall₂ R (l.map f) (l.map g) := by
  rw [List.forall₂_map_left_iff, List.forall₂_map_right_iff]
  exact List.forall₂_same.mpr h

/-! ## Entries -/

namespace Mapping

/-- The entries of a mapping as pairs. -/
def pairs (m : Mapping) : List (String × Int64) := m.entries.map fun e => (e.value, e.order)

/-- The entries of a mapping as the records of a definition. -/
def records (m : Mapping) : Definition := m.entries.map fun e => ⟨.text e.value, e.order⟩

theorem perm_pairs (m : Mapping) : m.pairs.Perm m.orders.toList := by
  have hp := (List.mergeSort_perm (m.orders.toList.map fun p => Entry.mk p.1 p.2) Entry.le).map
    fun e => (e.value, e.order)
  rw [List.map_map] at hp
  rw [pairs, entries]
  exact hp.trans (.of_eq (List.map_id _))

theorem nodup_keys_pairs (m : Mapping) : (m.pairs.map Prod.fst).Nodup :=
  (m.perm_pairs.map Prod.fst).nodup_iff.mpr (nodup_keys_toList m.orders)

/-- No value comes twice in a mapping, so the last one that it lists is the only one. -/
theorem lookup_reverse_pairs (m : Mapping) (value : String) :
    m.pairs.reverse.lookup value = m.get? value := by
  refine Option.ext fun order => ?_
  rw [lookup_reverse m.nodup_keys_pairs, lookup_eq_some_iff_mem m.nodup_keys_pairs,
    m.perm_pairs.mem_iff, Std.ExtTreeMap.mem_toList_iff_getElem?_eq_some, get?]

theorem records_says (m : Mapping) : m.records.Says m.pairs := forall₂_map_map fun _ _ => .text

end Mapping

theorem Entry.spells_json {α : Type} {V : Grammar α} {v : α} (e : Entry)
    (hv : Spells V (writeText e.value) v) :
    Spells (RecordText V) (write e.json) (v, e.order) := by
  intro k
  have hvalue : Spells (MemberText (FieldText V)) (writeMember ("value", .text e.value))
      (.value v) := spells_member fun k => .value (hv k)
  have horder : Spells (MemberText (FieldText V)) (writeMember ("order", orderValue e.order))
      (.order e.order) := by
    refine spells_member fun k => .order ?_
    rw [orderValue, write_integer]
    exact spells_order e.order k
  rw [json, encode_object]
  exact .object (parts_writeMembers (.cons hvalue (.cons horder .nil)) k) rfl rfl

/-! ## Mappings -/

namespace Mapping

/-- A mapping is written as the array of its entries, in any grammar that those have. -/
theorem spells_json {α : Type} {G : Grammar α} (m : Mapping) {f : Entry → α}
    (h : ∀ e, Spells G (write e.json) (f e)) :
    Spells (ArrayText G) (write m.json) (m.entries.map f) := by
  rw [json]
  exact spells_array (forall₂_map_map fun e _ => h e)

theorem spells_records (m : Mapping) :
    Spells (ArrayText (Record.Text (maxDepth - 3))) (write m.json) m.records :=
  m.spells_json fun e => e.spells_json fun k => (spells_scalar_text e.value k).valueText _

theorem definitionText_json (m : Mapping) :
    DefinitionText (Bytes.ofText m.json.compact) m.pairs := by
  have hm : Spells (ArrayText (RecordText KeyText)) (write m.json) m.pairs :=
    m.spells_json fun e => e.spells_json fun k => .text (spells_text e.value k)
  refine ⟨_, [], .refl _, ?_, .refl _⟩
  rw [ofText_compact, ← List.append_nil (Utf8.encode _)]
  exact hm []

theorem parse_json (m : Mapping) (origin : String) :
    parse origin (Bytes.ofText m.json.compact) = .ok m := by
  refine parse_eq_ok_iff.mpr ⟨m.pairs, m.definitionText_json, ?_⟩
  exact ext fun value => by rw [get?_ofPairs, lookup_reverse_pairs]

end Mapping

/-! ## Sets -/

namespace EnumerationSet

/-- The parts of a set as a document. -/
def parts (s : EnumerationSet) : List (String × Definition) :=
  s.toList.map fun p => (p.1, p.2.records)

theorem keys_parts (s : EnumerationSet) : s.parts.map Prod.fst = s.names := by
  rw [parts, List.map_map]
  rfl

theorem counting?_parts (s : EnumerationSet) (name : String) :
    Document.counting? s.parts name = (s.get? name).map Mapping.records := by
  have hn : (s.parts.map Prod.fst).Nodup := s.keys_parts ▸ nodup_keys_toList s.mappings
  refine Option.ext fun definition => ?_
  rw [Document.counting?, lookup_reverse hn, lookup_eq_some_iff_mem hn, parts, List.mem_map,
    Option.map_eq_some_iff]
  constructor
  · rintro ⟨p, hp, he⟩
    cases he
    exact ⟨p.2, Std.ExtTreeMap.mem_toList_iff_getElem?_eq_some.mp hp, rfl⟩
  · rintro ⟨m, hm, rfl⟩
    exact ⟨(name, m), Std.ExtTreeMap.mem_toList_iff_getElem?_eq_some.mpr hm, rfl⟩

theorem means_parts (s : EnumerationSet) : Document.Means s.parts s where
  names := by
    intro name
    rw [← Document.isSome_counting?_iff, counting?_parts, Option.isSome_map,
      Option.isSome_iff_exists]
  orders := by
    intro name definition m hc hm
    rw [counting?_parts, hm] at hc
    cases hc
    exact ⟨m.pairs, m.records_says, fun key => (m.lookup_reverse_pairs key).symm⟩

theorem documentText_json (s : EnumerationSet) :
    DocumentText (Bytes.ofText s.json.compact) s.parts := by
  have hs : List.Forall₂ (fun p => Spells
      (MemberText (NamedText (ArrayText (Record.Text (maxDepth - 3))))) (writeMember p))
      (s.toList.map fun p => (p.1, p.2.json)) s.parts :=
    forall₂_map_map fun p _ => spells_member fun k => ⟨rfl, p.2.spells_records k⟩
  refine ⟨_, [], ?_, parts_writeMembers hs [], .refl _⟩
  rw [ofText_compact, json, ← encode_object, List.append_nil]
  exact .refl _

theorem parse_json (s : EnumerationSet) (origin : String) :
    parse origin (Bytes.ofText s.json.compact) = .ok s :=
  parse_eq_ok_iff.mpr ⟨s.parts, s.documentText_json, s.means_parts⟩

end EnumerationSet

/-! ## The answer that publishes a set -/

theorem body_ofSnapshot (s : Snapshot) : (Http.Response.ofSnapshot s).body =
    "\x7b\"generation\":" ++ Decimal.natText s.generation.toNat ++ ",\"enums\":" ++
      s.enumerations.json.compact ++ "\x7d" := by
  have hg : "\x7b\"generation\":".toList = '{' :: writeText "generation" ++ [':'] := by decide
  have he : ",\"enums\":".toList = ',' :: writeText "enums" ++ [':'] := by decide
  have hc : "\x7d".toList = ['}'] := by decide
  rw [← String.toList_inj]
  simp only [Http.Response.ofSnapshot, Http.Response.json, Value.compact, Decimal.natText,
    String.toList_append, String.toList_ofList, hg, he, hc]
  rw [write, writeMembers, writeMembers, write, Number.text, Decimal.intText,
    String.toList_ofList, Decimal.intDigits_natCast]
  simp only [List.append_assoc, List.cons_append, List.nil_append]

/-- Whoever asks for the enumerations in use gets an answer in which the text of the set
is a document that gives the very set back, under every origin; and the entries of every
mapping are a definition that gives the mapping back. -/
theorem published_enumerations_load_back :
    (∀ (r : Ranker) (store : Store) (load : Load) (call : Http.Call), call.method = "GET" →
      Http.Route.ofTarget? call.target = some .enumerations →
      ∃ enums : String,
        (Http.respond r store load call).answer =
          ⟨200, some "application/json",
            "\x7b\"generation\":" ++ Decimal.natText store.generation.toNat ++ ",\"enums\":" ++
              enums ++ "\x7d"⟩ ∧
        ∀ origin,
          EnumerationSet.parse origin (Bytes.ofText enums) = .ok store.current.enumerations) ∧
    ∀ (m : Mapping) (origin : String),
      Mapping.parse origin (Bytes.ofText m.json.compact) = .ok m := by
  constructor
  · intro r store load call hm ht
    have hh : call.handler = .enumerations := by
      rw [Http.Call.handler, ht, hm]
      rfl
    refine ⟨store.current.enumerations.json.compact, ?_, store.current.enumerations.parse_json⟩
    rw [Http.respond_eq_reply, hh, Http.Handler.reply, Http.Call.shown,
      if_neg (by rw [hm]; decide)]
    exact congrArg (Http.Response.mk 200 (some "application/json")) (body_ofSnapshot store.current)
  · exact Mapping.parse_json

/-- The answer of a store that has one enumeration with one value. -/
theorem published_enumerations_load_back_medal :
    let store : Store := .new (EnumerationSet.empty.insert "medal" (.ofPairs [("gold", 3)]))
    let call : Http.Call := ⟨"GET", "/enums", none, []⟩
    call.method = "GET" ∧ Http.Route.ofTarget? call.target = some .enumerations ∧
      ∀ (r : Ranker) (load : Load), ∃ enums : String,
        (Http.respond r store load call).answer =
          ⟨200, some "application/json", "\x7b\"generation\":0,\"enums\":" ++ enums ++ "\x7d"⟩ ∧
        EnumerationSet.parse "copy" (Bytes.ofText enums) = .ok store.current.enumerations := by
  intro store call
  have ht : Http.Route.ofTarget? call.target = some .enumerations := by decide
  have hg : "\x7b\"generation\":" ++ Decimal.natText store.generation.toNat ++ ",\"enums\":" =
      "\x7b\"generation\":0,\"enums\":" := by decide
  refine ⟨rfl, ht, fun r load => ?_⟩
  obtain ⟨enums, ha, hp⟩ := published_enumerations_load_back.1 r store load call rfl ht
  exact ⟨enums, hg ▸ ha, hp "copy"⟩

end EnumOrdering
