import EnumOrdering.Proofs.DefinitionText
import Mathlib.Data.List.Forall2

/-!
# The grammar of documents

A document text is one object whose members are definitions, each an array of records
whose values are anything that can be read. Only then is it asked which text a value comes
to, and only of the last definition of each name: those before it are put out of the
document by the next of their name, as a whole.

So a document text is known by the list of its parts, definitions with their names in the
order of the text, and what it means is said of the last part of every name.
-/

namespace EnumOrdering

open Json

/-! ## The grammar and its meaning -/

/-- A text that is one object of definitions by name and blanks around it. Three
containers lie around a value there: its record, its definition and the document. -/
def DocumentText (bytes : Bytes) (parts : List (String × Definition)) : Prop :=
  ∃ j k, Blanks bytes (Sign.openBrace :: j) ∧
    Parts Sign.closeBrace (MemberText (NamedText (ArrayText (Record.Text (maxDepth - 3))))) true
      j parts k ∧
    Blanks k []

/-- The pair that a record stands for: its value is a text, a number or a boolean. -/
inductive Record.Says : Record → String × Int64 → Prop
  | text {s : String} {z : Int64} : Says ⟨.text s, z⟩ (s, z)
  | number {x : Number} {z : Int64} : Says ⟨.number x, z⟩ (x.text, z)
  | true {z : Int64} : Says ⟨.boolean Bool.true, z⟩ ("true", z)
  | false {z : Int64} : Says ⟨.boolean Bool.false, z⟩ ("false", z)

/-- The pairs that a definition stands for. -/
def Definition.Says (definition : Definition) (pairs : List (String × Int64)) : Prop :=
  List.Forall₂ Record.Says definition pairs

namespace Document

/-- The definition that counts for a name: the last one. -/
def counting? (parts : List (String × Definition)) (name : String) : Option Definition :=
  parts.reverse.lookup name

/-- A name whose definition has a record that stands for no pair. -/
def Refused (parts : List (String × Definition)) (name : String) : Prop :=
  ∃ definition, counting? parts name = some definition ∧ ∀ pairs, ¬ definition.Says pairs

/-- The set has the names of the parts, and under each of them the order of the last
record with a value, in the definition that counts. -/
structure Means (parts : List (String × Definition)) (s : EnumerationSet) : Prop where
  names : ∀ name, (∃ m, s.get? name = some m) ↔ name ∈ parts.map Prod.fst
  orders : ∀ {name definition m}, counting? parts name = some definition → s.get? name = some m →
    ∃ pairs, definition.Says pairs ∧ ∀ key, m.get? key = pairs.reverse.lookup key

end Document

/-! ## Records and pairs -/

namespace Record

theorem pair?_eq_some_iff {record : Record} {p : String × Int64} :
    pair? record = some p ↔ Says record p := by
  obtain ⟨value, order⟩ := record
  constructor
  · intro h
    obtain ⟨key, hk, rfl⟩ := Option.map_eq_some_iff.mp h
    cases value with
    | null => cases hk
    | boolean b =>
        cases b with
        | false => cases hk; exact .false
        | true => cases hk; exact .true
    | number x => cases hk; exact .number
    | text s => cases hk; exact .text
    | array items => cases hk
    | object members => cases hk
  · intro h
    cases h <;> rfl

end Record

namespace Definition

variable {definition : Definition} {pairs : List (String × Int64)}

theorem mapM_pair?_eq_some_iff :
    definition.mapM Record.pair? = some pairs ↔ definition.Says pairs := by
  induction definition generalizing pairs with
  | nil => simp [Says, eq_comm, List.forall₂_nil_left_iff]
  | cons record definition ih =>
      rw [mapM_cons_eq_some_iff, Says, List.forall₂_cons_left_iff]
      constructor
      · rintro ⟨p, ps, hp, hs, rfl⟩
        exact ⟨p, ps, Record.pair?_eq_some_iff.mp hp, ih.mp hs, rfl⟩
      · rintro ⟨p, ps, hp, hs, rfl⟩
        exact ⟨p, ps, Record.pair?_eq_some_iff.mpr hp, ih.mpr hs, rfl⟩

theorem Says.unique {pairs' : List (String × Int64)} (h : definition.Says pairs)
    (h' : definition.Says pairs') : pairs = pairs' :=
  Option.some.inj ((mapM_pair?_eq_some_iff.mpr h).symm.trans (mapM_pair?_eq_some_iff.mpr h'))

theorem mapping_eq_ok_iff {origin : String} {m : Mapping} :
    definition.mapping origin = .ok m ↔
      ∃ pairs, definition.Says pairs ∧ Mapping.ofPairs pairs = m := by
  simp only [← mapM_pair?_eq_some_iff, ← @pairs_eq_ok_iff 0]
  rw [mapping]
  cases Definition.pairs 0 definition <;> simp

theorem mapping_eq_error {origin : String} {e : Failure}
    (h : definition.mapping origin = .error e) :
    (∀ pairs, ¬ definition.Says pairs) ∧ ∃ reason, e = .malformedDefinition origin reason := by
  constructor
  · intro pairs hp
    have hm : definition.mapping origin = .ok (.ofPairs pairs) :=
      mapping_eq_ok_iff.mpr ⟨pairs, hp, rfl⟩
    rw [h] at hm
    cases hm
  · rw [mapping] at h
    split at h
    · cases h
      exact ⟨_, rfl⟩
    · cases h

end Definition

/-! ## Reading a document -/

namespace Document

variable {origin : String} {bytes : Bytes} {parts : List (String × Definition)}
  {document : Document} {s : EnumerationSet}

/-- A document with one more definition, in the place of any other of its name. -/
def put (document : Document) (part : String × Definition) : Document :=
  document.insert part.1 part.2

theorem takes_read (room : Nat) : Takes (read (room + 3))
    (ObjectText (NamedText (ArrayText (Record.Text room))) (fun t p => some (put t p)) ∅) := by
  refine takes_readMap ?_
  exact keyed_named (takes_readSequence (Record.takes_read room)) fun document name definition =>
    put document (name, definition)

theorem decode_eq_ok_iff : decode bytes = .ok document ↔
    ∃ parts, DocumentText bytes parts ∧ parts.foldl put ∅ = document := by
  refine (readWholeText_eq_ok_iff (takes_read (maxDepth - 3))).trans ?_
  constructor
  · rintro ⟨_, k, hj, ho, hk⟩
    cases ho with
    | mk hp hf =>
        rw [← Option.pure_def, List.foldlM_pure] at hf
        exact ⟨_, ⟨_, k, hj, hp, hk⟩, Option.some.inj hf⟩
  · rintro ⟨parts, ⟨j, k, hj, hp, hk⟩, rfl⟩
    exact ⟨_, k, hj, .mk hp List.foldlM_pure, hk⟩

theorem getElem?_foldl_put (parts : List (String × Definition)) (name : String) :
    (parts.foldl put ∅)[name]? = counting? parts name := by
  refine (getElem?_foldl_insert parts ∅ name).trans ?_
  rw [Std.ExtTreeMap.getElem?_empty, Option.or_none, counting?]

/-! ## Mappings by name -/

/-- Named mappings are those of the definitions of the same names. -/
theorem mappings_eq_ok {named : List (String × Definition)} {ms : List (String × Mapping)}
    (h : mappings origin named = .ok ms) :
    ms.map Prod.fst = named.map Prod.fst ∧
      ∀ name m, ms.lookup name = some m → ∃ definition, named.lookup name = some definition ∧
        definition.mapping (origin ++ "#" ++ name) = .ok m := by
  induction named generalizing ms with
  | nil =>
      cases h
      exact ⟨rfl, nofun⟩
  | cons part named ih =>
      obtain ⟨name, definition⟩ := part
      rw [mappings] at h
      split at h
      · cases h
      · next m hm =>
          split at h
          · cases h
          · next others ho =>
              cases h
              obtain ⟨hn, hl⟩ := ih ho
              refine ⟨by rw [List.map_cons, List.map_cons, hn], ?_⟩
              intro name' m' h'
              rw [List.lookup_cons] at h' ⊢
              by_cases he : name' = name
              · subst he
                rw [beq_self_eq_true] at h' ⊢
                cases h'
                exact ⟨definition, rfl, hm⟩
              · rw [beq_eq_false_iff_ne.mpr he] at h' ⊢
                exact hl name' m' h'

/-- Where mappings are refused, it is for one of the definitions. -/
theorem mappings_eq_error {named : List (String × Definition)} {e : Failure}
    (h : mappings origin named = .error e) :
    ∃ part ∈ named, part.2.mapping (origin ++ "#" ++ part.1) = .error e := by
  induction named with
  | nil => cases h
  | cons part named ih =>
      rw [mappings] at h
      split at h
      · next he =>
          cases h
          exact ⟨part, List.mem_cons_self, he⟩
      · split at h
        · next ho =>
            cases h
            obtain ⟨part', hp, he⟩ := ih ho
            exact ⟨part', List.mem_cons_of_mem _ hp, he⟩
        · cases h

theorem isSome_counting?_iff {name : String} :
    (counting? parts name).isSome ↔ name ∈ parts.map Prod.fst := by
  rw [counting?, isSome_lookup_iff, List.map_reverse, List.mem_reverse]

section
variable (hd : parts.foldl put ∅ = document)
include hd

theorem lookup_toList_put (name : String) :
    document.toList.lookup name = counting? parts name := by
  rw [lookup_toList, ← hd, getElem?_foldl_put]

theorem means_of_enumerations (h : document.enumerations origin = .ok s) : Means parts s := by
  obtain ⟨ms, hm, rfl⟩ : ∃ ms, mappings origin document.toList = .ok ms ∧ .ofList ms = s := by
    rw [enumerations] at h
    cases hm : mappings origin document.toList with
    | error e => rw [hm] at h; cases h
    | ok ms => rw [hm] at h; exact ⟨ms, rfl, Except.ok.inj h⟩
  obtain ⟨hn, hl⟩ := mappings_eq_ok hm
  have hg (name : String) : (EnumerationSet.ofList ms).get? name = ms.lookup name := by
    rw [EnumerationSet.get?_ofList, lookup_reverse]
    rw [hn]
    exact nodup_keys_toList document
  constructor
  · intro name
    rw [hg, ← Option.isSome_iff_exists, isSome_lookup_iff, hn, ← isSome_lookup_iff,
      lookup_toList_put hd, isSome_counting?_iff]
  · intro name definition m hc hm
    obtain ⟨definition', hd', hm⟩ := hl name m (hg name ▸ hm)
    rw [lookup_toList_put hd, hc] at hd'
    cases hd'
    obtain ⟨pairs, hs, rfl⟩ := Definition.mapping_eq_ok_iff.mp hm
    exact ⟨pairs, hs, Mapping.get?_ofPairs pairs⟩

theorem refused_of_enumerations {e : Failure} (h : document.enumerations origin = .error e) :
    ∃ name reason, Refused parts name ∧
      e = .malformedDefinition (origin ++ "#" ++ name) reason := by
  have hm : mappings origin document.toList = .error e := by
    rw [enumerations] at h
    cases hm : mappings origin document.toList with
    | error e => rw [hm] at h; cases h; rfl
    | ok ms => rw [hm] at h; cases h
  obtain ⟨⟨name, definition⟩, hp, hr⟩ := mappings_eq_error hm
  have hc : counting? parts name = some definition := by
    rw [← lookup_toList_put hd]
    exact (lookup_eq_some_iff_mem (nodup_keys_toList document)).mpr hp
  obtain ⟨hn, reason, rfl⟩ := Definition.mapping_eq_error hr
  exact ⟨name, reason, ⟨definition, hc, hn⟩, rfl⟩

end

theorem Means.not_refused (h : Means parts s) (name : String) : ¬ Refused parts name := by
  rintro ⟨definition, hc, hn⟩
  have hi : (counting? parts name).isSome := by rw [hc]; rfl
  obtain ⟨m, hm⟩ := (h.names name).mpr (isSome_counting?_iff.mp hi)
  obtain ⟨pairs, hp, -⟩ := h.orders hc hm
  exact hn pairs hp

/-- What parts mean is one set. -/
theorem Means.unique {s' : EnumerationSet} (h : Means parts s) (h' : Means parts s') : s = s' := by
  refine EnumerationSet.ext fun name => Option.ext fun m => ?_
  -- A mapping of one set is the mapping of the other: both are of the definition that counts.
  have transfer {s s' : EnumerationSet} (h : Means parts s) (h' : Means parts s')
      (hm : s.get? name = some m) : s'.get? name = some m := by
    have hn := (h.names name).mp ⟨m, hm⟩
    obtain ⟨m', hm'⟩ := (h'.names name).mpr hn
    obtain ⟨definition, hc⟩ := Option.isSome_iff_exists.mp (isSome_counting?_iff.mpr hn)
    obtain ⟨pairs, hp, hk⟩ := h.orders hc hm
    obtain ⟨pairs', hp', hk'⟩ := h'.orders hc hm'
    cases hp.unique hp'
    rw [hm', Mapping.ext fun key => (hk' key).trans (hk key).symm]
  exact ⟨transfer h h', transfer h' h⟩

end Document

namespace EnumerationSet

open Document (Means Refused)

variable {origin : String} {bytes : Bytes} {parts : List (String × Definition)}

/-- A document text is given its meaning, or is refused for one of its names. -/
theorem parse_documentText (origin : String) (h : DocumentText bytes parts) :
    (∃ s, parse origin bytes = .ok s ∧ Means parts s) ∨
      ∃ name reason, Refused parts name ∧
        parse origin bytes = .error (.malformedDefinition (origin ++ "#" ++ name) reason) := by
  have hd := Document.decode_eq_ok_iff.mpr ⟨parts, h, rfl⟩
  rw [parse, hd]
  cases he : Document.enumerations origin (parts.foldl Document.put ∅) with
  | ok s => exact .inl ⟨s, he, Document.means_of_enumerations rfl he⟩
  | error e =>
      obtain ⟨name, reason, hr, rfl⟩ := Document.refused_of_enumerations rfl he
      exact .inr ⟨name, reason, hr, he⟩

theorem parse_eq_ok_iff {s : EnumerationSet} :
    parse origin bytes = .ok s ↔ ∃ parts, DocumentText bytes parts ∧ Means parts s := by
  constructor
  · intro h
    rw [parse] at h
    split at h
    · cases h
    · next document hd =>
        obtain ⟨parts, hp, hf⟩ := Document.decode_eq_ok_iff.mp hd
        exact ⟨parts, hp, Document.means_of_enumerations hf h⟩
  · rintro ⟨parts, hp, hm⟩
    rcases parse_documentText origin hp with ⟨s', hs, hm'⟩ | ⟨name, reason, hr, -⟩
    · rw [hs, hm.unique hm']
    · exact (hm.not_refused name hr).elim

/-- The parser accepts exactly the document texts in which the last definition of every
name has only texts, numbers and booleans for its values, and gives the set that has the
names of the text and orders under each what its last definition does. A document text
with other values is refused under one of the names concerned, and any other byte string
under none. -/
theorem parse_accepts_document_texts (origin : String) (bytes : Bytes) :
    (∀ s, parse origin bytes = .ok s ↔ ∃ parts, DocumentText bytes parts ∧ Means parts s) ∧
    (∀ parts, DocumentText bytes parts → (∀ name, ¬ Refused parts name) →
      ∃ s, parse origin bytes = .ok s) ∧
    (∀ parts, DocumentText bytes parts → (∃ name, Refused parts name) →
      ∃ name reason, Refused parts name ∧
        parse origin bytes = .error (.malformedDefinition (origin ++ "#" ++ name) reason)) ∧
    ((∀ parts, ¬ DocumentText bytes parts) →
      ∃ reason, parse origin bytes = .error (.malformedDefinition origin reason)) := by
  refine ⟨fun s => parse_eq_ok_iff, ?_, ?_, ?_⟩
  · intro parts hp hn
    rcases parse_documentText origin hp with ⟨s, hs, -⟩ | ⟨name, reason, hr, -⟩
    · exact ⟨s, hs⟩
    · exact (hn name hr).elim
  · rintro parts hp ⟨name, hr⟩
    rcases parse_documentText origin hp with ⟨s, -, hm⟩ | h
    · exact (hm.not_refused name hr).elim
    · exact h
  · intro hn
    rw [parse]
    cases hd : Document.decode bytes with
    | error f => exact ⟨_, rfl⟩
    | ok document =>
        obtain ⟨parts, hp, -⟩ := Document.decode_eq_ok_iff.mp hd
        exact (hn parts hp).elim

end EnumerationSet

end EnumOrdering
