import EnumOrdering.Proofs.CutOff

/-!
# Where the values of a definition stand

The value of a record has a place in the text of the definition, from its first byte to
what follows its last. What stands there can be exchanged for any other value, and nothing
else of the definition changes: what is before it was cut loose from it, and what is after
it is the same. So a value that comes to the same text as another can take its place
without anyone noticing.
-/

namespace EnumOrdering

open Json

/-! ## Parts that are exchanged -/

namespace Json

section
variable {α β : Type} {i j k l : Bytes} {close : UInt8} {first : Bool}

theorem Parts.map {P : Grammar β} {G : Grammar α} {f : β → α} {ps : List β}
    (h : Parts close P first i ps k) (hf : ∀ p ∈ ps, ∀ i k, P i p k → G i (f p) k) :
    Parts close G first i (ps.map f) k := by
  induction h with
  | close h => exact .close h
  | part hl hp h ih =>
      obtain ⟨hg, hf⟩ := List.forall_mem_cons.mp hf
      exact .part hl (hg _ _ hp) (ih hf)

/-- A part gives way to any other that ends where it does. The parts before it have to be
cut loose from it, and those after it see nothing of it. -/
theorem Parts.exchange {P : Grammar β} {G : Grammar α} {f : β → α} {before after : List β} {p : β}
    (hb : ∀ b ∈ before, ∀ i k, P i b k → Detached (G · (f b) ·) i k)
    (ha : ∀ a ∈ after, ∀ i k, P i a k → G i (f a) k)
    (h : Parts close P first i (before ++ p :: after) k) :
    ∃ w j l, i = w ++ j ∧ P j p l ∧
      ∀ j' v, G j' v l → Parts close G first (w ++ j') (before.map f ++ v :: after.map f) k := by
  induction before generalizing first i with
  | nil =>
      cases h with
      | part hl hp h =>
          obtain ⟨w, rfl, hw⟩ := hl.detached
          exact ⟨w, _, _, rfl, hp, fun j' v hv => .part (hw j') hv (h.map ha)⟩
  | cons b before ih =>
      obtain ⟨hg, hb⟩ := List.forall_mem_cons.mp hb
      cases h with
      | part hl hp h =>
          obtain ⟨w, j, l, rfl, hpl, hw⟩ := ih hb h
          obtain ⟨u, rfl, hu⟩ := hl.detached.comp (hg _ _ hp)
          refine ⟨u ++ w, j, l, (List.append_assoc u w j).symm, hpl, fun j' v hv => ?_⟩
          obtain ⟨_, hl, hg⟩ := hu (w ++ j')
          rw [List.append_assoc]
          exact .part hl hg (hw j' v hv)

end

/-! ## Places -/

section
variable {α : Type} {i j k l : Bytes}

/-- A value with its place: the input from its beginning on, and the input after it. -/
def Placed (V : Grammar α) : Grammar (α × Bytes × Bytes) := fun i p k => V i p.1 k ∧ p.2 = (i, k)

theorem placed_iff {V : Grammar α} (i : Bytes) (v : α) (k : Bytes) :
    V i v k ↔ ∃ p : α × Bytes × Bytes, some p.1 = some v ∧ Placed V i p k := by
  constructor
  · intro h
    exact ⟨(v, i, k), rfl, h, rfl⟩
  · rintro ⟨p, hp, h, -⟩
    cases hp
    exact h

end

end Json

section
variable {α : Type} {V : Grammar α} {i j k l : Bytes} {v : α} {z : Int64}

theorem Json.MemberText.exchange (h : MemberText (FieldText (Placed V)) i (.value (v, j, l)) k) :
    k = l ∧ V j v l ∧ ∃ w, i = w ++ j ∧
      ∀ j' v', V j' v' l → MemberText (FieldText (Placed V)) (w ++ j') (.value (v', j', l)) l := by
  cases h with
  | mk hn hc hb hm =>
      cases hm with
      | value hv =>
          obtain ⟨hv, he⟩ := hv
          cases he
          obtain ⟨w, rfl, hw⟩ := hn.detached.comp (hc.detached_sign.comp hb.detached)
          refine ⟨rfl, hv, Sign.quote :: w, rfl, fun j' v' hv' => ?_⟩
          obtain ⟨_, hn, _, hc, hb⟩ := hw j'
          exact .mk hn hc hb (.value ⟨hv', rfl⟩)

theorem RecordText.exchange (h : RecordText (Placed V) i ((v, j, l), z) k) :
    V j v l ∧ ∃ w, i = w ++ j ∧
      ∀ j' v', V j' v' l → RecordText (Placed V) (w ++ j') ((v', j', l), z) k := by
  cases h with
  | object h hv ho =>
      obtain ⟨before, m, after, rfl, hb, hm, ha⟩ := List.filterMap_eq_cons_iff.mp hv
      have ha := List.filterMap_eq_nil_iff.mp ha
      cases m with
      | order z => cases hm
      | other => cases hm
      | value p =>
          cases hm
          have hd : ∀ m ∈ before, ∀ i k, MemberText (FieldText (Placed V)) i m k →
              Detached (MemberText (FieldText (Placed V)) · m ·) i k := by
            intro m hm i k h
            refine h.detached fun name i k h => h.detached fun p hp => ?_
            rw [hb m hm] at hp
            cases hp
          obtain ⟨w, j₀, l₀, rfl, hp, hw⟩ := h.exchange (f := id) hd fun _ _ _ _ h => h
          obtain ⟨rfl, hv, u, rfl, hu⟩ := hp.exchange
          refine ⟨hv, Sign.openBrace :: (w ++ u), by simp, fun j' v' hv' => ?_⟩
          have h' := hw (u ++ j') _ (hu j' v' hv')
          rw [List.map_id, List.map_id, ← List.append_assoc] at h'
          refine .object h' ?_ ?_
          · exact List.filterMap_eq_cons_iff.mpr
              ⟨before, _, after, rfl, hb, rfl, List.filterMap_eq_nil_iff.mpr ha⟩
          · rw [List.filterMap_append, List.filterMap_cons] at ho ⊢
            exact ho
  | pair hl hv hl' ho hc =>
      obtain ⟨hv, he⟩ := hv
      cases he
      obtain ⟨w, rfl, hw⟩ := hl.detached
      exact ⟨hv, Sign.openBracket :: w, rfl,
        fun j' v' hv' => .pair (hw j') ⟨hv', rfl⟩ hl' ho hc⟩

end

/-! ## The values of a definition -/

namespace Record

/-- A record whose value has its place with it. -/
abbrev PlacedText (room : Nat) : Grammar ((Value × Bytes × Bytes) × Int64) :=
  RecordText (Placed (ValueText room))

/-- The record without the place. -/
def ofPlaced (p : (Value × Bytes × Bytes) × Int64) : Record := ⟨p.1.1, p.2⟩

theorem text_iff_placed (room : Nat) (i : Bytes) (record : Record) (k : Bytes) :
    Text room i record k ↔ ∃ p, some (ofPlaced p) = some record ∧ PlacedText room i p k := by
  rw [Text, recordText_mapM_iff placed_iff]
  constructor
  · rintro ⟨p, hp, h⟩
    exact ⟨(p, record.order), by rw [ofPlaced, Option.some.inj hp], h⟩
  · rintro ⟨p, hp, h⟩
    cases hp
    exact ⟨p.1, rfl, h⟩

theorem text_ofPlaced {room : Nat} {p : (Value × Bytes × Bytes) × Int64} {i k : Bytes}
    (h : PlacedText room i p k) : Text room i (ofPlaced p) k :=
  (text_iff_placed room i _ k).mpr ⟨p, rfl, h⟩

end Record

namespace Definition

/-- `word` stands between `before` and `after` in a definition text, as the value of one of
its records. -/
def HasValue (before word after : Bytes) (v : Value) : Prop :=
  ∃ j k order records, Blanks (before ++ word ++ after) j ∧
    ArrayText (Record.PlacedText (maxDepth - 2)) j records k ∧ Blanks k [] ∧
    ((v, word ++ after, after), order) ∈ records

/-- The value at a place gives way to any other, and nothing else of the definition
changes. -/
theorem exchange {bytes i k j l : Bytes} {v : Value} {order : Int64}
    {earlier later : List ((Value × Bytes × Bytes) × Int64)} (hi : Blanks bytes i)
    (h : ArrayText (Record.PlacedText (maxDepth - 2)) i (earlier ++ ((v, j, l), order) :: later) k)
    (hk : Blanks k []) :
    ValueText (maxDepth - 2) j v l ∧ ∃ w, bytes = w ++ j ∧
      ∀ j' v', ValueText (maxDepth - 2) j' v' l → decode (w ++ j') = .ok
        (earlier.map Record.ofPlaced ++ ⟨v', order⟩ :: later.map Record.ofPlaced) := by
  have hd : ∀ p ∈ earlier, ∀ i k, Record.PlacedText (maxDepth - 2) i p k →
      Detached (Record.Text (maxDepth - 2) · (.ofPlaced p) ·) i k := fun p _ i k h =>
    loose_recordText (loose_valueText _) _ _ _ (Record.text_ofPlaced h)
  cases h with
  | mk h =>
      obtain ⟨w, i', k', rfl, hr, hw⟩ := h.exchange hd fun p _ i k => Record.text_ofPlaced
      obtain ⟨hv, u, rfl, hu⟩ := hr.exchange
      obtain ⟨t, rfl, ht⟩ := hi.detached
      refine ⟨hv, t ++ Sign.openBracket :: (w ++ u), by simp, fun j' v' hv' => ?_⟩
      have h' := hw (u ++ j') ⟨v', order⟩ (Record.text_ofPlaced (hu j' v' hv'))
      rw [List.append_assoc, List.cons_append, List.append_assoc]
      exact decode_eq_ok_iff.mpr ⟨_, k, ht _, .mk h', hk⟩

variable {before word after : Bytes} {v : Value}

theorem HasValue.exchange (h : HasValue before word after v) :
    ValueText (maxDepth - 2) (word ++ after) v after ∧ ∃ earlier order later,
      ∀ word' v', ValueText (maxDepth - 2) (word' ++ after) v' after →
        decode (before ++ word' ++ after) = .ok (earlier ++ ⟨v', order⟩ :: later) := by
  obtain ⟨j, k, order, records, hj, ha, hk, hm⟩ := h
  obtain ⟨earlier, later, rfl⟩ := List.append_of_mem hm
  obtain ⟨hv, w, he, hw⟩ := Definition.exchange hj ha hk
  rw [List.append_assoc] at he
  obtain rfl := List.append_cancel_right he
  refine ⟨hv, earlier.map Record.ofPlaced, order, later.map Record.ofPlaced, ?_⟩
  intro word' v' hv'
  rw [List.append_assoc]
  exact hw _ v' hv'

theorem exists_hasValue {bytes : Bytes} {definition : Definition}
    (h : decode bytes = .ok definition) {record : Record} (hr : record ∈ definition) :
    ∃ before word after, bytes = before ++ word ++ after ∧
      HasValue before word after record.value := by
  obtain ⟨j, k, hj, ha, hk⟩ := decode_eq_ok_iff.mp h
  cases ha with
  | mk hp =>
      obtain ⟨records, hm, hp'⟩ := (Parts.mapM_iff (Record.text_iff_placed _)).mp hp
      obtain rfl : records.map Record.ofPlaced = definition :=
        Option.some.inj ((List.mapM_pure (m := Option)).symm.trans hm)
      obtain ⟨⟨⟨v, i, l⟩, order⟩, hm, rfl⟩ := List.mem_map.mp hr
      have ha := ArrayText.mk hp'
      obtain ⟨earlier, later, he⟩ := List.append_of_mem hm
      obtain ⟨hv, before, rfl, -⟩ := Definition.exchange hj (he ▸ ha) hk
      obtain ⟨word, rfl, -⟩ := loose_valueText _ _ _ _ hv
      rw [← List.append_assoc] at hj
      exact ⟨before, word, l, (List.append_assoc ..).symm, _, k, order, records, hj, ha, hk, hm⟩

/-! ## What a value comes to -/

theorem pairs_exchange {index : Nat} {earlier later : Definition} {v v' : Value} {order : Int64}
    {key : String} (h : Record.key? v = some key) (h' : Record.key? v' = some key) :
    pairs index (earlier ++ ⟨v, order⟩ :: later) =
      pairs index (earlier ++ ⟨v', order⟩ :: later) := by
  induction earlier generalizing index with
  | nil => simp only [List.nil_append, pairs, h, h']
  | cons record earlier ih => simp only [List.cons_append, pairs, ih]

/-- A value can be exchanged for another that comes to the same text, and no one could tell
from the mapping, or from why there is none. -/
theorem HasValue.parse_eq {x y : Value} {word' : Bytes} {key : String}
    (h : HasValue before word after v) (hx : ValueText (maxDepth - 2) (word ++ after) x after)
    (hy : ValueText (maxDepth - 2) (word' ++ after) y after) (hk : Record.key? x = some key)
    (hk' : Record.key? y = some key) (origin : String) :
    Mapping.parse origin (before ++ word ++ after) =
      Mapping.parse origin (before ++ word' ++ after) := by
  obtain ⟨-, earlier, order, later, hd⟩ := h.exchange
  rw [Mapping.parse, Mapping.parse, hd word x hx, hd word' y hy]
  simp only [mapping, pairs_exchange hk hk']

end Definition

end EnumOrdering
