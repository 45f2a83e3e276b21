import EnumOrdering.Definition
import EnumOrdering.Proofs.Json.SkippedText
import EnumOrdering.Proofs.Json.ValueText

/-!
# The grammar of records

A record is an object in which one member is called `value` and one is called `order`,
or an array of the two. What stands for the value is left open, so that the grammar
serves both for the values that are read and for the texts that they come to.

The reader keeps a draft and refuses a second `value` or `order` as soon as it sees the
name. `foldlM_addField` turns this into a statement about the list of members as a
whole.
-/

namespace EnumOrdering

open Json

/-! ## The grammar -/

/-- A member of a record, by what its name asks for. -/
inductive Field (α : Type)
  | value (v : α)
  | order (z : Int64)
  | other

def Field.value? {α : Type} : Field α → Option α
  | .value v => some v
  | _ => none

def Field.order? {α : Type} : Field α → Option Int64
  | .order z => some z
  | _ => none

/-- The content of a member of a record. -/
inductive FieldText {α : Type} (V : Grammar α) : (name : String) → Grammar (Field α)
  | value {i k : Bytes} {v : α} (h : V i v k) : FieldText V "value" i (.value v) k
  | order {i k : Bytes} {z : Int64} (h : OrderText i z k) : FieldText V "order" i (.order z) k
  | other {name : String} {i k : Bytes} (hv : name ≠ "value") (ho : name ≠ "order")
      (h : SkippedValue i k) : FieldText V name i .other k

/-- A record: an object with one `value` and one `order`, or an array of the two. -/
inductive RecordText {α : Type} (V : Grammar α) : Grammar (α × Int64)
  | object {i k : Bytes} {fields : List (Field α)} {v : α} {z : Int64}
      (h : Parts Sign.closeBrace (MemberText (FieldText V)) true i fields k)
      (hv : fields.filterMap Field.value? = [v]) (ho : fields.filterMap Field.order? = [z]) :
      RecordText V (Sign.openBrace :: i) (v, z) k
  | pair {i j l m n k : Bytes} {v : α} {z : Int64} (hl : Lead true i j) (hv : V j v l)
      (hl' : Lead false l m) (ho : OrderText m z n) (hc : Blanks n (Sign.closeBracket :: k)) :
      RecordText V (Sign.openBracket :: i) (v, z) k

section
variable {α : Type} {V : Grammar α} {i k : Bytes} {m : Field α} {name : String}

theorem fieldText_value_iff : FieldText V "value" i m k ↔ ∃ v, V i v k ∧ m = .value v := by
  constructor
  · intro h
    generalize hn : "value" = name at h
    cases h with
    | value h => exact ⟨_, h, rfl⟩
    | order => exact absurd hn (by decide)
    | other hv => exact absurd hn.symm hv
  · rintro ⟨v, h, rfl⟩
    exact .value h

theorem fieldText_order_iff : FieldText V "order" i m k ↔ ∃ z, OrderText i z k ∧ m = .order z := by
  constructor
  · intro h
    generalize hn : "order" = name at h
    cases h with
    | value => exact absurd hn (by decide)
    | order h => exact ⟨_, h, rfl⟩
    | other _ ho => exact absurd hn.symm ho
  · rintro ⟨z, h, rfl⟩
    exact .order h

theorem fieldText_other_iff (hv : name ≠ "value") (ho : name ≠ "order") :
    FieldText V name i m k ↔ SkippedValue i k ∧ m = .other := by
  constructor
  · intro h
    cases h with
    | value => exact absurd rfl hv
    | order => exact absurd rfl ho
    | other _ _ h => exact ⟨h, rfl⟩
  · rintro ⟨h, rfl⟩
    exact .other hv ho h

end

/-! ## Other values -/

/-- A member with its value turned into something else. -/
def Field.mapM {α β : Type} (f : α → Option β) : Field α → Option (Field β)
  | .value v => (f v).map .value
  | .order z => some (.order z)
  | .other => some .other

section
variable {α β : Type} {V : Grammar α} {W : Grammar β} {f : α → Option β}

theorem memberText_mapM_iff (h : ∀ i w k, W i w k ↔ ∃ v, f v = some w ∧ V i v k)
    (i : Bytes) (m : Field β) (k : Bytes) :
    MemberText (FieldText W) i m k ↔
      ∃ m', Field.mapM f m' = some m ∧ MemberText (FieldText V) i m' k := by
  constructor
  · intro hm
    cases hm with
    | mk hn hc hb hm =>
        cases hm with
        | value hw =>
            obtain ⟨v, hf, hv⟩ := (h _ _ _).mp hw
            exact ⟨.value v, by simp [Field.mapM, hf], .mk hn hc hb (.value hv)⟩
        | order hz => exact ⟨.order _, rfl, .mk hn hc hb (.order hz)⟩
        | other hv ho hs => exact ⟨.other, rfl, .mk hn hc hb (.other hv ho hs)⟩
  · intro ⟨m', hf, hm⟩
    cases hm with
    | mk hn hc hb hm =>
        cases hm with
        | value hv =>
            obtain ⟨w, hw, rfl⟩ := Option.map_eq_some_iff.mp hf
            exact .mk hn hc hb (.value ((h _ _ _).mpr ⟨_, hw, hv⟩))
        | order hz => cases hf; exact .mk hn hc hb (.order hz)
        | other hv ho hs => cases hf; exact .mk hn hc hb (.other hv ho hs)

theorem filterMap_of_mapM {fields : List (Field α)} {fields' : List (Field β)}
    (h : fields.mapM (Field.mapM f) = some fields') :
    (fields.filterMap Field.value?).mapM f = some (fields'.filterMap Field.value?) ∧
      fields.filterMap Field.order? = fields'.filterMap Field.order? := by
  induction fields generalizing fields' with
  | nil => cases h; exact ⟨rfl, rfl⟩
  | cons field fields ih =>
      obtain ⟨field', rest, hf, hr, rfl⟩ := mapM_cons_eq_some_iff.mp h
      obtain ⟨hv, ho⟩ := ih hr
      cases field with
      | value v =>
          obtain ⟨w, hw, rfl⟩ := Option.map_eq_some_iff.mp hf
          simp [List.filterMap_cons, Field.value?, Field.order?, hw, hv, ho]
      | order z => cases hf; simp [List.filterMap_cons, Field.value?, Field.order?, hv, ho]
      | other => cases hf; simp [List.filterMap_cons, Field.value?, Field.order?, hv, ho]

theorem exists_mapM {fields : List (Field α)} {ws : List β}
    (h : (fields.filterMap Field.value?).mapM f = some ws) :
    ∃ fields', fields.mapM (Field.mapM f) = some fields' := by
  induction fields generalizing ws with
  | nil => exact ⟨[], rfl⟩
  | cons field fields ih =>
      rw [List.filterMap_cons] at h
      cases field with
      | value v =>
          obtain ⟨w, ws, hw, hws, _⟩ := mapM_cons_eq_some_iff.mp h
          obtain ⟨fields', hf⟩ := ih hws
          exact ⟨.value w :: fields', by simp [Field.mapM, hw, hf]⟩
      | order z =>
          obtain ⟨fields', hf⟩ := ih h
          exact ⟨.order z :: fields', by simp [Field.mapM, hf]⟩
      | other =>
          obtain ⟨fields', hf⟩ := ih h
          exact ⟨.other :: fields', by simp [Field.mapM, hf]⟩

theorem mapM_eq_singleton {vs : List α} {w : β} (h : vs.mapM f = some [w]) :
    ∃ v, vs = [v] ∧ f v = some w := by
  cases vs with
  | nil => cases h
  | cons v vs =>
      obtain ⟨w', ws, hw, hws, h⟩ := mapM_cons_eq_some_iff.mp h
      cases h
      cases vs with
      | nil => exact ⟨v, rfl, hw⟩
      | cons v' vs =>
          obtain ⟨_, _, _, _, h⟩ := mapM_cons_eq_some_iff.mp hws
          cases h

/-- A record stays one when its value is turned into something else, and the other way
round. -/
theorem recordText_mapM_iff (h : ∀ i w k, W i w k ↔ ∃ v, f v = some w ∧ V i v k)
    (i : Bytes) (w : β) (z : Int64) (k : Bytes) :
    RecordText W i (w, z) k ↔ ∃ v, f v = some w ∧ RecordText V i (v, z) k := by
  constructor
  · intro hr
    cases hr with
    | object hp hv ho =>
        obtain ⟨fields, hm, hp⟩ := (Parts.mapM_iff (memberText_mapM_iff h)).mp hp
        obtain ⟨hv', ho'⟩ := filterMap_of_mapM hm
        rw [hv] at hv'
        obtain ⟨v, hv', hf⟩ := mapM_eq_singleton hv'
        exact ⟨v, hf, .object hp hv' (ho'.trans ho)⟩
    | pair hl hv hl' ho hc =>
        obtain ⟨v, hf, hv⟩ := (h _ _ _).mp hv
        exact ⟨v, hf, .pair hl hv hl' ho hc⟩
  · intro ⟨v, hf, hr⟩
    cases hr with
    | object hp hv ho =>
        have hs : ([v].mapM f) = some [w] := by rw [List.mapM_cons, hf]; rfl
        rw [← hv] at hs
        obtain ⟨fields', hm⟩ := exists_mapM hs
        obtain ⟨hv', ho'⟩ := filterMap_of_mapM hm
        rw [hs] at hv'
        refine .object ((Parts.mapM_iff (memberText_mapM_iff h)).mpr ⟨_, hm, hp⟩) ?_ ?_
        · exact (Option.some.inj hv').symm
        · exact ho'.symm.trans ho
    | pair hl hv hl' ho hc => exact .pair hl ((h _ _ _).mpr ⟨v, hf, hv⟩) hl' ho hc

end

/-! ## Drafts -/

namespace Record

variable {room : Nat}

/-- The draft after one more member; a second `value` or `order` is refused. -/
def addField (draft : Draft) : Field Value → Option Draft
  | .value v => if draft.value.isSome then none else some { draft with value := some v }
  | .order z => if draft.order.isSome then none else some { draft with order := some z }
  | .other => some draft

/-- Members are accepted where no more than one of each kind comes together, those of
the draft that they are added to included. -/
theorem foldlM_addField (fields : List (Field Value)) (draft draft' : Draft) :
    fields.foldlM addField draft = some draft' ↔
      draft.value.toList ++ fields.filterMap Field.value? = draft'.value.toList ∧
        draft.order.toList ++ fields.filterMap Field.order? = draft'.order.toList := by
  induction fields generalizing draft with
  | nil =>
      cases draft with
      | mk v z =>
          cases draft' with
          | mk v' z' => cases v <;> cases v' <;> cases z <;> cases z' <;> simp
  | cons field fields ih =>
      rw [List.foldlM_cons, List.filterMap_cons, List.filterMap_cons]
      cases field with
      | value v =>
          cases hd : draft.value with
          | none => simp [addField, hd, Field.value?, Field.order?, ih]
          | some w => cases hd' : draft'.value <;> simp [addField, hd, Field.value?]
      | order z =>
          cases hd : draft.order with
          | none => simp [addField, hd, Field.value?, Field.order?, ih]
          | some w => cases hd' : draft'.order <;> simp [addField, hd, Field.order?]
      | other => simp [addField, Field.value?, Field.order?, ih]

/-- A reader of the content that a name asks for takes the members of that name, where
the draft has room for them. -/
theorem takes_member {β : Type} {read : Reader β} {G : Grammar β} {field : β → Field Value}
    {add : β → Draft} {draft : Draft} {name : String} (h : Takes read G)
    (hf : ∀ i m k, FieldText (ValueText room) name i m k ↔ ∃ v, G i v k ∧ m = field v)
    (ha : ∀ v, addField draft (field v) = some (add v)) :
    Takes (fun input => (read input).map (·.map add))
      (fun i d k => ∃ m, FieldText (ValueText room) name i m k ∧ addField draft m = some d) := by
  refine (h.map add).congr ?_
  intro i d k
  constructor
  · rintro ⟨v, hv, rfl⟩
    exact ⟨field v, (hf i _ k).mpr ⟨v, hv, rfl⟩, ha v⟩
  · rintro ⟨m, hm, hs⟩
    obtain ⟨v, hv, rfl⟩ := (hf i m k).mp hm
    rw [ha v] at hs
    exact ⟨v, hv, Option.some.inj hs⟩

theorem keyed_onKey (room : Nat) :
    Keyed (onKey room) (FieldText (ValueText room)) addField where
  takes := by
    intro draft name read hr
    rw [onKey] at hr
    split at hr
    · next hn =>
        split at hr
        · cases hr
        · next hd =>
            cases hr
            subst hn
            refine takes_member (takes_readValue room) (fun _ _ _ => fieldText_value_iff) ?_
            intro v
            simp [addField, hd]
    · split at hr
      · next hn =>
          split at hr
          · cases hr
          · next hd =>
              cases hr
              subst hn
              refine takes_member takes_readInt64 (fun _ _ _ => fieldText_order_iff) ?_
              intro z
              simp [addField, hd]
      · next hv ho =>
          cases hr
          have hf : ∀ i m k, FieldText (ValueText room) name i m k ↔
              ∃ _ : Unit, SkippedValue i k ∧ m = .other := by
            intro i m k
            rw [fieldText_other_iff hv ho, exists_const]
          exact takes_member takes_skipValue hf fun _ => rfl
  refuses := by
    intro draft name e j m k hr hm
    rw [onKey] at hr
    split at hr
    · next hn =>
        split at hr
        · next hd =>
            subst hn
            obtain ⟨v, _, rfl⟩ := fieldText_value_iff.mp hm
            simp [addField, hd]
        · cases hr
    · split at hr
      · next hn =>
          split at hr
          · next hd =>
              subst hn
              obtain ⟨z, _, rfl⟩ := fieldText_order_iff.mp hm
              simp [addField, hd]
          · cases hr
      · cases hr

/-! ## Reading a record -/

variable {i k : Bytes} {record : Record}

/-- A record of values that are read. -/
def Text (room : Nat) : Grammar Record :=
  fun i record k => RecordText (ValueText room) i (record.value, record.order) k

theorem ofDraft_eq_ok_iff {draft : Draft} :
    ofDraft draft = .ok record ↔ draft = ⟨some record.value, some record.order⟩ := by
  cases draft with
  | mk v z =>
      cases v with
      | none => simp [ofDraft]
      | some v =>
          cases z with
          | none => simp [ofDraft]
          | some z =>
              cases record with
              | mk v' z' => simp [ofDraft]

theorem text_of_readObject (h : Gives (readObject room i) record k) :
    Text room (Sign.openBrace :: i) record k := by
  rw [readObject] at h
  split at h
  · exact (not_gives_error h).elim
  · next st hs =>
      split at h
      · exact (not_gives_error h).elim
      · next hr =>
          obtain ⟨rfl, rfl⟩ := gives_ok.mp h
          obtain ⟨fields, hp, hf⟩ := parts_of_readMembers (keyed_onKey room) ⟨st, hs, rfl, rfl⟩
          rw [ofDraft_eq_ok_iff.mp hr, foldlM_addField] at hf
          exact .object hp hf.1 hf.2

theorem readObject_of_fields {fields : List (Field Value)}
    (h : Parts Sign.closeBrace (MemberText (FieldText (ValueText room))) true i fields k)
    (hv : fields.filterMap Field.value? = [record.value])
    (ho : fields.filterMap Field.order? = [record.order]) :
    Gives (readObject room i) record k := by
  have hf : fields.foldlM addField ⟨none, none⟩ = some ⟨some record.value, some record.order⟩ :=
    (foldlM_addField ..).mpr ⟨hv, ho⟩
  obtain ⟨st, hs, hd, rfl⟩ := readMembers_of_parts (keyed_onKey room) h _ hf
  rw [readObject, hs]
  simp only [ofDraft_eq_ok_iff.mpr hd]
  exact gives_ok.mpr ⟨rfl, rfl⟩

theorem text_of_readPair (h : Gives (readPair room i) record k) :
    Text room (Sign.openBracket :: i) record k := by
  rw [readPair] at h
  split at h
  · exact (not_gives_error h).elim
  · next value hv =>
      split at h
      · exact (not_gives_error h).elim
      · next order ho =>
          split at h
          · exact (not_gives_error h).elim
          · next st hs =>
              obtain ⟨rfl, rfl⟩ := gives_ok.mp h
              obtain ⟨j, hl, hj⟩ := lead_of_readItem (takes_readValue room) ⟨value, hv, rfl, rfl⟩
              obtain ⟨m, hl', hm⟩ := lead_of_readItem takes_readInt64 ⟨order, ho, rfl, rfl⟩
              exact .pair hl hj hl' hm (gives_readListEnd.mp ⟨st, hs, rfl, rfl⟩)

theorem readPair_of_items {j l m n : Bytes} (hl : Lead true i j)
    (hv : ValueText room j record.value l) (hl' : Lead false l m)
    (ho : OrderText m record.order n) (hc : Blanks n (Sign.closeBracket :: k)) :
    Gives (readPair room i) record k := by
  have hn : Ends n := hc.ends rfl
  obtain ⟨value, hvalue, hv', rfl⟩ := readItem_of_lead 0 "struct DefinitionEntry with 2 elements"
    (takes_readValue room) hl hv hl'.ends
  obtain ⟨order, horder, ho', rfl⟩ := readItem_of_lead 1 "struct DefinitionEntry with 2 elements"
    takes_readInt64 hl' ho hn
  obtain ⟨st, hs, _, rfl⟩ := gives_readListEnd.mpr hc
  rw [readPair, hvalue]
  simp only [horder, hs]
  refine gives_ok.mpr ⟨?_, rfl⟩
  rw [hv', ho']

/-- The reader of records takes their grammar. -/
theorem takes_read (room : Nat) : Takes (read (room + 1)) (Text room) := by
  refine takes_readFrom ?_ ?_ ?_
  · intro b t record k h
    split at h
    · next hb =>
        rw [hb]
        exact text_of_readPair (gives_enter.mp h)
    · split at h
      · next hb =>
          rw [hb]
          exact text_of_readObject (gives_enter.mp h)
      · exact (not_gives_error h).elim
  · intro b t record k h hk
    cases h with
    | object hp hv ho =>
        rw [if_neg (by decide), if_pos rfl, gives_enter]
        exact readObject_of_fields hp hv ho
    | pair hl hv hl' ho hc =>
        rw [if_pos rfl, gives_enter]
        exact readPair_of_items hl hv hl' ho hc
  · intro i record k h
    cases h with
    | object => exact ⟨rfl, by decide⟩
    | pair => exact ⟨rfl, by decide⟩

end Record

end EnumOrdering
