import EnumOrdering.Proofs.FieldColumn

/-!
# Columns that grow

A column is asked for its documents while more of them are added to it. Nothing that it has
said of a document is ever taken back: the numbers are handed out one after the other from
zero, a number stands for the same value for ever, and a number that has not been handed out
stands for none.

All of this follows from one invariant, `Holds`: the column has the values that were given
so far, each as its bytes, in the order in which they were given. A list that a column is
made of was given to it in the same way, one value at a time.
-/

namespace EnumOrdering.FieldColumn

/-- Something asked of a column: to take one more document, or what it has. -/
inductive Query
  | push (value : Option String)
  | bytes (doc : DocId)
  | docs
  | size
  | isEmpty

/-- What a query is answered with. -/
inductive Finding
  | taken (doc : Option DocId)
  | bytes (found : Option Bytes)
  | docs (all : List DocId)
  | size (n : Nat)
  | isEmpty (b : Bool)

/-- The answer to a query. -/
def ask (c : FieldColumn) : Query → Finding
  | .push value => .taken ((c.push? value).map Prod.fst)
  | .bytes doc => .bytes (c.bytes? doc)
  | .docs => .docs c.docs
  | .size => .size c.size
  | .isEmpty => .isEmpty c.isEmpty

/-- The column after a query. -/
def after (c : FieldColumn) : Query → FieldColumn
  | .push value => ((c.push? value).map Prod.snd).getD c
  | .bytes _ => c
  | .docs => c
  | .size => c
  | .isEmpty => c

/-- The answers to queries one after the other. -/
def askAll : FieldColumn → List Query → List Finding
  | _, [] => []
  | c, query :: rest => c.ask query :: (c.after query).askAll rest

/-- The column after queries. -/
def afterAll (c : FieldColumn) (queries : List Query) : FieldColumn := queries.foldl after c

/-- The value that a query gives to the column. -/
def Query.value? : Query → Option (Option String)
  | .push value => some value
  | .bytes _ => none
  | .docs => none
  | .size => none
  | .isEmpty => none

/-- The values that queries give to a column, in their order. -/
def given (queries : List Query) : List (Option String) := queries.filterMap Query.value?

theorem given_cons (query : Query) (queries : List Query) :
    given (query :: queries) = query.value?.toList ++ given queries := by
  rw [given, List.filterMap_cons]
  cases query.value? <;> rfl

/-! ## What a column has -/

/-- A column has the values that were given to it. -/
def Holds (c : FieldColumn) (values : List (Option String)) : Prop :=
  c.values.toList = values.map (·.map Bytes.ofText)

variable {c : FieldColumn} {values : List (Option String)}

theorem Holds.size (h : c.Holds values) : c.size = values.length := by
  rw [FieldColumn.size, ← Array.length_toList, h, List.length_map]

theorem Holds.bytes? (h : c.Holds values) (doc : DocId) :
    c.bytes? doc = values[doc.toNat]?.join.map Bytes.ofText := by
  rw [FieldColumn.bytes?, ← Array.getElem?_toList, h, List.getElem?_map]
  cases values[doc.toNat]? <;> rfl

theorem Holds.bytes?_eq_some_iff (h : c.Holds values) {doc : DocId} {text : String} :
    c.bytes? doc = some (Bytes.ofText text) ↔ values[doc.toNat]? = some (some text) := by
  rw [h.bytes?, Option.map_eq_some_iff, ← Option.join_eq_some_iff]
  constructor
  · rintro ⟨other, ho, he⟩
    -- Bytes that show the same text are those of the same text.
    rw [← Bytes.display_ofText text, ← he, Bytes.display_ofText]
    exact ho
  · intro ht
    exact ⟨text, ht, rfl⟩

theorem Holds.docs (h : c.Holds values) (hn : values.length ≤ UInt32.size) :
    c.docs.map UInt32.toNat = List.range values.length := by
  rw [docs_eq (h.size ▸ hn), h.size, List.map_map]
  refine (List.map_congr_left fun i hi => ?_).trans (List.map_id _)
  exact UInt32.toNat_ofNat_of_lt' (Nat.lt_of_lt_of_le (List.mem_range.mp hi) hn)

theorem holds_ofList (h : values.length ≤ UInt32.size) : (ofList values).Holds values :=
  values_ofList h

/-- Every query keeps in the column what was given to it, and adds what it gives. -/
theorem Holds.after (h : c.Holds values) (query : Query)
    (hn : (values ++ query.value?.toList).length ≤ UInt32.size) :
    (c.after query).Holds (values ++ query.value?.toList) := by
  cases query with
  | push value =>
      rw [Query.value?, Option.toList_some, List.length_append, List.length_singleton] at hn
      rw [FieldColumn.after, push?_of_lt (by rw [h.size]; omega), Query.value?, Option.toList_some]
      show (c.values.push _).toList = _
      rw [Array.toList_push, h, List.map_append, List.map_singleton]
  | bytes | docs | size | isEmpty =>
      -- Nothing is given, and the column stays as it is.
      rw [Query.value?, Option.toList_none, List.append_nil]
      exact h

theorem Holds.afterAll {queries : List Query} (h : c.Holds values)
    (hn : (values ++ given queries).length ≤ UInt32.size) :
    (c.afterAll queries).Holds (values ++ given queries) := by
  induction queries generalizing c values with
  | nil => rw [given, List.filterMap_nil, List.append_nil]; exact h
  | cons query queries ih =>
      rw [given_cons, ← List.append_assoc] at hn ⊢
      exact ih (h.after query (Nat.le_trans (List.prefix_append _ _).length_le hn)) hn

/-! ## The answers -/

/-- The answer to a query that is due from a column to which the values were given. -/
inductive Due (values : List (Option String)) : Query → Finding → Prop
  | taken {value : Option String} {doc : DocId} (hd : doc.toNat = values.length) :
      Due values (.push value) (.taken (some doc))
  | bytes {doc : DocId} :
      Due values (.bytes doc) (.bytes (values[doc.toNat]?.join.map Bytes.ofText))
  | docs {all : List DocId} (ha : all.map UInt32.toNat = List.range values.length) :
      Due values .docs (.docs all)
  | size : Due values .size (.size values.length)
  | isEmpty : Due values .isEmpty (.isEmpty values.isEmpty)

theorem Holds.ask (h : c.Holds values) (query : Query)
    (hn : (values ++ query.value?.toList).length ≤ UInt32.size) :
    Due values query (c.ask query) := by
  have hv : values.length ≤ UInt32.size := Nat.le_trans (List.prefix_append _ _).length_le hn
  cases query with
  | push value =>
      rw [Query.value?, Option.toList_some, List.length_append, List.length_singleton] at hn
      rw [FieldColumn.ask, push?_of_lt (by rw [h.size]; omega), h.size]
      exact .taken (UInt32.toNat_ofNat_of_lt' (by omega))
  | bytes doc => rw [FieldColumn.ask, h.bytes?]; exact .bytes
  | docs => exact .docs (h.docs hv)
  | size => rw [FieldColumn.ask, h.size]; exact .size
  | isEmpty =>
      have he : c.isEmpty = values.isEmpty := by
        rw [FieldColumn.isEmpty, ← Array.isEmpty_toList, h, List.isEmpty_map]
      rw [FieldColumn.ask, he]
      exact .isEmpty

/-- The answer at a position comes from the column after what was asked before. -/
theorem getElem?_askAll (queries : List Query) (i : Nat) :
    (c.askAll queries)[i]? = queries[i]?.map (c.afterAll (queries.take i)).ask := by
  induction queries generalizing c i with
  | nil => rfl
  | cons query queries ih =>
      cases i with
      | zero => rfl
      | succ i => exact ih i

/-! ## A column of a list -/

/-- A column that is full takes nothing. -/
theorem afterAll_push_of_full {value : Option String} (h : c.push? value = none)
    (values : List (Option String)) : c.afterAll (values.map .push) = c := by
  have hf (other : Option String) : c.push? other = none :=
    Option.map_eq_none_iff.mpr (Option.map_eq_none_iff.mp h)
  induction values with
  | nil => rfl
  | cons other values ih =>
      rw [List.map_cons, afterAll, List.foldl_cons, FieldColumn.after, hf other]
      exact ih

theorem pushAll_eq_afterAll (c : FieldColumn) (values : List (Option String)) :
    c.pushAll values = c.afterAll (values.map .push) := by
  induction values generalizing c with
  | nil => rfl
  | cons value values ih =>
      rw [pushAll, List.map_cons, afterAll, List.foldl_cons, FieldColumn.after]
      cases hp : c.push? value with
      | none => exact (afterAll_push_of_full hp values).symm
      | some taken => exact ih taken.2

/-! ## Growing -/

theorem given_take_succ {queries : List Query} {i : Nat} {query : Query}
    (h : queries[i]? = some query) :
    given (queries.take (i + 1)) = given (queries.take i) ++ query.value?.toList := by
  rw [List.take_add_one, h, Option.toList_some, given, List.filterMap_append]
  exact congrArg _ ((given_cons query []).trans (List.append_nil _))

theorem given_take_of_le (queries : List Query) {i j : Nat} (h : i ≤ j) :
    given (queries.take i) <+: given (queries.take j) := by
  rw [← Nat.min_eq_left h, ← List.take_take]
  exact (List.take_prefix _ _).filterMap _

/-- As long as the numbers last, a column that is made of a list and then asked for this and
that while documents are added answers every query by the values given to it so far. The
number of a document is how many were given before it; it has its value from then on, as
bytes, whatever is added later, and a number that is not yet in use has none. The bytes tell
the text and whether there is one, also where it is empty. Making a column of a list comes
to adding its values one by one, no matter how many. -/
theorem columns_only_grow {values : List (Option String)} {queries : List Query}
    (hn : (values ++ given queries).length ≤ UInt32.size) :
    let column (i : Nat) := (ofList values).afterAll (queries.take i)
    let soFar (i : Nat) := values ++ given (queries.take i)
    (∀ i query, queries[i]? = some query →
      ∃ finding, ((ofList values).askAll queries)[i]? = some finding ∧
        Due (soFar i) query finding) ∧
    (∀ i k value, (soFar i)[k]? = some value → ∀ j, i ≤ j → ∀ doc : DocId, doc.toNat = k →
      (column j).bytes? doc = value.map Bytes.ofText) ∧
    (∀ i doc, (soFar i).length ≤ doc.toNat → (column i).bytes? doc = none) ∧
    (∀ i doc text, (column i).bytes? doc = some (Bytes.ofText text) ↔
      (soFar i)[doc.toNat]? = some (some text)) ∧
    ∀ list, ofList list = empty.afterAll (list.map .push) := by
  intro column soFar
  have hl (i : Nat) : (soFar i).length ≤ UInt32.size := by
    have hs : (given (queries.take i)).Sublist (given queries) :=
      (List.take_sublist i queries).filterMap _
    exact Nat.le_trans ((List.Sublist.refl values).append hs).length_le hn
  have hh (i : Nat) : (column i).Holds (soFar i) := by
    refine (holds_ofList ?_).afterAll (hl i)
    exact Nat.le_trans (List.prefix_append _ _).length_le hn
  refine ⟨?_, ?_, ?_, fun i doc text => (hh i).bytes?_eq_some_iff, pushAll_eq_afterAll empty⟩
  · intro i query hi
    refine ⟨(column i).ask query, by rw [getElem?_askAll, hi]; rfl, (hh i).ask query ?_⟩
    -- The value that this query gives is the last of those given by the next position.
    rw [List.append_assoc, ← given_take_succ hi]
    exact hl (i + 1)
  · rintro i k value hv j hij doc rfl
    obtain ⟨later, hp⟩ : soFar i <+: soFar j :=
      (List.prefix_append_right_inj values).mpr (given_take_of_le queries hij)
    have hk : doc.toNat < (soFar i).length := (List.getElem?_eq_some_iff.mp hv).1
    rw [(hh j).bytes?, ← hp, List.getElem?_append_left hk, hv]
    rfl
  · intro i doc hd
    rw [(hh i).bytes?, List.getElem?_eq_none hd]
    rfl

/-- An empty text and a document without one: the number after them is asked for too early,
and again when a document has been added. -/
theorem columns_only_grow_emptyText :
    let values := [some "", none]
    let queries : List Query := [.bytes 0, .bytes 2, .push (some "gold"), .bytes 2, .docs]
    (values ++ given queries).length ≤ UInt32.size ∧
      ((ofList values).afterAll (queries.take 1)).bytes? 0 = some (Bytes.ofText "") ∧
      ((ofList values).afterAll (queries.take 2)).bytes? 2 = none ∧
      ((ofList values).afterAll (queries.take 5)).bytes? 2 = some (Bytes.ofText "gold") ∧
      ((ofList values).afterAll (queries.take 5)).bytes? 0 = some (Bytes.ofText "") := by
  intro values queries
  have hn : (values ++ given queries).length ≤ UInt32.size := by decide
  obtain ⟨-, hkept, hnone, htext, -⟩ := columns_only_grow hn
  exact ⟨hn, (htext 1 0 "").mpr rfl, hnone 2 2 (by decide), (htext 5 2 "gold").mpr rfl,
    hkept 0 0 (some "") rfl 5 (by decide) 0 rfl⟩

end EnumOrdering.FieldColumn
