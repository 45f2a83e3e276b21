import EnumOrdering.Mapping
import Mathlib.Data.List.Forall2

/-!
# The last pair counts

A mapping is known by its look-ups, and the mapping of a list of pairs answers with the
last pair that has the value: inserting pairs from the left is looking them up from the
right. The same holds of a set of named mappings.

The other way round, a map gives back the pairs that it lists, for it lists every key
once.
-/

namespace EnumOrdering

/-! ## Pairs put into a map -/

section

variable {α : Type}

/-- A look-up after pairs were put into a map. -/
theorem getElem?_foldl_insert (pairs : List (String × α)) (t : Std.ExtTreeMap String α)
    (key : String) :
    (pairs.foldl (fun t p => t.insert p.1 p.2) t)[key]? =
      (pairs.reverse.lookup key).or t[key]? := by
  induction pairs generalizing t with
  | nil => rfl
  | cons p pairs ih =>
      rw [List.foldl_cons, ih, Std.ExtTreeMap.getElem?_insert, List.reverse_cons,
        List.lookup_append, Option.or_assoc]
      simp only [Std.compare_eq_iff_eq]
      by_cases hk : p.1 = key
      · rw [if_pos hk, ← hk, List.lookup_cons_self, Option.some_or]
      · have hb : (key == p.1) = false := beq_eq_false_iff_ne.mpr (Ne.symm hk)
        rw [if_neg hk, List.lookup_cons, hb]
        rfl

theorem isSome_lookup_iff {pairs : List (String × α)} {key : String} :
    (pairs.lookup key).isSome ↔ key ∈ pairs.map Prod.fst := by
  rw [List.lookup_isSome_iff, List.mem_map]
  constructor
  · rintro ⟨p, hp, hk⟩
    exact ⟨p, hp, (eq_of_beq hk).symm⟩
  · rintro ⟨p, hp, rfl⟩
    exact ⟨p, hp, beq_self_eq_true _⟩

/-- In a list that has no key twice, a pair that is there is the one that is found. -/
theorem lookup_eq_some_iff_mem {pairs : List (String × α)} (h : (pairs.map Prod.fst).Nodup)
    {key : String} {a : α} : pairs.lookup key = some a ↔ (key, a) ∈ pairs := by
  induction pairs with
  | nil => simp
  | cons p pairs ih =>
      obtain ⟨key', a'⟩ := p
      obtain ⟨hn, h⟩ := List.nodup_cons.mp h
      rw [List.lookup_cons]
      by_cases hk : key = key'
      · subst hk
        have hm : (key, a) ∉ pairs := fun hm => hn (List.mem_map.mpr ⟨_, hm, rfl⟩)
        simp [hm, eq_comm]
      · have hb : (key == key') = false := beq_eq_false_iff_ne.mpr hk
        simp [hk, hb, ih h]

/-- Where keys are distinct, pairs are found from either end alike. -/
theorem lookup_reverse {pairs : List (String × α)} (h : (pairs.map Prod.fst).Nodup)
    (key : String) : pairs.reverse.lookup key = pairs.lookup key := by
  have hr : (pairs.reverse.map Prod.fst).Nodup := by
    rw [List.map_reverse]
    exact List.pairwise_reverse.mpr (h.imp Ne.symm)
  refine Option.ext fun a => ?_
  rw [lookup_eq_some_iff_mem hr, lookup_eq_some_iff_mem h, List.mem_reverse]

/-- What is found from the end is the last pair with the key. -/
theorem lookup_reverse_eq_some_iff {pairs : List (String × α)} {key : String} {a : α} :
    pairs.reverse.lookup key = some a ↔
      ∃ earlier later, pairs = earlier ++ (key, a) :: later ∧ key ∉ later.map Prod.fst := by
  rw [List.lookup_eq_some_iff]
  constructor
  · rintro ⟨l₁, l₂, hr, hn⟩
    refine ⟨l₂.reverse, l₁.reverse, ?_, ?_⟩
    · rw [← List.reverse_reverse pairs, hr, List.reverse_append, List.reverse_cons,
        List.append_assoc, List.singleton_append]
    · intro hk
      obtain ⟨p, hp, rfl⟩ := List.mem_map.mp hk
      exact absurd (hn p (List.mem_reverse.mp hp)) (by simp)
  · rintro ⟨earlier, later, rfl, hn⟩
    refine ⟨later.reverse, earlier.reverse, ?_, fun p hp => ?_⟩
    · rw [List.reverse_append, List.reverse_cons, List.append_assoc, List.singleton_append]
    · have hk : key ≠ p.1 := by
        rintro rfl
        exact hn (List.mem_map.mpr ⟨p, List.mem_reverse.mp hp, rfl⟩)
      simpa using hk

/-- Where pairs come from items one by one, what is found is the pair of the first item that
has the key. -/
theorem lookup_eq_some_iff_find? {β : Type} {R : β → String × α → Prop} {has : String → β → Bool}
    (hr : ∀ b p, R b p → ∀ key, has key b = true ↔ p.1 = key)
    (hu : ∀ b p q, R b p → R b q → p = q) {bs : List β} {pairs : List (String × α)}
    (h : List.Forall₂ R bs pairs) {key : String} {a : α} :
    pairs.lookup key = some a ↔ ∃ b, bs.find? (has key) = some b ∧ R b (key, a) := by
  induction h with
  | nil => simp
  | @cons b p bs pairs hb h ih =>
      by_cases hk : p.1 = key
      · rw [List.find?_cons_of_pos ((hr b p hb key).mpr hk), ← hk, List.lookup_cons_self]
        constructor
        · rintro ⟨⟩
          exact ⟨b, rfl, hb⟩
        · rintro ⟨_, ⟨⟩, hb'⟩
          rw [hu b p _ hb hb']
      · have hne : (key == p.1) = false := beq_eq_false_iff_ne.mpr (Ne.symm hk)
        rw [List.find?_cons_of_neg fun hp => hk ((hr b p hb key).mp hp), List.lookup_cons, hne, ih]

/-- A map lists every key once. -/
theorem nodup_keys_toList (t : Std.ExtTreeMap String α) : (t.toList.map Prod.fst).Nodup := by
  rw [Std.ExtTreeMap.map_fst_toList_eq_keys]
  refine t.distinct_keys.imp fun h he => h ?_
  exact Std.compare_eq_iff_eq.mpr he

/-- What a map lists is what it answers. -/
theorem lookup_toList (t : Std.ExtTreeMap String α) (key : String) :
    t.toList.lookup key = t[key]? := by
  refine Option.ext fun a => ?_
  rw [lookup_eq_some_iff_mem (nodup_keys_toList t),
    Std.ExtTreeMap.mem_toList_iff_getElem?_eq_some]

end

/-! ## Mappings -/

namespace Mapping

theorem ext {m m' : Mapping} (h : ∀ value, m.get? value = m'.get? value) : m = m' := by
  cases m with
  | mk orders =>
      cases m' with
      | mk orders' =>
          have ho : orders = orders' := Std.ExtTreeMap.ext_getElem? fun {value} => h value
          rw [ho]

theorem orders_ofPairs (pairs : List (String × Int64)) :
    (ofPairs pairs).orders = pairs.foldl (fun t p => t.insert p.1 p.2) ∅ :=
  (List.foldl_hom Mapping.orders fun _ _ => rfl).symm

/-- A mapping of pairs answers with the last pair that has the value. -/
theorem get?_ofPairs (pairs : List (String × Int64)) (key : String) :
    (ofPairs pairs).get? key = pairs.reverse.lookup key := by
  rw [get?, orders_ofPairs, getElem?_foldl_insert, Std.ExtTreeMap.getElem?_empty, Option.or_none]

end Mapping

/-! ## Sets of named mappings -/

namespace EnumerationSet

theorem ext {s s' : EnumerationSet} (h : ∀ name, s.get? name = s'.get? name) : s = s' := by
  cases s with
  | mk mappings =>
      cases s' with
      | mk mappings' =>
          have hm : mappings = mappings' := Std.ExtTreeMap.ext_getElem? fun {name} => h name
          rw [hm]

theorem mappings_ofList (named : List (String × Mapping)) :
    (ofList named).mappings = named.foldl (fun t p => t.insert p.1 p.2) ∅ :=
  (List.foldl_hom EnumerationSet.mappings fun _ _ => rfl).symm

/-- A set of named mappings answers with the last one that has the name. -/
theorem get?_ofList (named : List (String × Mapping)) (name : String) :
    (ofList named).get? name = named.reverse.lookup name := by
  rw [get?, mappings_ofList, getElem?_foldl_insert, Std.ExtTreeMap.getElem?_empty, Option.or_none]

end EnumerationSet

end EnumOrdering
