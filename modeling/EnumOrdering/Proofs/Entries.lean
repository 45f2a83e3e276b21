import EnumOrdering.Proofs.Keys
import EnumOrdering.Proofs.Published
import EnumOrdering.Proofs.Text.ByteOrder

/-!
# Entries are the canonical form of a mapping

A mapping answers with the last order that a value was given, and its entries list what it
answers: every value once, by order and then by the bytes of the value. No two entries tie,
since no two have the same value, so there is one such list for a mapping and one mapping
for such a list, in whatever order its entries are put back.
-/

namespace EnumOrdering

/-! ## The order of entries -/

/-- By order, and by the bytes of the value where the orders are equal. -/
def Entry.Before (a b : Entry) : Prop :=
  a.order < b.order ∨ a.order = b.order ∧ Bytes.ofText a.value < Bytes.ofText b.value

namespace Entry

theorem le_iff {a b : Entry} :
    a.le b = true ↔ a.order < b.order ∨ a.order = b.order ∧ a.value ≤ b.value := by
  simp [le]

theorem le_trans (a b c : Entry) (hab : a.le b = true) (hbc : b.le c = true) :
    a.le c = true := by
  rw [le_iff] at *
  rcases hab with hab | ⟨hab, vab⟩
  · rcases hbc with hbc | ⟨hbc, -⟩
    · exact .inl (Int64.lt_trans hab hbc)
    · exact .inl (hbc ▸ hab)
  · rcases hbc with hbc | ⟨hbc, vbc⟩
    · exact .inl (hab ▸ hbc)
    · exact .inr ⟨hab.trans hbc, String.le_trans vab vbc⟩

theorem le_total (a b : Entry) : (a.le b || b.le a) = true := by
  rw [Bool.or_eq_true, le_iff, le_iff]
  rcases Std.lt_trichotomy a.order b.order with h | h | h
  · exact .inl (.inl h)
  · rcases String.le_total a.value b.value with hv | hv
    · exact .inl (.inr ⟨h, hv⟩)
    · exact .inr (.inr ⟨h.symm, hv⟩)
  · exact .inr (.inl h)

theorem before_of_le {a b : Entry} (h : a.le b = true) (hv : a.value ≠ b.value) : a.Before b := by
  rcases le_iff.mp h with h | ⟨h, hl⟩
  · exact .inl h
  · exact .inr ⟨h, Bytes.ofText_lt_ofText_iff.mpr (Std.lt_of_le_of_ne hl hv)⟩

theorem Before.asymm {a b : Entry} (h : a.Before b) : ¬ b.Before a := by
  intro h'
  rcases h with h | ⟨ho, h⟩
  · rcases h' with h' | ⟨ho', -⟩
    · exact Int64.lt_asymm h h'
    · exact Int64.lt_irrefl (ho' ▸ h)
  · rcases h' with h' | ⟨-, h'⟩
    · exact Int64.lt_irrefl (ho ▸ h')
    · exact List.lt_asymm h h'

theorem Before.ne {a b : Entry} (h : a.Before b) : a ≠ b := by
  rintro rfl
  exact h.asymm h

/-- An entry as a pair. -/
def pair (e : Entry) : String × Int64 := (e.value, e.order)

end Entry

namespace Mapping

theorem values_ofPairs (pairs : List (String × Int64)) :
    (ofPairs pairs).values = (pairs.map Prod.fst).toFinset := by
  ext key
  rw [mem_values, get?_ofPairs, ← Option.isSome_iff_exists, isSome_lookup_iff, List.map_reverse,
    List.mem_reverse, List.mem_toFinset]

/-! ## What is listed -/

variable {m m' : Mapping}

theorem mem_entries {value : String} {order : Int64} :
    ⟨value, order⟩ ∈ m.entries ↔ m.get? value = some order := by
  rw [← lookup_reverse_pairs, lookup_reverse m.nodup_keys_pairs,
    lookup_eq_some_iff_mem m.nodup_keys_pairs, pairs, List.mem_map]
  constructor
  · intro he
    exact ⟨_, he, rfl⟩
  · rintro ⟨e, he, hp⟩
    cases hp
    exact he

theorem nodup_values_entries (m : Mapping) : (m.entries.map Entry.value).Nodup := by
  have h := m.nodup_keys_pairs
  rwa [pairs, List.map_map] at h

theorem length_entries (m : Mapping) : m.entries.length = m.size := by
  rw [entries, List.length_mergeSort, List.length_map, Std.ExtTreeMap.length_toList, size]

theorem pairwise_entries (m : Mapping) : m.entries.Pairwise Entry.Before := by
  have hs : m.entries.Pairwise fun a b => a.le b = true :=
    List.pairwise_mergeSort Entry.le_trans Entry.le_total _
  have hn : m.entries.Pairwise fun a b => a.value ≠ b.value :=
    List.pairwise_map.mp m.nodup_values_entries
  exact hs.imp₂ (fun _ _ => Entry.before_of_le) hn

/-! ## One list for a mapping -/

theorem ext_entries (h : m.entries = m'.entries) : m = m' := by
  refine ext fun value => Option.ext fun order => ?_
  rw [← mem_entries, ← mem_entries, h]

theorem ofPairs_of_perm {es : List Entry} (h : es.Perm m.entries) :
    ofPairs (es.map Entry.pair) = m := by
  have hn : ((es.map Entry.pair).map Prod.fst).Nodup := by
    rw [List.map_map]
    exact (h.map Entry.value).nodup_iff.mpr m.nodup_values_entries
  refine ext fun value => Option.ext fun order => ?_
  rw [get?_ofPairs, lookup_reverse hn, lookup_eq_some_iff_mem hn, ← mem_entries, ← h.mem_iff,
    List.mem_map]
  constructor
  · rintro ⟨e, he, hp⟩
    cases hp
    exact he
  · intro he
    exact ⟨_, he, rfl⟩

/-- Entries that are listed in their order are all that is needed to tell the list. -/
theorem eq_entries {es : List Entry} (hs : es.Pairwise Entry.Before)
    (hm : ∀ value order, ⟨value, order⟩ ∈ es ↔ m.get? value = some order) : es = m.entries := by
  have hn : es.Nodup := hs.imp Entry.Before.ne
  have hn' : m.entries.Nodup := m.pairwise_entries.imp Entry.Before.ne
  have hp : es.Perm m.entries := (List.perm_ext_iff_of_nodup hn hn').mpr
    fun e => (hm e.value e.order).trans mem_entries.symm
  exact hp.eq_of_pairwise (fun _ _ _ _ h h' => absurd h' h.asymm) hs m.pairwise_entries

/-- Pairs make up a map in which the last with a key counts and every key counts once. The
entries of a mapping, however it came about, are what it answers, each value once and all
of them in the strict order; they are the only such list, they give the mapping back from
any order, and so two mappings are equal where their entries are, or else their answers. -/
theorem mappings_are_told_by_their_entries :
    (∀ pairs : List (String × Int64),
      (∀ key order, (ofPairs pairs).get? key = some order ↔
        ∃ earlier later, pairs = earlier ++ (key, order) :: later ∧
          key ∉ later.map Prod.fst) ∧
      (∀ key, (ofPairs pairs).get? key = none ↔ key ∉ pairs.map Prod.fst) ∧
      (ofPairs pairs).size = (pairs.map Prod.fst).toFinset.card) ∧
    (∀ m : Mapping,
      (∀ value order, ⟨value, order⟩ ∈ m.entries ↔ m.get? value = some order) ∧
      (m.entries.map Entry.value).Nodup ∧ m.entries.length = m.size ∧
      m.entries.Pairwise Entry.Before ∧
      (∀ es : List Entry, es.Pairwise Entry.Before →
        (∀ value order, ⟨value, order⟩ ∈ es ↔ m.get? value = some order) → es = m.entries) ∧
      ∀ es : List Entry, es.Perm m.entries → ofPairs (es.map Entry.pair) = m) ∧
    ∀ m m' : Mapping, (m = m' ↔ m.entries = m'.entries) ∧
      (m = m' ↔ ∀ value, m.get? value = m'.get? value) := by
  refine ⟨fun pairs => ⟨fun key order => ?_, fun key => ?_, ?_⟩, fun m => ?_, fun m m' => ?_⟩
  · rw [get?_ofPairs, lookup_reverse_eq_some_iff]
  · rw [← not_iff_not, ← ne_eq, Option.ne_none_iff_isSome, get?_ofPairs, isSome_lookup_iff,
      List.map_reverse, List.mem_reverse, not_not]
  · rw [← card_values, values_ofPairs]
  · exact ⟨fun _ _ => mem_entries, m.nodup_values_entries, m.length_entries, m.pairwise_entries,
      fun _ => eq_entries, fun _ => ofPairs_of_perm⟩
  · exact ⟨⟨congrArg entries, ext_entries⟩, ⟨fun h value => h ▸ rfl, ext⟩⟩

/-- Two values of one order, one of them given twice, put back from the end. -/
theorem mappings_are_told_by_their_entries_reversed :
    let m := ofPairs [("b", 1), ("a", -4), ("b", -4)]
    m.entries.reverse.Perm m.entries ∧ ofPairs (m.entries.reverse.map Entry.pair) = m ∧
      m.size = 2 ∧ m.entries = [⟨"a", -4⟩, ⟨"b", -4⟩] := by
  intro m
  have hp : m.entries.reverse.Perm m.entries := List.reverse_perm _
  obtain ⟨hpairs, hm, -⟩ := mappings_are_told_by_their_entries
  obtain ⟨-, -, hsize⟩ := hpairs [("b", 1), ("a", -4), ("b", -4)]
  obtain ⟨-, -, -, -, hsole, hback⟩ := hm m
  refine ⟨hp, hback _ hp, ?_, ?_⟩
  · rw [hsize]
    decide
  · refine (hsole _ ?_ fun value order => ?_).symm
    · have hlt : Bytes.ofText "a" < Bytes.ofText "b" := Bytes.ofText_lt_ofText_iff.mpr (by decide)
      exact List.pairwise_pair.mpr (.inr ⟨rfl, hlt⟩)
    · rw [get?_ofPairs]
      show _ ↔ List.lookup value [("b", -4), ("a", -4), ("b", 1)] = some order
      grind

end Mapping

end EnumOrdering
