import EnumOrdering.Evaluator
import EnumOrdering.Proofs.Decimal.Integer
import Mathlib.Data.List.Basic

/-!
# A description is as good as a key

The description of a key holds the name of the enumeration as it is, and a name may
itself read like the end of a description. So nothing can be told from the first bracket
of the text, and the argument goes from the end: the generation has only digits in it,
which makes the last space of a description the one before the generation, whatever the
name is. What stands before that space gives the name back, since the two wordings part
at their twelfth character.

With that a description can take the place of the key that it describes, and what is true
of one evaluator and another by their descriptions is true by their keys.
-/

namespace EnumOrdering

/-- Two lists are taken apart alike at the last place of an item. -/
theorem append_cons_inj {α : Type} {x y ds es : List α} {a : α} (hd : a ∉ ds) (he : a ∉ es)
    (h : x ++ a :: ds = y ++ a :: es) : x = y ∧ ds = es := by
  -- One beginning goes on where the other ends, and with more than nothing it would bring
  -- the item a second time.
  have longer {x y ds es z : List α} (hd : a ∉ ds) (hy : y = x ++ z)
      (hz : a :: ds = z ++ a :: es) : x = y ∧ ds = es := by
    cases z with
    | nil =>
        rw [List.append_nil] at hy
        exact ⟨hy.symm, List.tail_eq_of_cons_eq hz⟩
    | cons b z =>
        have ht : ds = z ++ a :: es := List.tail_eq_of_cons_eq hz
        rw [ht] at hd
        exact absurd (List.mem_append_right z List.mem_cons_self) hd
  rcases List.append_eq_append_iff.mp h with ⟨z, hy, hz⟩ | ⟨z, hx, hz⟩
  · exact longer hd hy hz
  · obtain ⟨hyx, hed⟩ := longer he hx hz
    exact ⟨hyx.symm, hed.symm⟩

namespace CacheKey

/-- What a description says before it comes to the generation. -/
def subject : Option String → String
  | some name => "Enumerations evaluated on " ++ name
  | none => "Enumeration reload"

theorem subject_some (name : String) :
    subject (some name) = "Enumerations evaluated on " ++ name := rfl

theorem subject_none : subject none = "Enumeration reload" := rfl

theorem subject_some_ne_none (name : String) : subject (some name) ≠ subject none := by
  intro h
  have hs : "Enumerations evaluated on ".toList[11]? = some 's' := by decide
  have hn : "Enumeration reload".toList[11]? = some ' ' := by decide
  have hc : (subject (some name)).toList[11]? = (subject none).toList[11]? := by rw [h]
  rw [subject_some, subject_none, String.toList_append, List.getElem?_append_left (by decide),
    hs, hn] at hc
  cases hc

theorem subject_inj {enumeration enumeration' : Option String}
    (h : subject enumeration = subject enumeration') : enumeration = enumeration' := by
  cases enumeration with
  | none =>
      cases enumeration' with
      | none => rfl
      | some name' => exact absurd h.symm (subject_some_ne_none name')
  | some name =>
      cases enumeration' with
      | none => exact absurd h (subject_some_ne_none name)
      | some name' =>
          have hl := congrArg String.toList h
          rw [subject_some, subject_some, String.toList_append, String.toList_append] at hl
          rw [String.toList_inj.mp (List.append_cancel_left hl)]

theorem toList_describe (key : CacheKey) :
    key.describe.toList = (subject key.enumeration ++ " (generation").toList ++
      ' ' :: (Decimal.natDigits key.generation.toNat ++ [')']) := by
  have hd : key.describe = subject key.enumeration ++ " (generation " ++
      Decimal.natText key.generation.toNat ++ ")" := by
    rw [describe]
    cases key.enumeration <;> rfl
  have hg : " (generation ".toList = " (generation".toList ++ [' '] := by decide
  have hc : ")".toList = [')'] := by decide
  simp only [hd, String.toList_append, hg, hc, Decimal.natText, String.toList_ofList,
    List.append_assoc, List.cons_append, List.nil_append]

theorem describe_inj {key key' : CacheKey} : key.describe = key'.describe ↔ key = key' := by
  constructor
  · intro h
    have last (n : Nat) : ' ' ∉ Decimal.natDigits n ++ [')'] := by
      simp [Decimal.space_not_mem_natDigits]
    have hl := congrArg String.toList h
    rw [toList_describe, toList_describe] at hl
    obtain ⟨hs, hg⟩ := append_cons_inj (last _) (last _) hl
    rw [String.toList_append, String.toList_append] at hs
    have hs := subject_inj (String.toList_inj.mp (List.append_cancel_right hs))
    have hg := UInt64.toNat_inj.mp (Decimal.natDigits_inj (List.append_cancel_right hg))
    cases key
    cases key'
    simp only at hs hg
    rw [hs, hg]
  · intro h
    rw [h]

end CacheKey

theorem Evaluator.beq_iff {e e' : Evaluator} : (e == e') = true ↔ e.key = e'.key :=
  beq_iff_eq (a := e.key) (b := e'.key)

/-- Keys that are described alike are one key, so evaluators are told apart by their
descriptions exactly as they are by their keys and by their own equality. The key of a
reload is never described as that of an enumeration. -/
theorem descriptions_tell_keys_apart :
    (∀ key key' : CacheKey, key.describe = key'.describe ↔ key = key') ∧
    (∀ e e' : Evaluator, (e.describe = e'.describe ↔ (e == e') = true) ∧
      ((e == e') = true ↔ e.key = e'.key)) ∧
    ∀ name generation generation',
      (CacheKey.field name generation).describe ≠ (CacheKey.reload generation').describe := by
  refine ⟨fun _ _ => CacheKey.describe_inj, ?_, ?_⟩
  · intro e e'
    rw [Evaluator.beq_iff]
    exact ⟨CacheKey.describe_inj, Iff.rfl⟩
  · intro name generation generation' h
    cases CacheKey.describe_inj.mp h

end EnumOrdering
