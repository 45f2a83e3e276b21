import EnumOrdering.Proofs.Json.Detached
import EnumOrdering.Proofs.Json.Written
import Mathlib.Data.List.Induction

/-!
# Integers are written in one way

Of the numbers that are read some are integers, and each of those has a single numeral:
its decimal text, with no zero to lead it and no sign but the minus of a negative number.
Every other number is a double, and the text of a double has a point or an exponent in it,
so it is never the text of an integer.
-/

namespace EnumOrdering.Json

open Decimal (IsDigits natDigits intDigits intText)

variable {i k : Bytes}

/-! ## Digits -/

theorem decimal_append (ds : List Nat) (e : Nat) : decimal (ds ++ [e]) = decimal ds * 10 + e := by
  rw [decimal, List.foldl_append]
  rfl

/-- Digits that no zero leads are the digits of the number that they make up. -/
theorem isDigits_decimal {ds : List Nat} (hd : ∀ d ∈ ds, d < 10)
    (hf : ds = [0] ∨ ∃ d rest, ds = d :: rest ∧ d ≠ 0) : IsDigits (decimal ds) ds := by
  induction ds using List.reverseRecOn with
  | nil => simp at hf
  | append_singleton ds e ih =>
      obtain ⟨hd, he⟩ := List.forall_mem_append.mp hd
      have he : e < 10 := he e List.mem_cons_self
      rw [decimal_append]
      cases ds with
      | nil =>
          show IsDigits (0 * 10 + e) [e]
          rw [Nat.zero_mul, Nat.zero_add]
          exact Decimal.isDigits_of_lt he
      | cons d ds =>
          have hz : d ≠ 0 := by
            rcases hf with hf | ⟨d', rest, hf, hz⟩
            · simp at hf
            · cases hf
              exact hz
          have hl : 0 * 10 + d ≤ decimal (d :: ds) := le_foldl_digits (0 * 10 + d) ds
          have hq : (decimal (d :: ds) * 10 + e) / 10 = decimal (d :: ds) := by omega
          have hr : (decimal (d :: ds) * 10 + e) % 10 = e := by omega
          have h := IsDigits.append (hq.symm ▸ ih hd (.inr ⟨d, ds, rfl, hz⟩)) (by omega)
          rwa [hr] at h

theorem digitValue_lt {b : UInt8} (h : isDigit b = true) : digitValue b < 10 := by
  simp only [isDigit, Bool.and_eq_true, decide_eq_true_eq, UInt8.le_iff_toNat_le] at h
  have hu : b.toNat ≤ 57 := h.2
  rw [digitValue]
  show b.toNat - 48 < 10
  omega

theorem digitValue_inj {b c : UInt8} (hb : isDigit b = true) (hc : isDigit c = true)
    (h : digitValue b = digitValue c) : b = c := by
  simp only [isDigit, Bool.and_eq_true, decide_eq_true_eq, UInt8.le_iff_toNat_le] at hb hc
  have hlb : 48 ≤ b.toNat := hb.1
  have hlc : 48 ≤ c.toNat := hc.1
  have h : b.toNat - 48 = c.toNat - 48 := h
  exact UInt8.toNat_inj.mp (by omega)

theorem utf8EncodeChar_digitValue {b : UInt8} (h : isDigit b = true) :
    String.utf8EncodeChar (Nat.digitChar (digitValue b)) = [b] := by
  obtain ⟨c, he, -, hc⟩ := utf8EncodeChar_digitChar (digitValue b) (by
    have := digitValue_lt h
    omega)
  obtain ⟨hc, hv⟩ := hc (digitValue_lt h)
  rw [he, digitValue_inj hc h hv]

theorem of_digitRun {ds : List Nat} (h : DigitRun i ds k) :
    (∀ d ∈ ds, d < 10) ∧ i = Utf8.encode (ds.map Nat.digitChar) ++ k := by
  induction h with
  | nil => exact ⟨nofun, rfl⟩
  | cons hb h ih =>
      obtain ⟨hd, rfl⟩ := ih
      refine ⟨List.forall_mem_cons.mpr ⟨digitValue_lt hb, hd⟩, ?_⟩
      rw [List.map_cons, Utf8.encode_cons, utf8EncodeChar_digitValue hb]
      rfl

theorem wholeText_iff {ds : List Nat} : WholeText i ds k ↔
    IsDigits (decimal ds) ds ∧ i = Utf8.encode (natDigits (decimal ds)) ++ k := by
  constructor
  · intro h
    obtain ⟨hr, hf⟩ : DigitRun i ds k ∧ (ds = [0] ∨ ∃ d rest, ds = d :: rest ∧ d ≠ 0) := by
      cases h with
      | zero => exact ⟨.cons rfl .nil, .inl rfl⟩
      | digits hb hz h =>
          refine ⟨.cons hb h, .inr ⟨_, _, rfl, fun hv => hz ?_⟩⟩
          exact digitValue_inj hb rfl hv
    obtain ⟨hd, rfl⟩ := of_digitRun hr
    have hi := isDigits_decimal hd hf
    exact ⟨hi, by rw [hi.text]⟩
  · rintro ⟨h, rfl⟩
    exact spells_isDigits h k

/-! ## Integers -/

/-- An integer is read where its decimal text stands, and nowhere else. -/
theorem numberText_integer_iff {z : Int} : NumberText i (.integer z) k ↔
    (-2 ^ 63 ≤ z ∧ z < 2 ^ 64) ∧ i = Utf8.encode (intDigits z) ++ k := by
  have hsize : UInt64.size = 2 ^ 64 := rfl
  constructor
  · intro ⟨n, hn, hv⟩
    obtain ⟨⟨hf, he, hlt⟩, hz⟩ := Numeral.value_eq_integer_iff.mp hv
    rcases hn.wholeText hf he with ⟨hs, hw⟩ | ⟨hs, j, rfl, hw⟩
    · rcases hz with ⟨-, rfl⟩ | ⟨hs', -⟩
      · refine ⟨by omega, ?_⟩
        rw [Decimal.intDigits_natCast]
        exact (wholeText_iff.mp hw).2
      · exact absurd (hs.symm.trans hs') Bool.false_ne_true
    · rcases hz with ⟨hs', -⟩ | ⟨-, rfl, hd, hle⟩
      · exact absurd (hs'.symm.trans hs) Bool.false_ne_true
      · refine ⟨by omega, ?_⟩
        rw [Decimal.intDigits_neg hd, (wholeText_iff.mp hw).2]
        rfl
  · rintro ⟨hz, rfl⟩
    exact spells_integer hz k

/-! ## Doubles -/

theorem point_mem_withPoint (ds : List Char) (whole : Int) : '.' ∈ Decimal.withPoint ds whole := by
  rw [Decimal.withPoint]
  split
  · simp
  · dsimp only
    split <;> simp

theorem e_mem_withExponent (ds : List Char) (e : Int) : 'e' ∈ Decimal.withExponent ds e := by
  simp [Decimal.withExponent]

theorem mem_write (layout : Decimal.Layout) (d : Decimal.Digits) :
    '.' ∈ d.write layout ∨ 'e' ∈ d.write layout := by
  rw [Decimal.Digits.write]
  split
  · exact .inl (point_mem_withPoint _ _)
  · exact .inr (e_mem_withExponent _ _)

theorem mem_text_real (x : Decimal.Binary64) :
    '.' ∈ (Number.real x).text.toList ∨ 'e' ∈ (Number.real x).text.toList := by
  rw [Number.text, Decimal.Binary64.text, String.toList_ofList]
  cases x.magnitude.isZero with
  | true => simp
  | false =>
      rw [if_neg Bool.false_ne_true]
      exact (mem_write _ _).imp (List.mem_append_right _) (List.mem_append_right _)

/-- Only an integer has the text of one, and the text is its own. -/
theorem text_eq_intText_iff {x : Number} {z : Int} : x.text = intText z ↔ x = .integer z := by
  constructor
  · intro h
    cases x with
    | integer m => rw [Decimal.intText_inj h]
    | real x =>
        have hc {c : Char} (hc : c ∈ (Number.real x).text.toList) : c = '-' ∨ c.isDigit = true := by
          rw [h, intText, String.toList_ofList] at hc
          exact Decimal.eq_minus_or_isDigit hc
        rcases mem_text_real x with hm | hm
        · simpa using hc hm
        · simpa using hc hm
  · rintro rfl
    rfl

end EnumOrdering.Json
