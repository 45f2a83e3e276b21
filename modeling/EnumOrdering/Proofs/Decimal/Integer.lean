import EnumOrdering.Decimal.Integer
import EnumOrdering.Text.Blank

/-!
# Decimal text reads back

The text of an integer is digits without leading zeros, perhaps after a minus sign.
`IsDigits` says this of the digits as numbers, and every reader of digits takes it from
there: what is read from the text of an integer is that integer, and 64 bits hold it
whenever it came from them.
-/

namespace EnumOrdering.Decimal

/-- The digits of a natural number from the first to the last; only zero itself begins
with a zero. -/
structure IsDigits (n : Nat) (ds : List Nat) : Prop where
  text : natDigits n = ds.map Nat.digitChar
  lt : ∀ d ∈ ds, d < 10
  value : ds.foldl (fun v d => v * 10 + d) 0 = n
  first : ds = [0] ∨ ∃ d rest, ds = d :: rest ∧ d ≠ 0

theorem isDigits_of_lt {n : Nat} (h : n < 10) : IsDigits n [n] where
  text := Nat.toDigits_of_lt_base h
  lt := by simpa using h
  value := by simp
  first := by
    cases n with
    | zero => exact .inl rfl
    | succ n => exact .inr ⟨_, [], rfl, Nat.succ_ne_zero n⟩

theorem IsDigits.append {n : Nat} {ds : List Nat} (h : IsDigits (n / 10) ds) (hn : 10 ≤ n) :
    IsDigits n (ds ++ [n % 10]) where
  text := by
    rw [natDigits, Nat.toDigits_of_base_le (by decide) hn, ← natDigits, h.text, List.map_append]
    rfl
  lt := by
    have hd : n % 10 < 10 := Nat.mod_lt n (by decide)
    exact List.forall_mem_append.mpr ⟨h.lt, by simpa using hd⟩
  value := by
    rw [List.foldl_append, h.value]
    simp only [List.foldl_cons, List.foldl_nil]
    omega
  first := by
    rcases h.first with rfl | ⟨d, rest, rfl, hd⟩
    · -- A quotient with the digits of zero is zero, but `n` has two digits.
      have hv := h.value
      simp only [List.foldl_cons, List.foldl_nil] at hv
      omega
    · exact .inr ⟨d, _, List.cons_append, hd⟩

theorem exists_isDigits (n : Nat) : ∃ ds, IsDigits n ds := by
  induction n using Nat.strongRecOn with
  | _ n ih =>
      by_cases hn : n < 10
      · exact ⟨[n], isDigits_of_lt hn⟩
      · obtain ⟨ds, h⟩ := ih (n / 10) (by omega)
        exact ⟨ds ++ [n % 10], h.append (by omega)⟩

/-! ## Reading digits -/

theorem digit?_digitChar {d : Nat} (h : d < 10) : digit? (Nat.digitChar d) = some d := by
  have hv := Nat.toNat_digitChar_of_lt_ten h
  have hc : '0' ≤ Nat.digitChar d ∧ Nat.digitChar d ≤ '9' := by
    simp only [Char.le_def, UInt32.le_iff_toNat_le]
    show 48 ≤ (Nat.digitChar d).toNat ∧ (Nat.digitChar d).toNat ≤ 57
    omega
  rw [digit?, if_pos hc, hv]
  simp

theorem appendDigits?_map {ds : List Nat} (h : ∀ d ∈ ds, d < 10) (v : Nat) :
    appendDigits? v (ds.map Nat.digitChar) = some (ds.foldl (fun v d => v * 10 + d) v) := by
  induction ds generalizing v with
  | nil => rfl
  | cons d ds ih =>
      have h := List.forall_mem_cons.mp h
      rw [List.map_cons, appendDigits?, digit?_digitChar h.1]
      exact ih h.2 _

theorem parseNat?_natDigits (n : Nat) : parseNat? (natDigits n) = some n := by
  obtain ⟨ds, h⟩ := exists_isDigits n
  have hr := appendDigits?_map h.lt 0
  rw [h.value, ← h.text] at hr
  rw [parseNat?.eq_def]
  split
  · next he => exact absurd he Nat.toDigits_ne_nil
  · next c cs he => rw [← he, hr]

theorem natDigits_inj {m n : Nat} (h : natDigits m = natDigits n) : m = n := by
  have hp := parseNat?_natDigits m
  rw [h, parseNat?_natDigits] at hp
  exact (Option.some.inj hp).symm

theorem intDigits_neg {n : Nat} (h : n ≠ 0) : intDigits (-n) = '-' :: natDigits n := by
  rw [intDigits, if_pos (by omega), Int.natAbs_neg, Int.natAbs_natCast]

theorem intDigits_natCast (n : Nat) : intDigits n = natDigits n := by
  rw [intDigits, if_neg (Int.not_lt.mpr (Int.natCast_nonneg n)), Int.natAbs_natCast]

/-- The text of a natural number begins with no sign. -/
theorem natDigits_eq_cons (n : Nat) :
    ∃ c cs, natDigits n = c :: cs ∧ c ≠ '-' ∧ c ≠ '+' := by
  cases hd : natDigits n with
  | nil => exact absurd hd Nat.toDigits_ne_nil
  | cons c cs =>
      have hc : c.isDigit = true :=
        Nat.isDigit_of_mem_toDigits (n := n) (by decide) (by decide) (hd ▸ List.mem_cons_self)
      refine ⟨c, cs, rfl, ?_, ?_⟩
      · rintro rfl
        cases hc
      · rintro rfl
        cases hc

theorem eq_minus_or_isDigit {z : Int} {c : Char} (h : c ∈ intDigits z) :
    c = '-' ∨ c.isDigit = true := by
  have digit (hd : c ∈ natDigits z.natAbs) : c.isDigit = true :=
    Nat.isDigit_of_mem_toDigits (by decide) (by decide) hd
  rw [intDigits] at h
  split at h
  · exact (List.mem_cons.mp h).imp_right digit
  · exact .inr (digit h)

/-- The text of an integer is read as that integer. -/
theorem parseInt?_intDigits (z : Int) : parseInt? (intDigits z) = some z := by
  rw [intDigits]
  split
  · rw [parseInt?, if_pos rfl, parseNat?_natDigits]
    show some (-(z.natAbs : Int)) = some z
    congr 1
    omega
  · obtain ⟨c, cs, hd, hm, hp⟩ := natDigits_eq_cons z.natAbs
    rw [hd, parseInt?, if_neg hm, if_neg hp, ← hd, parseNat?_natDigits]
    show some (z.natAbs : Int) = some z
    congr 1
    omega

theorem intText_inj {m n : Int} (h : intText m = intText n) : m = n := by
  have hp := parseInt?_intDigits m
  rw [String.ofList_injective h, parseInt?_intDigits] at hp
  exact (Option.some.inj hp).symm

theorem int64?_eq_some_iff {z : Int} {x : Int64} : int64? z = some x ↔ x.toInt = z := by
  rw [int64?]
  constructor
  · intro h
    split at h
    · next hz =>
        cases h
        rw [Int64.toInt_maxValue] at hz
        exact Int64.toInt_ofInt_of_le hz.1 (by omega)
    · cases h
  · intro h
    rw [if_pos ⟨h ▸ x.minValue_le_toInt, h ▸ x.toInt_le⟩, ← h, Int64.ofInt_toInt]

theorem parseInt64?_intDigits (x : Int64) : parseInt64? (intDigits x.toInt) = some x := by
  rw [parseInt64?, parseInt?_intDigits, Option.bind_some]
  exact int64?_eq_some_iff.mpr rfl

/-! ## White space -/

theorem trim_of_not_isBlank {cs : List Char} (h : ∀ c ∈ cs, Text.isBlank c = false) :
    Text.trim cs = cs := by
  have drop (ds : List Char) (hd : ∀ c ∈ ds, Text.isBlank c = false) :
      ds.dropWhile Text.isBlank = ds := by
    cases ds with
    | nil => rfl
    | cons c ds => rw [List.dropWhile_cons, if_neg (by simp [hd c List.mem_cons_self])]
  rw [Text.trim, drop cs h, drop cs.reverse (by simpa using h), List.reverse_reverse]

theorem not_isBlank_of_mem_intDigits {z : Int} {c : Char} (h : c ∈ intDigits z) :
    Text.isBlank c = false := by
  rcases eq_minus_or_isDigit h with rfl | hc
  · rfl
  · simp only [Char.isDigit, Bool.and_eq_true, decide_eq_true_eq, ge_iff_le,
      UInt32.le_iff_toNat_le] at hc
    have hl : 48 ≤ c.toNat := hc.1
    have hu : c.toNat ≤ 57 := hc.2
    simp only [Text.isBlank]
    simp
    omega

theorem space_not_mem_natDigits (n : Nat) : ' ' ∉ natDigits n := by
  intro h
  rw [← intDigits_natCast] at h
  have hb : Text.isBlank ' ' = true := by decide
  rw [not_isBlank_of_mem_intDigits h] at hb
  cases hb

end EnumOrdering.Decimal
