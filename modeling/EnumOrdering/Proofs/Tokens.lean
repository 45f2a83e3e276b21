import EnumOrdering.Operation
import EnumOrdering.Proofs.Decimal.Integer
import Mathlib.Algebra.Group.Int.Defs
import Mathlib.Data.List.TakeWhile

/-!
# What operation tokens say

A token stands for an operation where the text between its outer white space is a numeral
of the operation's number: at most one sign, and then digits among which zeros may lead.
The three steps of the reader are told apart here, as each can fail in its own way. A token
that is no numeral, or one that 64 bits do not hold, is named in full by the failure; of
any other numeral only its value is left when it is refused.
-/

namespace EnumOrdering

/-! ## White space -/

namespace Text

variable {cs ds before : List Char}

/-- `ds` is what stands in `cs` between the white space at its two ends. -/
def Trimmed (cs ds : List Char) : Prop :=
  ∃ before after, cs = before ++ ds ++ after ∧ (∀ c ∈ before ++ after, isBlank c = true) ∧
    (∀ c ∈ ds.head?, isBlank c = false) ∧ ∀ c ∈ ds.getLast?, isBlank c = false

theorem dropWhile_isBlank (hb : ∀ c ∈ before, isBlank c = true)
    (hd : ∀ c ∈ ds.head?, isBlank c = false) : (before ++ ds).dropWhile isBlank = ds := by
  rw [List.dropWhile_append_of_pos hb]
  cases ds with
  | nil => rfl
  | cons c ds =>
      rw [List.dropWhile_cons, hd c rfl]
      rfl

theorem not_isBlank_of_head?_dropWhile (cs : List Char) :
    ∀ c ∈ (cs.dropWhile isBlank).head?, isBlank c = false := by
  intro c hc
  have hn := List.head?_dropWhile_not isBlank cs
  rw [Option.mem_def.mp hc] at hn
  simpa using hn

theorem Trimmed.trim_eq (h : Trimmed cs ds) : trim cs = ds := by
  obtain ⟨before, after, rfl, hw, hf, hl⟩ := h
  obtain ⟨hb, ha⟩ := List.forall_mem_append.mp hw
  rw [trim, List.append_assoc]
  by_cases hd : ds = []
  · -- Nothing is left, and it was all white space before.
    subst hd
    rw [List.nil_append, List.dropWhile_eq_nil_iff.mpr hw]
    rfl
  · have hf' : ∀ c ∈ (ds ++ after).head?, isBlank c = false := by
      cases ds with
      | nil => exact absurd rfl hd
      | cons c ds => exact hf
    have ha' : ∀ c ∈ after.reverse, isBlank c = true := fun c hc => ha c (List.mem_reverse.mp hc)
    have hl' : ∀ c ∈ ds.reverse.head?, isBlank c = false := by
      rw [List.head?_reverse]
      exact hl
    rw [dropWhile_isBlank hb hf', List.reverse_append, dropWhile_isBlank ha' hl',
      List.reverse_reverse]

theorem trimmed_trim (cs : List Char) : Trimmed cs (trim cs) := by
  have hs := List.takeWhile_append_dropWhile (p := isBlank) (l := cs)
  have hl := not_isBlank_of_head?_dropWhile cs
  rw [trim]
  generalize cs.dropWhile isBlank = l at hs hl
  have he := congrArg List.reverse
    (List.takeWhile_append_dropWhile (p := isBlank) (l := l.reverse))
  rw [List.reverse_append, List.reverse_reverse] at he
  refine ⟨cs.takeWhile isBlank, (l.reverse.takeWhile isBlank).reverse, ?_, ?_, ?_, ?_⟩
  · rw [List.append_assoc, he, hs]
  · intro c hc
    rcases List.mem_append.mp hc with hc | hc
    · exact List.mem_takeWhile_imp hc
    · exact List.mem_takeWhile_imp (List.mem_reverse.mp hc)
  · intro c hc
    refine hl c ?_
    rw [← he, List.head?_append, Option.mem_def.mp hc]
    rfl
  · rw [List.getLast?_reverse]
    exact not_isBlank_of_head?_dropWhile l.reverse

end Text

/-! ## Numerals -/

namespace Decimal

variable {cs : List Char}

/-- One or more digits, and the number that they make up. -/
def DigitsText (cs : List Char) (n : Nat) : Prop :=
  cs ≠ [] ∧ ∃ ds : List Nat, (∀ d ∈ ds, d < 10) ∧ cs = ds.map Nat.digitChar ∧
    ds.foldl (fun v d => v * 10 + d) 0 = n

/-- At most one sign, and digits after it. -/
inductive NumeralOf : List Char → Int → Prop
  | plain {cs : List Char} {n : Nat} (h : DigitsText cs n) : NumeralOf cs n
  | plus {cs : List Char} {n : Nat} (h : DigitsText cs n) : NumeralOf ('+' :: cs) n
  | minus {cs : List Char} {n : Nat} (h : DigitsText cs n) : NumeralOf ('-' :: cs) (-n)

theorem digit?_eq_some_iff {c : Char} {d : Nat} :
    digit? c = some d ↔ d < 10 ∧ c = Nat.digitChar d := by
  constructor
  · intro h
    rw [digit?] at h
    split at h
    · next hc =>
        have hl : 48 ≤ c.toNat := hc.1
        have hu : c.toNat ≤ 57 := hc.2
        have hd : d = c.toNat - 48 := (Option.some.inj h).symm
        have ht := Nat.toNat_digitChar_of_lt_ten (n := d) (by omega)
        exact ⟨by omega, Char.toNat_inj.mp (by omega)⟩
    · cases h
  · rintro ⟨hd, rfl⟩
    exact digit?_digitChar hd

theorem exists_of_appendDigits? {v n : Nat} (h : appendDigits? v cs = some n) :
    ∃ ds : List Nat, (∀ d ∈ ds, d < 10) ∧ cs = ds.map Nat.digitChar ∧
      ds.foldl (fun v d => v * 10 + d) v = n := by
  induction cs generalizing v with
  | nil =>
      cases h
      exact ⟨[], by simp, rfl, rfl⟩
  | cons c cs ih =>
      rw [appendDigits?] at h
      split at h
      · next d hd =>
          obtain ⟨hlt, rfl⟩ := digit?_eq_some_iff.mp hd
          obtain ⟨ds, hds, rfl, hv⟩ := ih h
          exact ⟨d :: ds, List.forall_mem_cons.mpr ⟨hlt, hds⟩, rfl, hv⟩
      · cases h

theorem parseNat?_eq_some_iff {n : Nat} : parseNat? cs = some n ↔ DigitsText cs n := by
  cases cs with
  | nil => simp [parseNat?, DigitsText]
  | cons c cs =>
      rw [parseNat?, DigitsText, and_iff_right (List.cons_ne_nil c cs)]
      constructor
      · exact exists_of_appendDigits?
      · rintro ⟨ds, hd, he, rfl⟩
        rw [he, appendDigits?_map hd]

theorem DigitsText.head_ne {c : Char} {n : Nat} (h : DigitsText (c :: cs) n) :
    c ≠ '-' ∧ c ≠ '+' := by
  obtain ⟨-, ds, hd, he, -⟩ := h
  cases ds with
  | nil => cases he
  | cons d ds =>
      have ht := Nat.toNat_digitChar_of_lt_ten (hd d List.mem_cons_self)
      rw [← (List.cons.inj he).1] at ht
      constructor
      · rintro rfl
        have ht : 45 = 48 + d := ht
        omega
      · rintro rfl
        have ht : 43 = 48 + d := ht
        omega

theorem map_natCast_eq_some_iff {o : Option Nat} {f : Int → Int} {z : Int} :
    (o : Option Int).map f = some z ↔ ∃ n : Nat, o = some n ∧ f n = z := by
  cases o <;> simp

theorem parseInt?_eq_some_iff {z : Int} : parseInt? cs = some z ↔ NumeralOf cs z := by
  constructor
  · intro h
    cases cs with
    | nil => cases h
    | cons c cs =>
        rw [parseInt?] at h
        split at h
        · next hc =>
            obtain ⟨n, hn, rfl⟩ := map_natCast_eq_some_iff.mp h
            exact hc ▸ .minus (parseNat?_eq_some_iff.mp hn)
        · split at h
          · next hc =>
              obtain ⟨n, hn, rfl⟩ := map_natCast_eq_some_iff.mp h
              exact hc ▸ .plus (parseNat?_eq_some_iff.mp hn)
          · obtain ⟨n, hn, rfl⟩ := map_natCast_eq_some_iff.mp h
            exact .plain (parseNat?_eq_some_iff.mp hn)
  · intro h
    cases h with
    | plain h =>
        cases cs with
        | nil => exact absurd rfl h.1
        | cons c cs =>
            rw [parseInt?, if_neg h.head_ne.1, if_neg h.head_ne.2, parseNat?_eq_some_iff.mpr h]
            rfl
    | plus h =>
        rw [parseInt?, if_neg (by decide), if_pos rfl, parseNat?_eq_some_iff.mpr h]
        rfl
    | minus h =>
        rw [parseInt?, if_pos rfl, parseNat?_eq_some_iff.mpr h]
        rfl

theorem parseInt64?_eq_some_iff {x : Int64} : parseInt64? cs = some x ↔ NumeralOf cs x.toInt := by
  simp [parseInt64?, Option.bind_eq_some_iff, parseInt?_eq_some_iff, int64?_eq_some_iff]

theorem parseInt64?_eq_none_iff : parseInt64? cs = none ↔
    ∀ z, NumeralOf cs z → z < -2 ^ 63 ∨ 2 ^ 63 ≤ z := by
  rw [parseInt64?, Option.bind_eq_none_iff]
  refine forall_congr' fun z => ?_
  rw [parseInt?_eq_some_iff, int64?]
  refine imp_congr_right fun _ => ?_
  have hmin : Int64.minValue.toInt = -2 ^ 63 := rfl
  have hmax : Int64.maxValue.toInt = 2 ^ 63 - 1 := rfl
  split
  · next hz =>
      constructor
      · intro h
        cases h
      · intro h
        omega
  · next hz =>
      constructor
      · intro _
        omega
      · intro _
        rfl

end Decimal

/-! ## Operations -/

namespace Operation

theorem ofCode_eq_ok_iff {code : Int64} {op : Operation} :
    ofCode code = .ok op ↔ code = op.code := by
  constructor
  · intro h
    rw [ofCode] at h
    split at h
    · cases h
      assumption
    · split at h
      · cases h
        assumption
      · split at h
        · cases h
          assumption
        · cases h
  · rintro rfl
    cases op <;> rfl

theorem ofCode_eq_error {code : Int64} (h : ∀ op : Operation, code ≠ op.code) :
    ofCode code = .error (.invalidOperation (Decimal.intText code.toInt)) := by
  have h0 : code ≠ 0 := h .evaluate
  have h1 : code ≠ 1 := h .reloadThenEvaluate
  have h2 : code ≠ 2 := h .reloadOnly
  rw [ofCode, if_neg h0, if_neg h1, if_neg h2]

/-- The token that is the text of a number stands for the operation of the number. -/
theorem parse_intText (code : Int64) :
    parse (Decimal.intText code.toInt) = ofCode code := by
  have ht : (Decimal.intText code.toInt).toList = Decimal.intDigits code.toInt :=
    String.toList_ofList
  rw [parse, ht,
    Decimal.trim_of_not_isBlank fun _ hc => Decimal.not_isBlank_of_mem_intDigits hc,
    Decimal.parseInt64?_intDigits]

/-- A token stands for an operation just in case it is, between white space, a numeral of
the operation's number. One that is no numeral, or a numeral that 64 bits do not hold, is
refused by its full text, and any other by the text of its value; the text of a number is
taken as the number is. -/
theorem tokens_are_read_exactly (token : String) :
    (∀ op : Operation, parse token = .ok op ↔
      ∃ t, Text.Trimmed token.toList t ∧ Decimal.NumeralOf t op.code.toInt) ∧
    ((∀ t z, Text.Trimmed token.toList t → Decimal.NumeralOf t z → z < -2 ^ 63 ∨ 2 ^ 63 ≤ z) →
      parse token = .error (.invalidOperation token)) ∧
    (∀ t z, Text.Trimmed token.toList t → Decimal.NumeralOf t z → -2 ^ 63 ≤ z → z < 2 ^ 63 →
      (∀ op : Operation, z ≠ op.code.toInt) →
        parse token = .error (.invalidOperation (Decimal.intText z))) ∧
    ∀ code : Int64, parse (Decimal.intText code.toInt) = ofCode code := by
  refine ⟨fun op => ?_, fun hn => ?_, fun t z ht hz hl hu hc => ?_, parse_intText⟩
  · rw [parse]
    constructor
    · intro h
      refine ⟨_, Text.trimmed_trim _, Decimal.parseInt64?_eq_some_iff.mp ?_⟩
      split at h
      · next code hp => rw [hp, ofCode_eq_ok_iff.mp h]
      · cases h
    · rintro ⟨t, ht, hz⟩
      rw [ht.trim_eq, Decimal.parseInt64?_eq_some_iff.mpr hz]
      exact ofCode_eq_ok_iff.mpr rfl
  · have hp := Decimal.parseInt64?_eq_none_iff.mpr fun z => hn _ z (Text.trimmed_trim _)
    rw [parse, hp]
  · have hx : (Int64.ofInt z).toInt = z := Int64.toInt_ofInt_of_le hl (by omega)
    have hp : Decimal.parseInt64? t = some (Int64.ofInt z) :=
      Decimal.parseInt64?_eq_some_iff.mpr (hx.symm ▸ hz)
    have hn : ∀ op : Operation, Int64.ofInt z ≠ op.code := fun op ho => hc op (ho ▸ hx.symm)
    have he := ofCode_eq_error hn
    rw [hx] at he
    rw [parse, ht.trim_eq, hp]
    exact he

/-- An ideographic space, a sign, and zeros before the number of an operation; and a number
of none. -/
theorem tokens_are_read_exactly_padded :
    parse "\u3000+002\n" = .ok .reloadOnly ∧
      parse " -00 7" = .error (.invalidOperation " -00 7") ∧
      parse " -007" = .error (.invalidOperation "-7") := by
  refine ⟨?_, ?_, ?_⟩
  · have ht : Text.Trimmed "\u3000+002\n".toList ['+', '0', '0', '2'] :=
      ⟨['\u3000'], ['\n'], rfl, List.all_eq_true.mp rfl, by rintro _ ⟨⟩; rfl, by rintro _ ⟨⟩; rfl⟩
    have hd : Decimal.DigitsText ['0', '0', '2'] 2 :=
      ⟨by decide, [0, 0, 2], by decide, by decide, by decide⟩
    have hz : Decimal.NumeralOf ['+', '0', '0', '2'] (2 : Nat) := .plus hd
    exact ((tokens_are_read_exactly _).1 .reloadOnly).mpr ⟨_, ht, hz⟩
  · refine (tokens_are_read_exactly " -00 7").2.1 fun t z ht hz => ?_
    -- The blank that is left within is no digit.
    rw [← Decimal.parseInt?_eq_some_iff, ← ht.trim_eq] at hz
    have hn : Decimal.parseInt? (Text.trim " -00 7".toList) = none := by decide
    rw [hn] at hz
    cases hz
  · have ht : Text.Trimmed " -007".toList ['-', '0', '0', '7'] :=
      ⟨[' '], [], rfl, List.all_eq_true.mp rfl, by rintro _ ⟨⟩; rfl, by rintro _ ⟨⟩; rfl⟩
    have hd : Decimal.DigitsText ['0', '0', '7'] 7 :=
      ⟨by decide, [0, 0, 7], by decide, by decide, by decide⟩
    have hz : Decimal.NumeralOf ['-', '0', '0', '7'] (-(7 : Nat)) := .minus hd
    have hc : ∀ op : Operation, (-7 : Int) ≠ op.code.toInt := by
      intro op
      cases op <;> decide
    exact (tokens_are_read_exactly _).2.2.1 _ _ ht hz (by decide) (by decide) hc

end Operation

end EnumOrdering
