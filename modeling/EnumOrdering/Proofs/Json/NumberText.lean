import EnumOrdering.Json.Skip
import EnumOrdering.Proofs.Decimal.Integer
import EnumOrdering.Proofs.Json.Reads
import Mathlib.Algebra.Group.Nat.Defs

/-!
# The grammar of numbers

A number is a whole part without leading zeros, then perhaps a point with digits, then
perhaps an exponent. The readers take digits as long as there are any, so each part is
read completely when what follows it does not go on with what the part could still
take; `Stops` says so, part by part from the last to the first.

The second half is about values. A numeral stands for an integer exactly when it has
neither point nor exponent and 64 bits hold it, and negative zero is none.
-/

namespace EnumOrdering.Json

/-! ## The grammar -/

/-- Any number of digits. -/
inductive DigitRun : Grammar (List Nat)
  | nil {k : Bytes} : DigitRun k [] k
  | cons {b : UInt8} {i k : Bytes} {ds : List Nat} (hb : isDigit b = true)
      (h : DigitRun i ds k) : DigitRun (b :: i) (digitValue b :: ds) k

/-- The digits before the point. -/
inductive WholeText : Grammar (List Nat)
  | zero {k : Bytes} : WholeText (Sign.zero :: k) [0] k
  | digits {b : UInt8} {i k : Bytes} {ds : List Nat} (hb : isDigit b = true) (hz : b ≠ Sign.zero)
      (h : DigitRun i ds k) : WholeText (b :: i) (digitValue b :: ds) k

/-- A point and the digits after it, or nothing. -/
inductive FractionText : Grammar (Option (List Nat))
  | missing {k : Bytes} : FractionText k none k
  | present {i k : Bytes} {ds : List Nat} (h : DigitRun i ds k) (hd : ds ≠ []) :
      FractionText (Sign.point :: i) (some ds) k

/-- The sign of an exponent; `true` is the minus. -/
inductive SignText : Grammar Bool
  | missing {k : Bytes} : SignText k false k
  | plus {k : Bytes} : SignText (Sign.plus :: k) false k
  | minus {k : Bytes} : SignText (Sign.minus :: k) true k

/-- An exponent, or nothing. -/
inductive ExponentText : Grammar (Option (Bool × List Nat))
  | missing {k : Bytes} : ExponentText k none k
  | present {e : UInt8} {below : Bool} {i j k : Bytes} {ds : List Nat}
      (he : e = 0x65 ∨ e = 0x45) (hs : SignText i below j) (h : DigitRun j ds k)
      (hd : ds ≠ []) : ExponentText (e :: i) (some (below, ds)) k

/-- A number without its sign. -/
inductive UnsignedText (negative : Bool) : Grammar Numeral
  | mk {i j l k : Bytes} {whole : List Nat} {fraction : Option (List Nat)}
      {exponent : Option (Bool × List Nat)} (hw : WholeText i whole j)
      (hf : FractionText j fraction l) (he : ExponentText l exponent k) :
      UnsignedText negative i ⟨negative, whole, fraction, exponent⟩ k

/-- A number. -/
inductive NumeralText : Grammar Numeral
  | plain {i k : Bytes} {n : Numeral} (h : UnsignedText false i n k) : NumeralText i n k
  | minus {i k : Bytes} {n : Numeral} (h : UnsignedText true i n k) :
      NumeralText (Sign.minus :: i) n k

/-! ## Runs of digits -/

variable {i j k l : Bytes} {ds : List Nat} {n : Numeral}

theorem digitRun_leadingDigits (i : Bytes) : DigitRun i (leadingDigits i) (afterDigits i) := by
  induction i with
  | nil => exact .nil
  | cons b i ih =>
      cases hb : isDigit b with
      | true =>
          have hl : leadingDigits (b :: i) = digitValue b :: leadingDigits i := by
            simp [leadingDigits, hb]
          have ha : afterDigits (b :: i) = afterDigits i := by simp [afterDigits, hb]
          rw [hl, ha]
          exact .cons hb ih
      | false =>
          have hl : leadingDigits (b :: i) = [] := by simp [leadingDigits, hb]
          have ha : afterDigits (b :: i) = b :: i := by simp [afterDigits, hb]
          rw [hl, ha]
          exact .nil

/-- A run that digits do not continue is all the digits there are. -/
theorem DigitRun.eq (h : DigitRun i ds k) (hk : Stops isDigit k) :
    leadingDigits i = ds ∧ afterDigits i = k := by
  induction h with
  | nil =>
      rename_i k
      cases k with
      | nil => exact ⟨rfl, rfl⟩
      | cons b k =>
          have hb : isDigit b = false := hk
          simp [leadingDigits, afterDigits, hb]
  | cons hb _ ih =>
      obtain ⟨rfl, rfl⟩ := ih hk
      simp [leadingDigits, afterDigits, hb]

/-! ## Reading the parts -/

theorem wholeText_of_readWhole (h : Gives (readWhole i) ds k) : WholeText i ds k := by
  cases i with
  | nil => exact (not_gives_error h).elim
  | cons b i =>
      rw [readWhole] at h
      split at h
      · next hz =>
          split at h
          · exact (not_gives_error h).elim
          · obtain ⟨rfl, rfl⟩ := gives_ok.mp h
            exact hz ▸ .zero
      · next hz =>
          split at h
          · next hb =>
              obtain ⟨rfl, rfl⟩ := gives_ok.mp h
              exact .digits hb hz (digitRun_leadingDigits i)
          · exact (not_gives_error h).elim

theorem readWhole_of_wholeText (h : WholeText i ds k) (hk : Stops isDigit k) :
    Gives (readWhole i) ds k := by
  cases h with
  | zero =>
      rw [readWhole, if_pos rfl, if_neg, gives_ok]
      · exact ⟨rfl, rfl⟩
      · cases k with
        | nil => exact Bool.false_ne_true
        | cons b k => exact Bool.not_eq_true _ ▸ hk
  | digits hb hz h =>
      obtain ⟨rfl, rfl⟩ := h.eq hk
      rw [readWhole, if_neg hz, if_pos hb, gives_ok]
      exact ⟨rfl, rfl⟩

/-- A part that may be missing was read as `v`, and `k` is what is left. -/
def Finds {α : Type} {input : Bytes} (r : Except Fault (Part α input)) (v : Option α)
    (k : Bytes) : Prop :=
  ∃ p, r = .ok p ∧ p.value = v ∧ p.rest = k

@[simp] theorem finds_ok {α : Type} {input : Bytes} {p : Part α input} {v : Option α} :
    Finds (.ok p) v k ↔ p.value = v ∧ p.rest = k := by
  constructor
  · intro ⟨p', h, hv⟩
    cases h
    exact hv
  · intro h
    exact ⟨p, rfl, h⟩

@[simp] theorem not_finds_error {α : Type} {input : Bytes} {f : Fault} {v : Option α} :
    ¬ Finds (.error f : Except Fault (Part α input)) v k := by
  intro ⟨p, h, _⟩
  cases h

@[simp] theorem value_missing {α : Type} (input : Bytes) :
    (Part.missing input : Part α input).value = none := rfl

@[simp] theorem rest_missing {α : Type} (input : Bytes) :
    (Part.missing input : Part α input).rest = input := rfl

theorem finds_missing {α : Type} {input : Bytes} {v : Option α} :
    Finds (.ok (.missing input)) v k ↔ v = none ∧ k = input := by
  rw [finds_ok, value_missing, rest_missing]
  exact and_congr eq_comm eq_comm

theorem fractionText_of_readFraction {f : Option (List Nat)} (h : Finds (readFraction i) f k) :
    FractionText i f k := by
  cases i with
  | nil =>
      obtain ⟨rfl, rfl⟩ := finds_missing.mp h
      exact .missing
  | cons b i =>
      rw [readFraction] at h
      split at h
      · next hb =>
          split at h
          · exact (not_finds_error h).elim
          · next hd =>
              obtain ⟨rfl, rfl⟩ := finds_ok.mp h
              exact hb ▸ .present (digitRun_leadingDigits i) (by simpa using hd)
      · obtain ⟨rfl, rfl⟩ := finds_missing.mp h
        exact .missing

theorem readFraction_of_fractionText {f : Option (List Nat)} (h : FractionText i f k)
    (hk : Stops (fun b => isDigit b || b == Sign.point) k) : Finds (readFraction i) f k := by
  cases h with
  | missing =>
      cases i with
      | nil => exact finds_missing.mpr ⟨rfl, rfl⟩
      | cons b i =>
          have hb : b ≠ Sign.point := by
            rintro rfl
            cases (show true = false from hk)
          rw [readFraction, if_neg hb]
          exact finds_missing.mpr ⟨rfl, rfl⟩
  | @present i _ ds h hd =>
      obtain ⟨rfl, rfl⟩ := h.eq (hk.mono fun b hb => (Bool.or_eq_false_iff.mp hb).1)
      rw [readFraction, if_pos rfl, if_neg (by simpa using hd)]
      exact finds_ok.mpr ⟨rfl, rfl⟩

theorem signText_exponentSign (i : Bytes) :
    SignText i (exponentSign i).1 (exponentSign i).2 := by
  cases i with
  | nil => exact .missing
  | cons b i =>
      rw [exponentSign]
      split
      · next hb => exact hb ▸ .minus
      · split
        · next hb => exact hb ▸ .plus
        · exact .missing

theorem exponentSign_of_signText {below : Bool} {d : UInt8} (h : SignText i below (d :: j))
    (hd : isDigit d = true) : exponentSign i = (below, d :: j) := by
  cases h with
  | missing =>
      rw [exponentSign, if_neg, if_neg]
      all_goals
        rintro rfl
        cases hd
  | plus => rfl
  | minus => rfl

theorem Ends.stops_isDigit (h : Ends k) : Stops isDigit k := by
  refine h.mono fun b hb => ?_
  simp only [continuesNumber, Bool.or_eq_false_iff] at hb
  exact hb.1.1.1

theorem not_exponentSign_of_ends {b : UInt8} (h : Ends (b :: k)) :
    ¬ (b = 0x65 || b = 0x45) = true := by
  intro hb
  simp only [Bool.or_eq_true, decide_eq_true_eq] at hb
  rcases hb with rfl | rfl <;> cases (show true = false from h)

theorem exponentText_of_readExponent {e : Option (Bool × List Nat)}
    (h : Finds (readExponent i) e k) : ExponentText i e k := by
  cases i with
  | nil =>
      obtain ⟨rfl, rfl⟩ := finds_missing.mp h
      exact .missing
  | cons b i =>
      rw [readExponent] at h
      split at h
      · next hb =>
          split at h
          · exact (not_finds_error h).elim
          · next d j hs =>
              split at h
              · next hd =>
                  obtain ⟨rfl, rfl⟩ := finds_ok.mp h
                  have hi := signText_exponentSign i
                  rw [hs] at hi
                  exact .present (by simpa using hb) hi (.cons hd (digitRun_leadingDigits j))
                    (List.cons_ne_nil _ _)
              · exact (not_finds_error h).elim
      · obtain ⟨rfl, rfl⟩ := finds_missing.mp h
        exact .missing

theorem readExponent_of_exponentText {e : Option (Bool × List Nat)} (h : ExponentText i e k)
    (hk : Ends k) : Finds (readExponent i) e k := by
  cases h with
  | missing =>
      cases i with
      | nil => exact finds_missing.mpr ⟨rfl, rfl⟩
      | cons b i =>
          rw [readExponent, if_neg (not_exponentSign_of_ends hk)]
          exact finds_missing.mpr ⟨rfl, rfl⟩
  | present he hs h hd =>
      cases h with
      | nil => exact (hd rfl).elim
      | cons hb h =>
          have hs := exponentSign_of_signText hs hb
          obtain ⟨rfl, rfl⟩ := h.eq hk.stops_isDigit
          rw [readExponent, if_pos (by simpa using he)]
          split
          · next hn => rw [hs] at hn; cases hn
          · next d j hn =>
              rw [hs] at hn
              cases hn
              rw [if_pos hb]
              exact finds_ok.mpr ⟨congrArg (fun s => some (s.1, _)) hs, rfl⟩

/-! ## Reading a number -/

theorem FractionText.stops {f : Option (List Nat)} (h : FractionText i f k)
    (hk : Stops (fun b => isDigit b || b == Sign.point) k) : Stops isDigit i := by
  cases h with
  | missing => exact hk.mono fun b hb => (Bool.or_eq_false_iff.mp hb).1
  | present => exact rfl

theorem ExponentText.stops {e : Option (Bool × List Nat)} (h : ExponentText i e k)
    (hk : Ends k) : Stops (fun b => isDigit b || b == Sign.point) i := by
  cases h with
  | missing =>
      refine hk.mono fun b hb => ?_
      simp only [continuesNumber, Bool.or_eq_false_iff] at hb
      exact Bool.or_eq_false_iff.mpr hb.1.1
  | present he => rcases he with rfl | rfl <;> exact rfl

theorem gives_readUnsigned {negative : Bool} :
    Gives (readUnsigned negative i) n k ↔ ∃ w j f l e, Gives (readWhole i) w j ∧
      Finds (readFraction j) f l ∧ Finds (readExponent l) e k ∧ ⟨negative, w, f, e⟩ = n := by
  rw [readUnsigned]
  constructor
  · intro h
    split at h
    · exact (not_gives_error h).elim
    · next whole hw =>
        split at h
        · exact (not_gives_error h).elim
        · next fraction hf =>
            split at h
            · exact (not_gives_error h).elim
            · next exponent he =>
                obtain ⟨rfl, rfl⟩ := gives_ok.mp h
                exact ⟨_, _, _, _, _, ⟨whole, hw, rfl, rfl⟩, ⟨fraction, hf, rfl, rfl⟩,
                  ⟨exponent, he, rfl, rfl⟩, rfl⟩
  · intro ⟨w, j, f, l, e, ⟨whole, hw, hw', hj⟩, hf, he, hn⟩
    subst hw' hj
    obtain ⟨fraction, hf, rfl, rfl⟩ := hf
    obtain ⟨exponent, he, rfl, rfl⟩ := he
    rw [hw]
    simp only [hf, he]
    exact gives_ok.mpr ⟨hn, rfl⟩

theorem unsignedText_of_readUnsigned {negative : Bool}
    (h : Gives (readUnsigned negative i) n k) : UnsignedText negative i n k := by
  obtain ⟨w, j, f, l, e, hw, hf, he, rfl⟩ := gives_readUnsigned.mp h
  exact .mk (wholeText_of_readWhole hw) (fractionText_of_readFraction hf)
    (exponentText_of_readExponent he)

theorem readUnsigned_of_unsignedText {negative : Bool} (h : UnsignedText negative i n k)
    (hk : Ends k) : Gives (readUnsigned negative i) n k := by
  cases h with
  | @mk i j l k w f e hw hf he =>
      refine gives_readUnsigned.mpr ⟨w, j, f, l, e, ?_, ?_, ?_, rfl⟩
      · exact readWhole_of_wholeText hw (hf.stops (he.stops hk))
      · exact readFraction_of_fractionText hf (he.stops hk)
      · exact readExponent_of_exponentText he hk

/-- The first byte of a number. -/
theorem UnsignedText.head {negative : Bool} (h : UnsignedText negative i n k) :
    ∃ b t, i = b :: t ∧ isDigit b = true := by
  cases h with
  | mk hw =>
      cases hw with
      | zero => exact ⟨_, _, rfl, rfl⟩
      | digits hb => exact ⟨_, _, rfl, hb⟩

theorem numeralText_of_readNumeral (h : Gives (readNumeral i) n k) : NumeralText i n k := by
  cases i with
  | nil => exact (not_gives_error h).elim
  | cons b i =>
      rw [readNumeral] at h
      split at h
      · next hb =>
          split at h
          · exact (not_gives_error h).elim
          · next st hs =>
              obtain ⟨rfl, rfl⟩ := gives_ok.mp h
              exact hb ▸ .minus (unsignedText_of_readUnsigned ⟨st, hs, rfl, rfl⟩)
      · exact .plain (unsignedText_of_readUnsigned h)

theorem readNumeral_of_numeralText (h : NumeralText i n k) (hk : Ends k) :
    Gives (readNumeral i) n k := by
  cases h with
  | plain h =>
      obtain ⟨b, t, rfl, hb⟩ := h.head
      rw [readNumeral, if_neg]
      · exact readUnsigned_of_unsignedText h hk
      · rintro rfl
        cases hb
  | minus h =>
      obtain ⟨st, hs, rfl, rfl⟩ := readUnsigned_of_unsignedText h hk
      rw [readNumeral, if_pos rfl, hs]
      exact gives_ok.mpr ⟨rfl, rfl⟩

theorem NumeralText.head (h : NumeralText i n k) :
    ∃ b t, i = b :: t ∧ (b = Sign.minus || isDigit b) = true := by
  cases h with
  | plain h =>
      obtain ⟨b, t, rfl, hb⟩ := h.head
      exact ⟨b, t, rfl, Bool.or_eq_true_iff.mpr (.inr hb)⟩
  | minus => exact ⟨_, _, rfl, rfl⟩

/-! ## Passing over a number -/

theorem skipWhole_iff : Gives (skipWhole i) () k ↔ ∃ w, Gives (readWhole i) w k := by
  cases i with
  | nil => simp [skipWhole, readWhole]
  | cons b i =>
      rw [skipWhole]
      cases readWhole (b :: i) with
      | error f => simp
      | ok st => simp [Step.map]

theorem skipFraction_iff :
    (∃ o, Finds (skipFraction i) o k) ↔ ∃ f, Finds (readFraction i) f k := by
  cases i with
  | nil => simp [skipFraction, readFraction]
  | cons b i =>
      rw [skipFraction, readFraction]
      split
      · split <;> simp
      · simp

theorem exponentText_of_skipExponent {o : Option Unit} (h : Finds (skipExponent i) o k) :
    ∃ e, ExponentText i e k := by
  cases i with
  | nil =>
      obtain ⟨_, rfl⟩ := finds_missing.mp h
      exact ⟨none, .missing⟩
  | cons b i =>
      rw [skipExponent] at h
      split at h
      · next hb =>
          split at h
          · exact (not_finds_error h).elim
          · next d j hs =>
              split at h
              · next hd =>
                  obtain ⟨_, rfl⟩ := finds_ok.mp h
                  have hi := signText_exponentSign i
                  rw [hs] at hi
                  exact ⟨_, .present (by simpa using hb) hi (.cons hd (digitRun_leadingDigits j))
                    (List.cons_ne_nil _ _)⟩
              · exact (not_finds_error h).elim
      · obtain ⟨_, rfl⟩ := finds_missing.mp h
        exact ⟨none, .missing⟩

theorem skipExponent_of_exponentText {e : Option (Bool × List Nat)} (h : ExponentText i e k)
    (hk : Ends k) : ∃ o, Finds (skipExponent i) o k := by
  cases h with
  | missing =>
      cases i with
      | nil => exact ⟨none, finds_missing.mpr ⟨rfl, rfl⟩⟩
      | cons b i =>
          rw [skipExponent, if_neg (not_exponentSign_of_ends hk)]
          exact ⟨none, finds_missing.mpr ⟨rfl, rfl⟩⟩
  | present he hs h hd =>
      cases h with
      | nil => exact (hd rfl).elim
      | cons hb h =>
          have hs := exponentSign_of_signText hs hb
          obtain ⟨rfl, rfl⟩ := h.eq hk.stops_isDigit
          rw [skipExponent, if_pos (by simpa using he)]
          split
          · next hn => rw [hs] at hn; cases hn
          · next d j hn =>
              rw [hs] at hn
              cases hn
              rw [if_pos hb]
              exact ⟨none, finds_ok.mpr ⟨rfl, rfl⟩⟩

theorem unsignedText_of_skipNumber (negative : Bool) (h : Gives (skipNumber i) () k) :
    ∃ n, UnsignedText negative i n k := by
  rw [skipNumber] at h
  split at h
  · exact (not_gives_error h).elim
  · next whole hw =>
      split at h
      · exact (not_gives_error h).elim
      · next fraction hf =>
          split at h
          · exact (not_gives_error h).elim
          · next exponent he =>
              obtain ⟨_, rfl⟩ := gives_ok.mp h
              obtain ⟨w, hw⟩ := skipWhole_iff.mp ⟨whole, hw, rfl, rfl⟩
              obtain ⟨f, hf⟩ := skipFraction_iff.mp ⟨_, fraction, hf, rfl, rfl⟩
              obtain ⟨e, he⟩ := exponentText_of_skipExponent ⟨exponent, he, rfl, rfl⟩
              exact ⟨_, .mk (wholeText_of_readWhole hw) (fractionText_of_readFraction hf) he⟩

theorem skipNumber_of_unsignedText {negative : Bool} (h : UnsignedText negative i n k)
    (hk : Ends k) : Gives (skipNumber i) () k := by
  cases h with
  | mk hw hf he =>
      obtain ⟨whole, hw', _, rfl⟩ :=
        skipWhole_iff.mpr ⟨_, readWhole_of_wholeText hw (hf.stops (he.stops hk))⟩
      obtain ⟨_, fraction, hf', _, rfl⟩ :=
        skipFraction_iff.mpr ⟨_, readFraction_of_fractionText hf (he.stops hk)⟩
      obtain ⟨_, exponent, he', _, rfl⟩ := skipExponent_of_exponentText he hk
      rw [skipNumber, hw']
      simp only [hf', he']
      exact gives_ok.mpr ⟨rfl, rfl⟩

/-! ## The value of a numeral -/

/-- The number that decimal digits make up. -/
def decimal (ds : List Nat) : Nat := ds.foldl (fun n d => n * 10 + d) 0

theorem le_foldl_digits (acc : Nat) (ds : List Nat) :
    acc ≤ ds.foldl (fun n d => n * 10 + d) acc := by
  induction ds generalizing acc with
  | nil => exact Nat.le_refl acc
  | cons d ds ih =>
      have := ih (acc * 10 + d)
      rw [List.foldl_cons]
      omega

/-- Either all digits fit, or some are given back. -/
theorem absorb_eq {acc : Nat} (ha : acc < UInt64.size) (ds : List Nat) :
    absorb acc ds = (ds.foldl (fun n d => n * 10 + d) acc, []) ∧
        ds.foldl (fun n d => n * 10 + d) acc < UInt64.size ∨
      (absorb acc ds).2 ≠ [] ∧ UInt64.size ≤ ds.foldl (fun n d => n * 10 + d) acc := by
  induction ds generalizing acc with
  | nil => exact .inl ⟨rfl, ha⟩
  | cons d ds ih =>
      rw [absorb, List.foldl_cons]
      split
      · next hlt => exact ih hlt
      · next hge =>
          refine .inr ⟨List.cons_ne_nil _ _, ?_⟩
          have := le_foldl_digits (acc * 10 + d) ds
          omega

theorem realOf?_ne_integer {negative : Bool} {significand : Nat} {e z : Int} :
    realOf? negative significand e ≠ some (.integer z) := by
  intro h
  rw [realOf?] at h
  obtain ⟨x, _, hx⟩ := Option.bind_eq_some_iff.mp h
  obtain ⟨y, _, hy⟩ := Option.map_eq_some_iff.mp hx
  cases hy

theorem Numeral.real_ne_integer {z : Int} : n.real ≠ .ok (.integer z) := by
  have elim_ne {r : Option Number} (hr : r ≠ some (.integer z)) :
      (r.elim (.error []) .ok : Except (List Nat) Number) ≠ .ok (.integer z) := by
    intro h
    cases r with
    | none => cases h
    | some x => cases h; exact hr rfl
  rw [Numeral.real]
  split
  split
  · split <;> exact nofun
  · exact elim_ne realOf?_ne_integer

/-- Neither point nor exponent, and digits that 64 bits hold. -/
def Numeral.Plain (n : Numeral) : Prop :=
  n.fraction = none ∧ n.exponent = none ∧ decimal n.whole < UInt64.size

theorem Numeral.value_of_not_plain (h : ¬ n.Plain) : n.value = n.real := by
  rw [Numeral.value]
  split
  · next hp =>
      simp only [Bool.and_eq_true, Option.isNone_iff_eq_none, List.isEmpty_iff] at hp
      rcases absorb_eq (show 0 < UInt64.size by decide) n.whole with ⟨_, hlt⟩ | ⟨hn, _⟩
      · exact (h ⟨hp.1.1, hp.1.2, hlt⟩).elim
      · exact (hn hp.2).elim
  · rfl

theorem Numeral.value_of_plain (h : n.Plain) :
    n.value = if n.negative = false then .ok (.integer (decimal n.whole))
      else if decimal n.whole ≠ 0 ∧ decimal n.whole ≤ 2 ^ 63 then
        .ok (.integer (-decimal n.whole))
      else n.real := by
  obtain ⟨hf, he, hlt⟩ := h
  have ha : absorb 0 n.whole = (decimal n.whole, []) := by
    rcases absorb_eq (show 0 < UInt64.size by decide) n.whole with ⟨ha, _⟩ | ⟨_, hge⟩
    · exact ha
    · exact (Nat.not_lt.mpr hge hlt).elim
  have hm : (decimal n.whole : Int) ≤ 9223372036854775808 ↔ decimal n.whole ≤ 2 ^ 63 := by
    omega
  rw [Numeral.value, ha, hf, he]
  cases n.negative with
  | false => rfl
  | true => simp [hm]

/-- Which numerals are integers: negative zero is a double. -/
theorem Numeral.value_eq_integer_iff {z : Int} :
    n.value = .ok (.integer z) ↔ n.Plain ∧
      (n.negative = false ∧ z = decimal n.whole ∨
        n.negative = true ∧ z = -decimal n.whole ∧ decimal n.whole ≠ 0 ∧
          decimal n.whole ≤ 2 ^ 63) := by
  by_cases hp : n.Plain
  · rw [Numeral.value_of_plain hp, and_iff_right hp]
    cases n.negative with
    | false => simp [eq_comm]
    | true =>
        rw [if_neg Bool.noConfusion]
        by_cases hd : decimal n.whole ≠ 0 ∧ decimal n.whole ≤ 2 ^ 63
        · rw [if_pos hd]
          constructor
          · intro h
            cases h
            exact .inr ⟨rfl, rfl, hd⟩
          · rintro (⟨hn, _⟩ | ⟨_, rfl, _⟩)
            · cases hn
            · rfl
        · rw [if_neg hd]
          refine ⟨fun h => (Numeral.real_ne_integer h).elim, ?_⟩
          rintro (⟨hn, _⟩ | ⟨_, _, hw⟩)
          · cases hn
          · exact (hd hw).elim
  · rw [Numeral.value_of_not_plain hp]
    exact ⟨fun h => (Numeral.real_ne_integer h).elim, fun h => (hp h.1).elim⟩

/-! ## Reading a value -/

/-- A number and its value. -/
def NumberText : Grammar Number := fun i x k => ∃ n, NumeralText i n k ∧ n.value = .ok x

theorem numberText_of_readNumber {x : Number} (h : Gives (readNumber i) x k) :
    NumberText i x k := by
  rw [readNumber] at h
  split at h
  · exact (not_gives_error h).elim
  · next st hs =>
      split at h
      · next hx =>
          obtain ⟨rfl, rfl⟩ := gives_ok.mp h
          exact ⟨st.value, numeralText_of_readNumeral ⟨st, hs, rfl, rfl⟩, hx⟩
      · exact (not_gives_error h).elim

theorem readNumber_of_numberText {x : Number} (h : NumberText i x k) (hk : Ends k) :
    Gives (readNumber i) x k := by
  obtain ⟨n, hn, hx⟩ := h
  obtain ⟨st, hs, rfl, rfl⟩ := readNumeral_of_numeralText hn hk
  rw [readNumber, hs]
  simp only [hx]
  exact gives_ok.mpr ⟨rfl, rfl⟩

theorem int64OfNumber_eq_ok_iff {x : Number} {z : Int64} :
    int64OfNumber x = .ok z ↔ x = .integer z.toInt := by
  cases x with
  | real x => exact ⟨nofun, nofun⟩
  | integer m =>
      rw [int64OfNumber, Number.integer.injEq, eq_comm (a := m),
        ← Decimal.int64?_eq_some_iff]
      cases Decimal.int64? m with
      | none => exact ⟨nofun, nofun⟩
      | some n => simp

/-- An integer of 64 bits with a sign, which negative zero is not. -/
inductive OrderText : Grammar Int64
  | plain {i k : Bytes} {ds : List Nat} {z : Int64} (h : WholeText i ds k)
      (hz : z.toInt = decimal ds) : OrderText i z k
  | minus {i k : Bytes} {ds : List Nat} {z : Int64} (h : WholeText i ds k)
      (hn : decimal ds ≠ 0) (hz : z.toInt = -decimal ds) : OrderText (Sign.minus :: i) z k

/-- A numeral with neither point nor exponent is a whole part, perhaps with a minus. -/
theorem NumeralText.wholeText (h : NumeralText i n k) (hf : n.fraction = none)
    (he : n.exponent = none) : n.negative = false ∧ WholeText i n.whole k ∨
      n.negative = true ∧ ∃ j, i = Sign.minus :: j ∧ WholeText j n.whole k := by
  have unsigned {negative : Bool} {i : Bytes} (h : UnsignedText negative i n k) :
      n.negative = negative ∧ WholeText i n.whole k := by
    cases h with
    | mk hw hf' he' =>
        cases hf
        cases he
        cases hf'
        cases he'
        exact ⟨rfl, hw⟩
  cases h with
  | plain h => exact .inl (unsigned h)
  | minus h =>
      obtain ⟨hn, hw⟩ := unsigned h
      exact .inr ⟨hn, _, rfl, hw⟩

theorem orderText_iff {z : Int64} :
    OrderText i z k ↔ NumberText i (.integer z.toInt) k := by
  have hlow := z.le_toInt
  have hhigh := z.toInt_lt
  have hsize : UInt64.size = 2 ^ 64 := rfl
  constructor
  · intro h
    cases h with
    | @plain _ _ ds _ h hz =>
        refine ⟨⟨false, ds, none, none⟩, .plain (.mk h .missing .missing), ?_⟩
        exact Numeral.value_eq_integer_iff.mpr
          ⟨⟨rfl, rfl, show decimal ds < _ by omega⟩, .inl ⟨rfl, hz⟩⟩
    | @minus _ _ ds _ h hn hz =>
        refine ⟨⟨true, ds, none, none⟩, .minus (.mk h .missing .missing), ?_⟩
        exact Numeral.value_eq_integer_iff.mpr ⟨⟨rfl, rfl, show decimal ds < _ by omega⟩,
          .inr ⟨rfl, hz, hn, show decimal ds ≤ _ by omega⟩⟩
  · intro ⟨n, hn, hv⟩
    obtain ⟨⟨hf, he, _⟩, hz⟩ := Numeral.value_eq_integer_iff.mp hv
    rcases hn.wholeText hf he with ⟨hs, hw⟩ | ⟨hs, j, rfl, hw⟩
    · rcases hz with ⟨_, hz⟩ | ⟨hs', _⟩
      · exact .plain hw hz
      · exact absurd (hs.symm.trans hs') Bool.false_ne_true
    · rcases hz with ⟨hs', _⟩ | ⟨_, hz, hd, _⟩
      · exact absurd (hs'.symm.trans hs) Bool.false_ne_true
      · exact .minus hw hd hz

theorem OrderText.head {z : Int64} (h : OrderText i z k) :
    ∃ b t, i = b :: t ∧ (b = Sign.minus || isDigit b) = true := by
  obtain ⟨n, hn, _⟩ := orderText_iff.mp h
  exact hn.head

/-- A byte that begins a number is not blank and ends no array. -/
theorem begins_of_numeric {b : UInt8} (hb : (b = Sign.minus || isDigit b) = true) :
    Begins (b :: i) := by
  constructor
  · rw [← Bool.not_eq_true]
    intro h
    simp only [isBlank, Bool.or_eq_true, decide_eq_true_eq] at h
    rcases h with ((rfl | rfl) | rfl) | rfl <;> cases hb
  · rintro rfl
    cases hb

theorem takes_readInt64 : Takes readInt64 OrderText := by
  refine takes_readFrom ?_ ?_ ?_
  · intro b t z k h
    split at h
    · split at h
      · exact (not_gives_error h).elim
      · next st hs =>
          split at h
          · next z hz =>
              obtain ⟨rfl, rfl⟩ := gives_ok.mp h
              have hn := numberText_of_readNumber ⟨st, hs, rfl, rfl⟩
              rw [int64OfNumber_eq_ok_iff.mp hz] at hn
              exact orderText_iff.mpr hn
          · exact (not_gives_error h).elim
    · exact (not_gives_error h).elim
  · intro b t z k h hk
    obtain ⟨_, _, hbt, hb⟩ := h.head
    cases hbt
    obtain ⟨st, hs, hv, rfl⟩ := readNumber_of_numberText (orderText_iff.mp h) hk
    rw [if_pos hb, hs]
    simp only [int64OfNumber_eq_ok_iff.mpr hv]
    exact gives_ok.mpr ⟨rfl, rfl⟩
  · intro i z k h
    obtain ⟨b, t, rfl, hb⟩ := h.head
    exact begins_of_numeric hb

end EnumOrdering.Json
