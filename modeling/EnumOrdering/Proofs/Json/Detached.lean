import EnumOrdering.Proofs.Json.SkippedText
import EnumOrdering.Proofs.Json.ValueText
import Mathlib.Logic.Relation

/-!
# What follows a value has no say in it

The rules of a grammar name what follows a value and never look at it. So what was read
of an input can be cut loose: the same bytes in front of anything else are read in the
same way. `Detached` says this of one reading, and every rule hands it on, which is one
line for each of them: bytes put in front, two readings one after the other, and a rule
over the result.

Both directions are of use. Bytes can be added to the end of an input, and they can be
taken off again when the reading has not come to them.
-/

namespace EnumOrdering.Json

/-- `R` leads from `i` to `k` over bytes that it passes in front of anything else as
well. -/
def Detached (R : Bytes → Bytes → Prop) (i k : Bytes) : Prop :=
  ∃ t, i = t ++ k ∧ ∀ k', R (t ++ k') k'

variable {R R' : Bytes → Bytes → Prop} {i j k : Bytes}

namespace Detached

theorem word (t : Bytes) (h : ∀ k, R (t ++ k) k) : Detached R (t ++ k) k := ⟨t, rfl, h⟩

theorem nil (h : ∀ k, R k k) : Detached R k k := word [] h

theorem map (h : Detached R i k) (f : ∀ {i k}, R i k → R' i k) : Detached R' i k := by
  obtain ⟨t, rfl, ht⟩ := h
  exact ⟨t, rfl, fun k' => f (ht k')⟩

theorem prepend (w : Bytes) (h : Detached R i k) (f : ∀ {i k}, R i k → R' (w ++ i) k) :
    Detached R' (w ++ i) k := by
  obtain ⟨t, rfl, ht⟩ := h
  refine ⟨w ++ t, (List.append_assoc w t k).symm, fun k' => ?_⟩
  rw [List.append_assoc]
  exact f (ht k')

theorem cons (b : UInt8) (h : Detached R i k) (f : ∀ {i k}, R i k → R' (b :: i) k) :
    Detached R' (b :: i) k := h.prepend [b] f

theorem comp (h : Detached R i j) (h' : Detached R' j k) :
    Detached (Relation.Comp R R') i k := by
  obtain ⟨t, rfl, ht⟩ := h
  obtain ⟨u, rfl, hu⟩ := h'
  refine ⟨t ++ u, (List.append_assoc t u k).symm, fun k' => ⟨u ++ k', ?_, hu k'⟩⟩
  rw [List.append_assoc]
  exact ht (u ++ k')

/-- What is read of an input is read of a longer one. -/
theorem append (h : Detached R i k) (s : Bytes) : R (i ++ s) (k ++ s) := by
  obtain ⟨t, rfl, ht⟩ := h
  rw [List.append_assoc]
  exact ht (k ++ s)

/-- And of a shorter one, if it ends before the part that is missing. -/
theorem of_append {s : Bytes} (h : Detached R (i ++ s) (k ++ s)) : R i k := by
  obtain ⟨t, hi, ht⟩ := h
  rw [← List.append_assoc] at hi
  rw [List.append_cancel_right hi]
  exact ht k

end Detached

/-! ## Blanks and leads -/

theorem Blanks.detached (h : Blanks i j) : Detached Blanks i j := by
  obtain ⟨ws, hw, rfl⟩ := h
  exact ⟨ws, rfl, fun k' => ⟨ws, hw, rfl⟩⟩

theorem Blanks.detached_sign {b : UInt8} (h : Blanks i (b :: k)) :
    Detached (fun i k => Blanks i (b :: k)) i k := by
  obtain ⟨ws, hw, rfl⟩ := h
  exact ⟨ws ++ [b], by simp, fun k' => ⟨ws, hw, by simp⟩⟩

theorem Blanks.sign_eq {b c : UInt8} (h : Blanks i (b :: j)) (h' : Blanks i (c :: k))
    (hb : isBlank b = false) (hc : isBlank c = false) : b = c ∧ j = k := by
  rw [← List.cons.injEq, ← skipBlank_of_blanks h hb]
  exact skipBlank_of_blanks h' hc

theorem Blanks.unique (h : Blanks i j) (h' : Blanks i k) (hj : Begins j) (hk : Begins k) :
    j = k := by
  obtain ⟨b, t, rfl, hb, -⟩ := hj.eq_cons
  obtain ⟨c, u, rfl, hc, -⟩ := hk.eq_cons
  obtain ⟨rfl, rfl⟩ := h.sign_eq h' hb hc
  rfl

theorem Begins.append (h : Begins i) (s : Bytes) : Begins (i ++ s) := by
  cases i with
  | nil => exact h.elim
  | cons b i => exact h

theorem Lead.detached {first : Bool} (h : Lead first i j) : Detached (Lead first) i j := by
  cases h with
  | first h => exact h.detached.map .first
  | next h h' => exact (h.detached_sign.comp h'.detached).map fun ⟨_, h, h'⟩ => .next h h'

/-! ## Numbers -/

theorem DigitRun.detached {ds : List Nat} (h : DigitRun i ds k) :
    Detached (DigitRun · ds ·) i k := by
  induction h with
  | nil => exact .nil fun _ => .nil
  | cons hb h ih => exact ih.cons _ (.cons hb)

theorem WholeText.detached {ds : List Nat} (h : WholeText i ds k) :
    Detached (WholeText · ds ·) i k := by
  cases h with
  | zero => exact .word [Sign.zero] fun _ => .zero
  | digits hb hz h => exact h.detached.cons _ (.digits hb hz)

theorem FractionText.detached {ds : Option (List Nat)} (h : FractionText i ds k) :
    Detached (FractionText · ds ·) i k := by
  cases h with
  | missing => exact .nil fun _ => .missing
  | present h hd => exact h.detached.cons _ fun h => .present h hd

theorem SignText.detached {below : Bool} (h : SignText i below k) :
    Detached (SignText · below ·) i k := by
  cases h with
  | missing => exact .nil fun _ => .missing
  | plus => exact .word [Sign.plus] fun _ => .plus
  | minus => exact .word [Sign.minus] fun _ => .minus

theorem ExponentText.detached {e : Option (Bool × List Nat)} (h : ExponentText i e k) :
    Detached (ExponentText · e ·) i k := by
  cases h with
  | missing => exact .nil fun _ => .missing
  | present he hs h hd =>
      exact (hs.detached.comp h.detached).cons _ fun ⟨_, hs, h⟩ => .present he hs h hd

theorem UnsignedText.detached {negative : Bool} {n : Numeral} (h : UnsignedText negative i n k) :
    Detached (UnsignedText negative · n ·) i k := by
  cases h with
  | mk hw hf he =>
      exact (hw.detached.comp (hf.detached.comp he.detached)).map
        fun ⟨_, hw, _, hf, he⟩ => .mk hw hf he

theorem NumeralText.detached {n : Numeral} (h : NumeralText i n k) :
    Detached (NumeralText · n ·) i k := by
  cases h with
  | plain h => exact h.detached.map .plain
  | minus h => exact h.detached.cons _ .minus

theorem NumberText.detached {x : Number} (h : NumberText i x k) :
    Detached (NumberText · x ·) i k := by
  obtain ⟨n, h, hx⟩ := h
  exact h.detached.map fun h => ⟨n, h, hx⟩

theorem OrderText.detached {z : Int64} (h : OrderText i z k) : Detached (OrderText · z ·) i k := by
  cases h with
  | plain h hz => exact h.detached.map fun h => .plain h hz
  | minus h hn hz => exact h.detached.cons _ fun h => .minus h hn hz

/-! ## Strings -/

theorem HexText.detached {n : Nat} (h : HexText i n k) : Detached (HexText · n ·) i k := by
  cases h with
  | mk ha hb hc hd => exact .word [_, _, _, _] fun _ => .mk ha hb hc hd

theorem HexText.detached_signs {n : Nat} {b c : UInt8} (h : HexText i n (b :: c :: k)) :
    Detached (fun i k => HexText i n (b :: c :: k)) i k := by
  cases h with
  | mk hw hx hy hz => exact .word [_, _, _, _, b, c] fun _ => .mk hw hx hy hz

theorem EscapeText.detached {c : Char} (h : EscapeText i c k) :
    Detached (EscapeText · c ·) i k := by
  cases h with
  | letter h => exact .word [_] fun _ => .letter h
  | unit h hl hh => exact h.detached.cons _ fun h => .unit h hl hh
  | pair h hh h' hl =>
      exact (h.detached_signs.comp h'.detached).cons _ fun ⟨_, h, h'⟩ => .pair h hh h' hl

theorem CharsText.detached {cs : List Char} (h : CharsText i cs k) :
    Detached (CharsText · cs ·) i k := by
  induction h with
  | close => exact .word [Sign.quote] fun _ => .close
  | plain hc h ih => exact ih.prepend _ (.plain hc)
  | escape he h ih => exact (he.detached.comp ih).cons _ fun ⟨_, he, h⟩ => .escape he h

theorem StringText.detached {s : String} (h : StringText i s k) :
    Detached (StringText · s ·) i k := CharsText.detached h

/-! ## Containers -/

section
variable {α μ σ : Type} {close : UInt8} {first : Bool}

/-- The readings of a grammar are detached, all of them. -/
def Loose (G : Grammar α) : Prop := ∀ i v k, G i v k → Detached (G · v ·) i k

theorem Parts.detached {G : Grammar α} (hG : Loose G) {vs : List α}
    (h : Parts close G first i vs k) : Detached (Parts close G first · vs ·) i k := by
  induction h with
  | close h => exact h.detached_sign.map .close
  | part hl hv h ih =>
      exact (hl.detached.comp ((hG _ _ _ hv).comp ih)).map fun ⟨_, hl, _, hv, h⟩ => .part hl hv h

theorem MemberText.detached {C : String → Grammar μ} {m : μ} (h : MemberText C i m k)
    (hC : ∀ name i k, C name i m k → Detached (C name · m ·) i k) :
    Detached (MemberText C · m ·) i k := by
  cases h with
  | mk hn hc hb hm =>
      exact (hn.detached.comp (hc.detached_sign.comp (hb.detached.comp (hC _ _ _ hm)))).cons _
        fun ⟨_, hn, _, hc, _, hb, hm⟩ => .mk hn hc hb hm

theorem loose_memberText {C : String → Grammar μ} (hC : ∀ name, Loose (C name)) :
    Loose (MemberText C) := fun _ m _ h => h.detached fun name i k => hC name i m k

theorem loose_namedText {G : Grammar α} (hG : Loose G) (name : String) :
    Loose (NamedText G name) := by
  intro i m k ⟨hn, h⟩
  exact (hG _ _ _ h).map fun h => ⟨hn, h⟩

theorem loose_arrayText {G : Grammar α} (hG : Loose G) : Loose (ArrayText G) := by
  intro i vs k h
  cases h with
  | mk h => exact (h.detached hG).cons _ .mk

theorem loose_objectText {C : String → Grammar μ} {step : σ → μ → Option σ} {s : σ}
    (hC : ∀ name, Loose (C name)) : Loose (ObjectText C step s) := by
  intro i s' k h
  cases h with
  | mk h hs => exact (h.detached (loose_memberText hC)).cons _ fun h => .mk h hs

end

/-! ## Values -/

theorem ScalarText.detached {s : Scalar} (h : ScalarText i s k) :
    Detached (ScalarText · s ·) i k := by
  cases h with
  | null => exact .word _ fun _ => .null
  | true => exact .word _ fun _ => .true
  | false => exact .word _ fun _ => .false
  | number h => exact h.detached.map .number
  | text h => exact h.detached.cons _ .text

theorem loose_valueText (room : Nat) : Loose (ValueText room) := by
  induction room with
  | zero =>
      intro i v k ⟨s, h, hv⟩
      exact h.detached.map fun h => ⟨s, h, hv⟩
  | succ room ih =>
      intro i v k h
      rcases h with ⟨s, h, hv⟩ | ⟨items, h, hv⟩ | ⟨members, h, hv⟩
      · exact h.detached.map fun h => .inl ⟨s, h, hv⟩
      · exact (loose_arrayText ih _ _ _ h).map fun h => .inr (.inl ⟨items, h, hv⟩)
      · exact (loose_objectText (loose_namedText ih) _ _ _ h).map
          fun h => .inr (.inr ⟨members, h, hv⟩)

/-! ## Skipped values -/

theorem SkippedText.detached (h : SkippedText i k) : Detached SkippedText i k := by
  induction h with
  | close => exact .word [Sign.quote] fun _ => .close
  | plain hb h ih => exact ih.cons _ (.plain hb)
  | letter hb h ih => exact ih.prepend [Sign.backslash, _] (.letter hb)
  | unit hn h ih =>
      exact (hn.detached.comp ih).prepend [Sign.backslash, 0x75] fun ⟨_, hn, h⟩ => .unit hn h

theorem SkippedScalar.detached (h : SkippedScalar i k) : Detached SkippedScalar i k := by
  cases h with
  | null => exact .word _ fun _ => .null
  | true => exact .word _ fun _ => .true
  | false => exact .word _ fun _ => .false
  | number h => exact h.detached.map .number
  | text h => exact h.detached.cons _ .text

theorem SkippedName.detached {frame : Frame} (h : SkippedName frame i k) :
    Detached (SkippedName frame) i k := by
  cases h with
  | array => exact .nil fun _ => .array
  | object h hc =>
      exact (h.detached.comp hc.detached_sign).cons _ fun ⟨_, h, hc⟩ => .object h hc

mutual

theorem SkippedValue.detached {i k : Bytes} : SkippedValue i k → Detached SkippedValue i k
  | .scalar h => h.detached.map .scalar
  | .container h => h.detached.cons _ .container

theorem SkippedParts.detached {frame : Frame} {first : Bool} {i k : Bytes} :
    SkippedParts frame first i k → Detached (SkippedParts frame first) i k
  | .close h => h.detached_sign.map .close
  | .part hl hn hb hv h =>
    (hl.detached.comp (hn.detached.comp (hb.detached.comp (hv.detached.comp h.detached)))).map
      fun ⟨_, hl, _, hn, _, hb, _, hv, h⟩ => .part hl hn hb hv h

end

/-! ## One reading

A reader gives one answer, so a grammar that is read has one value and one end. Values
need a word on what follows them, since a number that goes on is another number; arrays
and objects end with a sign of their own and need none. -/

section
variable {α μ σ : Type} {G : Grammar α}

theorem Gives.unique {input : Bytes} {r : Except Fault (Step α input)} {v w : α} {k k' : Bytes}
    (h : Gives r v k) (h' : Gives r w k') : v = w ∧ k = k' := by
  obtain ⟨st, rfl, rfl, rfl⟩ := h
  exact gives_ok.mp h'

theorem Takes.unique {read : Reader α} (h : Takes read G) {v w : α} {k k' : Bytes}
    (hv : G i v k) (hk : Ends k) (hw : G i w k') (hk' : Ends k') : v = w ∧ k = k' :=
  (h.complete (.refl i) hv hk).unique (h.complete (.refl i) hw hk')

/-- A grammar with one reading of every input. -/
def Sole (G : Grammar α) : Prop := ∀ i v w k k', G i v k → G i w k' → v = w ∧ k = k'

theorem sole_arrayText {item : Reader α} (h : Takes item G) : Sole (ArrayText G) := by
  intro i vs ws k k' hv hw
  cases hv with
  | mk hv =>
      cases hw with
      | mk hw => exact (readItems_of_parts h hv 0 rfl).unique (readItems_of_parts h hw 0 rfl)

theorem sole_objectText {onKey : σ → String → Except Mismatch (Reader σ)} {C : String → Grammar μ}
    {step : σ → μ → Option σ} {s : σ} (h : Keyed onKey C step) :
    Sole (ObjectText C step s) := by
  intro i t u k k' ht hu
  cases ht with
  | mk ht hst =>
      cases hu with
      | mk hu hsu =>
          exact (readMembers_of_parts h ht s hst).unique (readMembers_of_parts h hu s hsu)

/-- A whole text that goes on as another whole text goes on with blanks, and the value is
the same. -/
theorem readWholeText_append {read : Reader α} (h : Takes read G) (hl : Loose G) (hs : Sole G)
    {p s : Bytes} {v w : α} (hp : readWholeText read p = .ok v)
    (hps : readWholeText read (p ++ s) = .ok w) : v = w ∧ ∀ b ∈ s, isBlank b = true := by
  obtain ⟨j, k, hj, hv, hk⟩ := (readWholeText_eq_ok_iff h).mp hp
  obtain ⟨j', k', hj', hw, hk'⟩ := (readWholeText_eq_ok_iff h).mp hps
  have he : j ++ s = j' :=
    (hj.detached.append s).unique hj' ((h.begins hv).append s) (h.begins hw)
  subst he
  -- The value is read of both texts, and ends at the same place in the longer one.
  obtain ⟨rfl, rfl⟩ := hs _ _ _ _ _ ((hl _ _ _ hv).append s) hw
  refine ⟨rfl, ?_⟩
  obtain ⟨ws, hws, he⟩ := hk'
  rw [List.append_nil] at he
  intro b hb
  exact hws b (he ▸ List.mem_append_right k hb)

end

end EnumOrdering.Json
