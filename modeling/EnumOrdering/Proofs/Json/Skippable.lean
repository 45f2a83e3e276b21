import EnumOrdering.Proofs.Json.Detached

/-!
# Whatever is read can be passed over

The grammar of values that nobody asked for is the widest one: every text, number, array
or object that is read for its value belongs to it. As it has one reading, it tells where
a value ends without asking what the value is.
-/

namespace EnumOrdering.Json

variable {α μ σ : Type} {i k : Bytes} {first : Bool}

/-! ## The widest grammar -/

theorem SkippedText.of_charsText {cs : List Char} (h : CharsText i cs k) : SkippedText i k := by
  induction h with
  | close => exact .close
  | plain hc h ih => exact ih.run (isPlain_of_plainChar hc)
  | escape he h ih =>
      cases he with
      | letter h => exact .letter (Option.isSome_iff_exists.mpr ⟨_, h⟩) ih
      | unit h => exact .unit h ih
      -- Both halves of a pair are passed over as if each stood alone.
      | pair h hh h' => exact .unit h (.unit h' ih)

theorem ScalarText.skipped {s : Scalar} (h : ScalarText i s k) : SkippedScalar i k := by
  cases h with
  | null => exact .null
  | true => exact .true
  | false => exact .false
  | number h =>
      obtain ⟨n, hn, -⟩ := h
      exact .number hn
  | text h => exact .text (.of_charsText h)

theorem OrderText.skipped {z : Int64} (h : OrderText i z k) : SkippedScalar i k := by
  obtain ⟨n, hn, -⟩ := orderText_iff.mp h
  exact .number hn

/-- Everything that belongs to the grammar can be passed over. -/
def Skippable (G : Grammar α) : Prop := ∀ i v k, G i v k → SkippedValue i k

theorem Parts.skipped_array {G : Grammar α} (hG : Skippable G) {vs : List α}
    (h : Parts Sign.closeBracket G first i vs k) : SkippedParts .array first i k := by
  induction h with
  | close h => exact .close h
  | part hl hv h ih => exact .part hl .array (.refl _) (hG _ _ _ hv) ih

theorem Parts.skipped_object {C : String → Grammar μ} (hC : ∀ name, Skippable (C name))
    {ms : List μ} (h : Parts Sign.closeBrace (MemberText C) first i ms k) :
    SkippedParts .object first i k := by
  induction h with
  | close h => exact .close h
  | part hl hm h ih =>
      cases hm with
      | mk hn hc hb hm =>
          exact .part hl (.object (.of_charsText hn) hc) hb (hC _ _ _ _ hm) ih

theorem skippable_arrayText {G : Grammar α} (hG : Skippable G) : Skippable (ArrayText G) := by
  intro i vs k h
  cases h with
  | mk h => exact @SkippedValue.container .array _ _ (h.skipped_array hG)

theorem skippable_objectText {C : String → Grammar μ} {step : σ → μ → Option σ} {s : σ}
    (hC : ∀ name, Skippable (C name)) : Skippable (ObjectText C step s) := by
  intro i s' k h
  cases h with
  | mk h => exact @SkippedValue.container .object _ _ (h.skipped_object hC)

theorem skippable_namedText {G : Grammar α} (hG : Skippable G) (name : String) :
    Skippable (NamedText G name) := fun _ _ _ h => hG _ _ _ h.2

theorem skippable_valueText (room : Nat) : Skippable (ValueText room) := by
  induction room with
  | zero =>
      intro i v k ⟨s, h, _⟩
      exact .scalar h.skipped
  | succ room ih =>
      intro i v k h
      rcases h with ⟨s, h, _⟩ | ⟨items, h, _⟩ | ⟨members, h, _⟩
      · exact .scalar h.skipped
      · exact skippable_arrayText ih _ _ _ h
      · exact skippable_objectText (skippable_namedText ih) _ _ _ h

end EnumOrdering.Json
