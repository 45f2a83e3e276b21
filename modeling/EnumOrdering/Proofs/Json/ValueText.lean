import EnumOrdering.Proofs.Json.ContainerText
import EnumOrdering.Proofs.Json.NumberText

/-!
# The grammar of values

A scalar, an array or an object, with at most `room` containers within one another. The
grammar is by recursion on that number, as the reader is. Members that share a name are
not told apart by the grammar; the object that they make up keeps the last.
-/

namespace EnumOrdering.Json

/-! ## The grammar -/

/-- A value without parts. -/
inductive ScalarText : Grammar Scalar
  | null {k : Bytes} : ScalarText ([0x6E, 0x75, 0x6C, 0x6C] ++ k) .null k
  | true {k : Bytes} : ScalarText ([0x74, 0x72, 0x75, 0x65] ++ k) (.boolean true) k
  | false {k : Bytes} : ScalarText ([0x66, 0x61, 0x6C, 0x73, 0x65] ++ k) (.boolean false) k
  | number {i k : Bytes} {x : Number} (h : NumberText i x k) : ScalarText i (.number x) k
  | text {i k : Bytes} {s : String} (h : StringText i s k) :
      ScalarText (Sign.quote :: i) (.text s) k

/-- The members of an object with one more put into its place. -/
def addMember (members : List (String × Value)) (m : String × Value) :
    Option (List (String × Value)) := some (insertMember m.1 m.2 members)

/-- A value in which `room` containers may lie within one another. -/
def ValueText : (room : Nat) → Grammar Value
  | 0 => fun i v k => ∃ s, ScalarText i s k ∧ v = s.value
  | room + 1 => fun i v k =>
    (∃ s, ScalarText i s k ∧ v = s.value) ∨
    (∃ items, ArrayText (ValueText room) i items k ∧ v = .array items) ∨
    (∃ members, ObjectText (NamedText (ValueText room)) addMember [] i members k ∧
      v = .object members)

/-! ## Scalars -/

variable {i j k : Bytes} {b : UInt8} {t : Bytes} {s : Scalar} {v : Value} {room : Nat}

theorem ScalarText.begins (h : ScalarText i s k) : Begins i := by
  cases h with
  | null => exact ⟨rfl, by decide⟩
  | true => exact ⟨rfl, by decide⟩
  | false => exact ⟨rfl, by decide⟩
  | number h =>
      obtain ⟨n, h, _⟩ := h
      obtain ⟨b, t, rfl, hb⟩ := h.head
      exact begins_of_numeric hb
  | text => exact ⟨rfl, by decide⟩

theorem scalarText_of_readScalarFrom (h : Gives (readScalarFrom b t) s k) :
    ScalarText (b :: t) s k := by
  rw [readScalarFrom] at h
  split at h
  · next hb =>
      obtain ⟨rfl, rfl⟩ := (gives_readTail _).mp h
      exact hb ▸ .null
  · split at h
    · next hb =>
        obtain ⟨rfl, rfl⟩ := (gives_readTail _).mp h
        exact hb ▸ .true
    · split at h
      · next hb =>
          obtain ⟨rfl, rfl⟩ := (gives_readTail _).mp h
          exact hb ▸ .false
      · split at h
        · obtain ⟨x, hx, rfl⟩ := Gives.map.mp h
          exact .number (numberText_of_readNumber hx)
        · split at h
          · next hb =>
              split at h
              · exact (not_gives_error h).elim
              · next st hs =>
                  obtain ⟨rfl, rfl⟩ := gives_ok.mp h
                  have ht := ScalarText.text (gives_readText.mp ⟨st, hs, rfl, rfl⟩)
                  rw [← hb] at ht
                  exact ht
          · exact (not_gives_error h).elim

theorem readScalarFrom_of_scalarText (h : ScalarText (b :: t) s k) (hk : Ends k) :
    Gives (readScalarFrom b t) s k := by
  rw [readScalarFrom]
  cases h with
  | null =>
      rw [if_pos rfl]
      exact (gives_readTail _).mpr ⟨rfl, rfl⟩
  | true =>
      rw [if_neg (by decide), if_pos rfl]
      exact (gives_readTail _).mpr ⟨rfl, rfl⟩
  | false =>
      rw [if_neg (by decide), if_neg (by decide), if_pos rfl]
      exact (gives_readTail _).mpr ⟨rfl, rfl⟩
  | number h =>
      have hb : (b = Sign.minus || isDigit b) = true := by
        obtain ⟨n, h, _⟩ := h
        obtain ⟨_, _, hbt, hb⟩ := h.head
        cases hbt
        exact hb
      have hne {c : UInt8} (hc : (c = Sign.minus || isDigit c) = false) : b ≠ c :=
        @ne_of_kind b (fun b => b = Sign.minus || isDigit b) c hb hc
      rw [if_neg (hne rfl), if_neg (hne rfl), if_neg (hne rfl), if_pos hb]
      exact Gives.map.mpr ⟨_, readNumber_of_numberText h hk, rfl⟩
  | text h =>
      obtain ⟨st, hs, rfl, rfl⟩ := gives_readText.mpr h
      rw [if_neg (by decide), if_neg (by decide), if_neg (by decide), if_neg (by decide),
        if_pos rfl, hs]
      exact gives_ok.mpr ⟨rfl, rfl⟩

/-! ## Values -/

theorem not_opening_of_scalarText (h : ScalarText (b :: t) s k) :
    b ≠ Sign.openBracket ∧ b ≠ Sign.openBrace := by
  cases h with
  | null => decide
  | true => decide
  | false => decide
  | number h =>
      obtain ⟨n, h, _⟩ := h
      obtain ⟨_, _, hbt, hb⟩ := h.head
      cases hbt
      constructor
      · rintro rfl
        cases hb
      · rintro rfl
        cases hb
  | text => decide

/-- A scalar takes no room. -/
theorem ScalarText.valueText (h : ScalarText i s k) (room : Nat) : ValueText room i s.value k := by
  cases room with
  | zero => exact ⟨s, h, rfl⟩
  | succ room => exact .inl ⟨s, h, rfl⟩

theorem keyed_member (h : Takes (readValue room) (ValueText room)) :
    Keyed (fun members name => .ok fun input =>
        (readValue room input).map (·.map fun v => insertMember name v members))
      (NamedText (ValueText room)) addMember :=
  keyed_named h fun members name v => insertMember name v members

theorem ValueText.begins (h : ValueText room i v k) : Begins i := by
  cases room with
  | zero =>
      obtain ⟨s, hs, _⟩ := h
      exact hs.begins
  | succ room =>
      rcases h with ⟨s, hs, _⟩ | ⟨items, ha, _⟩ | ⟨members, ho, _⟩
      · exact hs.begins
      · cases ha with
        | mk => exact ⟨rfl, by decide⟩
      · cases ho with
        | mk => exact ⟨rfl, by decide⟩

theorem takes_readValue_zero : Takes (readValue 0) (ValueText 0) where
  sound := by
    intro i v k h
    rw [readValue] at h
    split at h
    · exact (not_gives_error h).elim
    · next b t hs =>
        split at h
        · exact (not_gives_error h).elim
        · split at h
          · exact (not_gives_error h).elim
          · next st hst =>
              obtain ⟨rfl, rfl⟩ := gives_ok.mp h
              exact ⟨b :: t, blanks_of_skipBlank hs, st.value,
                scalarText_of_readScalarFrom ⟨st, hst, rfl, rfl⟩, rfl⟩
  complete := by
    intro i j v k hj ⟨s, hs, hv⟩ hk
    obtain ⟨b, t, rfl, hn, _⟩ := hs.begins.eq_cons
    obtain ⟨hb, hb'⟩ := not_opening_of_scalarText hs
    obtain ⟨st, hst, rfl, rfl⟩ := readScalarFrom_of_scalarText hs hk
    rw [readValue]
    split
    · next he => rw [skipBlank_of_blanks hj hn] at he; cases he
    · next he =>
        rw [skipBlank_of_blanks hj hn] at he
        cases he
        rw [if_neg (by simp [hb, hb']), hst]
        exact gives_ok.mpr ⟨hv.symm, rfl⟩
  begins := ValueText.begins

theorem takes_readValue_succ (h : Takes (readValue room) (ValueText room)) :
    Takes (readValue (room + 1)) (ValueText (room + 1)) where
  sound := by
    intro i v k hg
    rw [readValue] at hg
    split at hg
    · exact (not_gives_error hg).elim
    · next b t hs =>
        refine ⟨b :: t, blanks_of_skipBlank hs, ?_⟩
        dsimp only at hg
        split at hg
        · next hb =>
            split at hg
            · exact (not_gives_error hg).elim
            · next st hst =>
                obtain ⟨rfl, rfl⟩ := gives_ok.mp hg
                have ha := ArrayText.mk (parts_of_readItems h ⟨st, hst, rfl, rfl⟩)
                rw [← hb] at ha
                exact .inr (.inl ⟨st.value, ha, rfl⟩)
        · split at hg
          · next hb =>
              split at hg
              · exact (not_gives_error hg).elim
              · next st hst =>
                  obtain ⟨rfl, rfl⟩ := gives_ok.mp hg
                  obtain ⟨ms, hp, hf⟩ := parts_of_readMembers (keyed_member h) ⟨st, hst, rfl, rfl⟩
                  have ho := ObjectText.mk hp hf
                  rw [← hb] at ho
                  exact .inr (.inr ⟨st.value, ho, rfl⟩)
          · split at hg
            · exact (not_gives_error hg).elim
            · next st hst =>
                obtain ⟨rfl, rfl⟩ := gives_ok.mp hg
                exact .inl ⟨st.value, scalarText_of_readScalarFrom ⟨st, hst, rfl, rfl⟩, rfl⟩
  complete := by
    intro i j v k hj hv hk
    obtain ⟨b, t, rfl, hn, _⟩ := hv.begins.eq_cons
    rw [readValue]
    split
    · next he => rw [skipBlank_of_blanks hj hn] at he; cases he
    · next he =>
        rw [skipBlank_of_blanks hj hn] at he
        cases he
        dsimp only
        rcases hv with ⟨s, hs, rfl⟩ | ⟨items, ha, rfl⟩ | ⟨members, ho, rfl⟩
        · obtain ⟨hb, hb'⟩ := not_opening_of_scalarText hs
          obtain ⟨st, hst, rfl, rfl⟩ := readScalarFrom_of_scalarText hs hk
          rw [if_neg hb, if_neg hb', hst]
          exact gives_ok.mpr ⟨rfl, rfl⟩
        · cases ha with
          | mk hp =>
              obtain ⟨st, hst, rfl, rfl⟩ := readItems_of_parts h hp 0 rfl
              rw [if_pos rfl, hst]
              exact gives_ok.mpr ⟨rfl, rfl⟩
        · cases ho with
          | mk hp hf =>
              obtain ⟨st, hst, rfl, rfl⟩ := readMembers_of_parts (keyed_member h) hp [] hf
              rw [if_neg (by decide), if_pos rfl, hst]
              exact gives_ok.mpr ⟨rfl, rfl⟩
  begins := ValueText.begins

/-- The reader of values takes their grammar, by recursion on the room. -/
theorem takes_readValue (room : Nat) : Takes (readValue room) (ValueText room) := by
  induction room with
  | zero => exact takes_readValue_zero
  | succ room ih => exact takes_readValue_succ ih

end EnumOrdering.Json
