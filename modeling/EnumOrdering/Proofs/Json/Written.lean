import EnumOrdering.Json.Compact
import EnumOrdering.Proofs.Json.ValueText
import Mathlib.Algebra.Group.Int.Defs
import Mathlib.Data.List.Forall2

/-!
# What is written can be read

The characters that the writer makes of a value stand for the value in the grammar of
texts, whatever follows them: `Spells` says so, and the grammars that read what follows a
part can be put together from it. Texts come back character by character, since every
escape of the writer is one that the grammar has; integers come back by their digits;
and the parts of containers come back in their order, with the commas between them.
-/

namespace EnumOrdering.Json

variable {α μ : Type} {i k : Bytes}

/-- The characters stand for a value of the grammar, whatever follows them. -/
def Spells (G : Grammar α) (cs : List Char) (v : α) : Prop := ∀ k, G (Utf8.encode cs ++ k) v k

theorem ofText_compact (v : Value) : Bytes.ofText v.compact = Utf8.encode (write v) := by
  rw [Bytes.ofText, Value.compact, String.toList_ofList]

/-- A digit is one byte, whose value is the digit's in both readings of digits. -/
theorem utf8EncodeChar_digitChar : ∀ d < 16, ∃ b, String.utf8EncodeChar (Nat.digitChar d) = [b] ∧
    hexValue? b = some d ∧ (d < 10 → isDigit b = true ∧ digitValue b = d) := by
  intro d hd
  refine ⟨(String.utf8EncodeChar (Nat.digitChar d)).headD 0, ?_⟩
  revert d
  decide

/-! ## Texts -/

theorem escapeText_of_control {c : Char} (hc : c.toNat < 0x20) :
    EscapeText (Utf8.encode ['u', '0', '0', Nat.digitChar (c.toNat / 16),
      Nat.digitChar (c.toNat % 16)] ++ i) c i := by
  obtain ⟨b, hb, hx, -⟩ := utf8EncodeChar_digitChar (c.toNat / 16) (by omega)
  obtain ⟨b', hb', hx', -⟩ := utf8EncodeChar_digitChar (c.toNat % 16) (by omega)
  have he : Utf8.encode ['u', '0', '0', Nat.digitChar (c.toNat / 16),
      Nat.digitChar (c.toNat % 16)] = [0x75, 0x30, 0x30, b, b'] := by
    simp only [Utf8.encode, List.flatMap_cons, List.flatMap_nil, hb, hb']
    rfl
  have hn : 0 * 4096 + 0 * 256 + c.toNat / 16 * 16 + c.toNat % 16 = c.toNat := by omega
  have ht : HexText (0x30 :: 0x30 :: b :: b' :: i) c.toNat i := hn ▸ .mk rfl rfl hx hx'
  have hu := EscapeText.unit ht (by simp [isLowSurrogate]; omega) (by simp [isHighSurrogate]; omega)
  rw [Char.ofNat_toNat] at hu
  rw [he]
  exact hu

/-- A character that is written as it is or by an escape comes back. -/
theorem charsText_writeChar {cs : List Char} (c : Char) (h : CharsText i cs k) :
    CharsText (Utf8.encode (writeChar c) ++ i) (c :: cs) k := by
  -- The clauses of the writer: seven letters, the other control characters, and the rest.
  rw [writeChar]
  split
  · next hc => subst hc; exact .escape (.letter rfl) h
  split
  · next hc => subst hc; exact .escape (.letter rfl) h
  split
  · next hc => subst hc; exact .escape (.letter rfl) h
  split
  · next hc => subst hc; exact .escape (.letter rfl) h
  split
  · next hc => subst hc; exact .escape (.letter rfl) h
  split
  · next hc => subst hc; exact .escape (.letter rfl) h
  split
  · next hc => subst hc; exact .escape (.letter rfl) h
  split
  · next hc => exact .escape (escapeText_of_control hc) h
  · next hq hb _ _ _ _ _ hc =>
      rw [encode_singleton]
      exact .plain ⟨hq, hb, Nat.not_lt.mp hc⟩ h

/-- The characters of a text after its opening quote. -/
def writeRest (s : String) : List Char := s.toList.flatMap writeChar ++ ['"']

theorem writeText_eq (s : String) : writeText s = '"' :: writeRest s := rfl

theorem spells_text (s : String) : Spells StringText (writeRest s) s := by
  intro k
  rw [StringText, writeRest]
  induction s.toList with
  | nil => exact .close
  | cons c cs ih =>
      rw [List.flatMap_cons, List.append_assoc, Utf8.encode_append, List.append_assoc]
      exact charsText_writeChar c ih

theorem spells_scalar_text (s : String) : Spells ScalarText (writeText s) (.text s) :=
  fun k => .text (spells_text s k)

/-! ## Integers -/

theorem spells_digits {ds : List Nat} (h : ∀ d ∈ ds, d < 10) :
    Spells DigitRun (ds.map Nat.digitChar) ds := by
  intro k
  induction ds with
  | nil => exact .nil
  | cons d ds ih =>
      obtain ⟨hd, h⟩ := List.forall_mem_cons.mp h
      obtain ⟨b, he, -, hv⟩ := utf8EncodeChar_digitChar d (by omega)
      obtain ⟨hb, hv⟩ := hv hd
      rw [List.map_cons, Utf8.encode_cons, he, ← hv]
      exact .cons hb (ih h)

theorem spells_isDigits {n : Nat} {ds : List Nat} (h : Decimal.IsDigits n ds) :
    Spells WholeText (Decimal.natDigits n) ds := by
  intro k
  rw [h.text]
  rcases h.first with rfl | ⟨d, ds, rfl, hz⟩
  · exact .zero
  · obtain ⟨hd, hds⟩ := List.forall_mem_cons.mp h.lt
    obtain ⟨b, he, -, hv⟩ := utf8EncodeChar_digitChar d (by omega)
    obtain ⟨hb, hv⟩ := hv hd
    rw [List.map_cons, Utf8.encode_cons, he, ← hv]
    refine .digits hb ?_ (spells_digits hds k)
    rintro rfl
    exact hz hv.symm

/-- The digits of an integer are a numeral, however large the integer is. -/
theorem exists_spells_numeral (z : Int) : ∃ n : Numeral, n.fraction = none ∧ n.exponent = none ∧
    n.negative = decide (z < 0) ∧ decimal n.whole = z.natAbs ∧
      Spells NumeralText (Decimal.intDigits z) n := by
  obtain ⟨ds, h⟩ := Decimal.exists_isDigits z.natAbs
  have hw := spells_isDigits h
  refine ⟨⟨decide (z < 0), ds, none, none⟩, rfl, rfl, rfl, h.value, fun k => ?_⟩
  rw [Decimal.intDigits]
  split
  · next hz =>
      rw [decide_eq_true hz]
      exact .minus (.mk (hw k) .missing .missing)
  · next hz =>
      rw [decide_eq_false hz]
      exact .plain (.mk (hw k) .missing .missing)

/-- An integer of 64 bits, with or without a sign, comes back from its digits. -/
theorem spells_integer {z : Int} (h : -2 ^ 63 ≤ z ∧ z < 2 ^ 64) :
    Spells NumberText (Decimal.intDigits z) (.integer z) := by
  obtain ⟨n, hf, he, hs, hd, hn⟩ := exists_spells_numeral z
  have hsize : UInt64.size = 2 ^ 64 := rfl
  refine fun k => ⟨n, hn k, Numeral.value_eq_integer_iff.mpr ⟨⟨hf, he, by omega⟩, ?_⟩⟩
  by_cases hz : z < 0
  · rw [decide_eq_true hz] at hs
    exact .inr ⟨hs, by omega, by omega, by omega⟩
  · rw [decide_eq_false hz] at hs
    exact .inl ⟨hs, by omega⟩

theorem spells_order (z : Int64) : Spells OrderText (Decimal.intDigits z.toInt) z := by
  have hl := z.le_toInt
  have hu := z.toInt_lt
  exact fun k => orderText_iff.mpr (spells_integer ⟨by omega, by omega⟩ k)

theorem write_integer (z : Int) : write (.number (.integer z)) = Decimal.intDigits z := by
  rw [write, Number.text, Decimal.intText, String.toList_ofList]

/-! ## Containers -/

theorem Parts.after_comma {close : UInt8} {G : Grammar α} {v : α} {vs : List α}
    (h : Parts close G true i (v :: vs) k) : Parts close G false (Sign.comma :: i) (v :: vs) k := by
  cases h with
  | part hl hv h =>
      cases hl with
      | first hb => exact .part (.next (.refl _) hb) hv h

/-- Parts with commas between them. -/
theorem parts_intercalate {close : UInt8} {G : Grammar α} {texts : List (List Char)} {vs : List α}
    (h : List.Forall₂ (Spells G) texts vs) (k : Bytes) :
    Parts close G true (Utf8.encode ([','].intercalate texts) ++ close :: k) vs k := by
  induction h with
  | nil => exact .close (.refl _)
  | @cons text v texts vs hv h ih =>
      cases h with
      | nil =>
          rw [List.intercalate_singleton]
          exact .part (.first (.refl _)) (hv _) (.close (.refl _))
      | cons hw h =>
          rw [List.intercalate_cons_cons, List.append_assoc, Utf8.encode_append, List.append_assoc]
          exact .part (.first (.refl _)) (hv _) ih.after_comma

theorem writeItems_eq : ∀ vs, writeItems vs = [','].intercalate (vs.map write)
  | [] => rfl
  | [v] => by rw [writeItems, List.map_singleton, List.intercalate_singleton]
  | v :: w :: rest => by
      rw [writeItems, writeItems_eq (w :: rest)]
      simp only [List.map_cons, List.intercalate_cons_cons, List.append_assoc]
      rfl

/-- The characters of a member. -/
def writeMember (p : String × Value) : List Char := writeText p.1 ++ ':' :: write p.2

theorem writeMembers_eq : ∀ ps, writeMembers ps = [','].intercalate (ps.map writeMember)
  | [] => rfl
  | [p] => by rw [writeMembers, List.map_singleton, List.intercalate_singleton, writeMember]
  | p :: q :: rest => by
      rw [writeMembers, writeMembers_eq (q :: rest)]
      simp only [List.map_cons, List.intercalate_cons_cons, List.append_assoc, writeMember]
      rfl

theorem encode_enclosed {a c : Char} {x y : UInt8} (ha : String.utf8EncodeChar a = [x])
    (hc : String.utf8EncodeChar c = [y]) (cs : List Char) (k : Bytes) :
    Utf8.encode (a :: cs ++ [c]) ++ k = x :: (Utf8.encode cs ++ y :: k) := by
  rw [Utf8.encode_append, Utf8.encode_cons, Utf8.encode_cons, ha, hc, List.append_assoc]
  rfl

theorem spells_array {G : Grammar α} {values : List Value} {vs : List α}
    (h : List.Forall₂ (fun w => Spells G (write w)) values vs) :
    Spells (ArrayText G) (write (.array values)) vs := by
  intro k
  rw [write, writeItems_eq, encode_enclosed rfl rfl]
  exact .mk (parts_intercalate (List.forall₂_map_left_iff.mpr h) k)

theorem spells_member {C : String → Grammar μ} {name : String} {v : Value} {m : μ}
    (h : Spells (C name) (write v) m) : Spells (MemberText C) (writeMember (name, v)) m := by
  intro k
  rw [writeMember, writeText_eq, List.cons_append, Utf8.encode_cons, Utf8.encode_append,
    List.append_assoc, List.append_assoc, Utf8.encode_cons, List.append_assoc]
  exact .mk (spells_text name _) (.refl _) (.refl _) (h k)

/-- The members that are written are those of the grammar, whatever they are to make up. -/
theorem parts_writeMembers {C : String → Grammar μ} {ps : List (String × Value)} {ms : List μ}
    (h : List.Forall₂ (fun p => Spells (MemberText C) (writeMember p)) ps ms) (k : Bytes) :
    Parts Sign.closeBrace (MemberText C) true
      (Utf8.encode (writeMembers ps) ++ Sign.closeBrace :: k) ms k := by
  rw [writeMembers_eq]
  exact parts_intercalate (List.forall₂_map_left_iff.mpr h) k

theorem encode_object (ps : List (String × Value)) (k : Bytes) :
    Utf8.encode (write (.object ps)) ++ k =
      Sign.openBrace :: (Utf8.encode (writeMembers ps) ++ Sign.closeBrace :: k) := by
  rw [write]
  exact encode_enclosed rfl rfl _ k

end EnumOrdering.Json
