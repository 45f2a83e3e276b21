import EnumOrdering.Proofs.Text.Utf8

/-!
# Texts and their bytes are in the same order

Texts compare character by character and byte strings compare byte by byte. The encoding
does not disturb the order: a greater character has a greater first byte or, where the
first bytes agree, as many bytes with greater digits in them. So whatever follows two
different characters, their encodings have settled the matter before it is looked at.
-/

namespace EnumOrdering.Utf8

theorem ofNat_lt_ofNat_iff {m n : Nat} (hm : m < 256) (hn : n < 256) :
    UInt8.ofNat m < UInt8.ofNat n ↔ m < n := by
  rw [UInt8.lt_iff_toNat_lt, toNat_ofNat_of_lt hm, toNat_ofNat_of_lt hn]

theorem ofNat_eq_ofNat_iff {m n : Nat} (hm : m < 256) (hn : n < 256) :
    UInt8.ofNat m = UInt8.ofNat n ↔ m = n := by
  rw [eq_ofNat_iff hn, toNat_ofNat_of_lt hm]

/-- The digits of a character's number to the base 64, which its bytes carry, and the four
forms that the bytes have. -/
theorem encodeChar_forms (x : Char) : ∃ a b c d : Nat,
    x.val.toNat = a * 262144 + b * 4096 + c * 64 + d ∧ (a < 5 ∧ b < 64 ∧ c < 64 ∧ d < 64) ∧
    ((a = 0 ∧ b = 0 ∧ c < 2) ∧ String.utf8EncodeChar x = [UInt8.ofNat (c * 64 + d)] ∨
    (a = 0 ∧ b = 0 ∧ 2 ≤ c ∧ c < 32) ∧ String.utf8EncodeChar x =
      [UInt8.ofNat (c + 0xC0), UInt8.ofNat (d + 0x80)] ∨
    (a = 0 ∧ 32 ≤ b * 64 + c ∧ b < 16) ∧ String.utf8EncodeChar x =
      [UInt8.ofNat (b + 0xE0), UInt8.ofNat (c + 0x80), UInt8.ofNat (d + 0x80)] ∨
    16 ≤ a * 64 + b ∧ String.utf8EncodeChar x =
      [UInt8.ofNat (a + 0xF0), UInt8.ofNat (b + 0x80), UInt8.ofNat (c + 0x80),
        UInt8.ofNat (d + 0x80)]) := by
  have hv := isValidChar_val x
  have hx := ofNat_val x
  generalize x.val.toNat = n at hv hx
  subst hx
  obtain ⟨a, b, c, d, hn, hb, hc, hd⟩ : ∃ a b c d : Nat,
      n = a * 262144 + b * 4096 + c * 64 + d ∧ b < 64 ∧ c < 64 ∧ d < 64 :=
    ⟨n / 262144, n / 4096 % 64, n / 64 % 64, n % 64, by omega, by omega, by omega, by omega⟩
  have hc' : n / 64 % 64 = c := by omega
  have hd' : n % 64 = d := by omega
  refine ⟨a, b, c, d, hn, ⟨by omega, hb, hc, hd⟩, ?_⟩
  by_cases h1 : n < 0x80
  · refine .inl ⟨by omega, ?_⟩
    rw [encodeChar_one h1, show n = c * 64 + d by omega]
  by_cases h2 : n < 0x800
  · refine .inr (.inl ⟨by omega, ?_⟩)
    rw [encodeChar_two ⟨by omega, h2⟩, show n / 64 % 32 = c by omega, hd']
  by_cases h3 : n < 0x10000
  · refine .inr (.inr (.inl ⟨by omega, ?_⟩))
    rw [encodeChar_three ⟨by omega, h3⟩ (by omega), show n / 4096 % 16 = b by omega, hc', hd']
  · refine .inr (.inr (.inr ⟨by omega, ?_⟩))
    rw [encodeChar_four ⟨by omega, by omega⟩, show n / 262144 % 8 = a by omega,
      show n / 4096 % 64 = b by omega, hc', hd']

theorem encodeChar_append_lt {x y : Char} (h : x < y) (i j : Bytes) :
    String.utf8EncodeChar x ++ i < String.utf8EncodeChar y ++ j := by
  have hlt : x.val.toNat < y.val.toNat := h
  obtain ⟨a, b, c, d, hx, hb, hfx⟩ := encodeChar_forms x
  obtain ⟨a', b', c', d', hy, hb', hfy⟩ := encodeChar_forms y
  -- Each form against each form; where they differ the first bytes are apart.
  rcases hfx with ⟨hm, ex⟩ | ⟨hm, ex⟩ | ⟨hm, ex⟩ | ⟨hm, ex⟩
  all_goals rcases hfy with ⟨hn, ey⟩ | ⟨hn, ey⟩ | ⟨hn, ey⟩ | ⟨hn, ey⟩
  all_goals
    rw [ex, ey]
    simp (disch := omega) only [List.cons_append, List.nil_append, List.cons_lt_cons_iff,
      ofNat_lt_ofNat_iff, ofNat_eq_ofNat_iff]
    omega

theorem encode_lt_encode {cs ds : List Char} (h : cs < ds) : encode cs < encode ds := by
  induction cs generalizing ds with
  | nil =>
      cases ds with
      | nil => exact absurd h (List.not_lt_nil [])
      | cons d ds =>
          obtain ⟨b, tail, he, -⟩ := shape_encodeChar d []
          rw [encode_cons, he]
          exact List.nil_lt_cons b _
  | cons c cs ih =>
      cases ds with
      | nil => exact absurd h (List.not_lt_nil _)
      | cons d ds =>
          rw [encode_cons, encode_cons]
          rcases List.cons_lt_cons_iff.mp h with hlt | ⟨rfl, hlt⟩
          · exact encodeChar_append_lt hlt _ _
          · exact List.append_left_lt (ih hlt)

theorem encode_lt_encode_iff {cs ds : List Char} : encode cs < encode ds ↔ cs < ds := by
  refine ⟨fun h => ?_, encode_lt_encode⟩
  rcases Std.lt_trichotomy cs ds with hlt | rfl | hgt
  · exact hlt
  · exact absurd h (List.lt_irrefl _)
  · exact absurd h (List.lt_asymm (encode_lt_encode hgt))

end EnumOrdering.Utf8

theorem EnumOrdering.Bytes.ofText_lt_ofText_iff {s t : String} :
    Bytes.ofText s < Bytes.ofText t ↔ s < t := by
  rw [ofText, ofText, Utf8.encode_lt_encode_iff, String.lt_iff]
