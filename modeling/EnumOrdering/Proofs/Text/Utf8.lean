import EnumOrdering.Text.Utf8

/-!
# Decoding is the inverse of encoding

The strict decoder accepts a byte string exactly when it is the encoding of some
characters, and gives back those characters. Both directions rest on one fact about
a single character, `head_eq_char_iff_encode`: what `head` takes off the front as a
character is the encoding of that character, whatever follows it.

The numbers involved are kept in units of 64, the weight of a continuation byte, so
that the bounds on the first two bytes of a character stay linear.
-/

namespace EnumOrdering.Utf8

/-! ## Characters and bytes as numbers -/

theorem isValidChar_val (c : Char) :
    c.val.toNat < 0xD800 ∨ (0xDFFF < c.val.toNat ∧ c.val.toNat < 0x110000) := c.valid

theorem ofNat_val (c : Char) : Char.ofNat c.val.toNat = c := Char.ofNat_toNat c

theorem val_ofNat {n : Nat} (h : n.isValidChar) : (Char.ofNat n).val.toNat = n := by
  rw [Char.ofNat, dif_pos h]
  rfl

theorem isContinuation_iff {b : UInt8} :
    isContinuation b = true ↔ 0x80 ≤ b.toNat ∧ b.toNat ≤ 0xBF := by
  simp [isContinuation, UInt8.le_iff_toNat_le]

/-- The first two bytes of a character of three bytes, by the number that they carry:
not too small for three bytes and no surrogate. -/
theorem followsThree_iff {b b₁ : UInt8} (hb : 0xE0 ≤ b.toNat ∧ b.toNat ≤ 0xEF) :
    followsThree b b₁ = true ↔ isContinuation b₁ = true ∧
      0x20 ≤ b.toNat % 16 * 64 + payload b₁ ∧
      (b.toNat % 16 * 64 + payload b₁ < 0x360 ∨ 0x380 ≤ b.toNat % 16 * 64 + payload b₁) := by
  simp only [followsThree, isContinuation, payload, ← UInt8.toNat_inj, UInt8.le_iff_toNat_le,
    Bool.and_eq_true, decide_eq_true_eq, UInt8.reduceToNat]
  have := b₁.toNat_lt
  split
  · simp only [Bool.and_eq_true, decide_eq_true_eq]; omega
  · split <;> simp only [Bool.and_eq_true, decide_eq_true_eq] <;> omega

/-- The first two bytes of a character of four bytes, by the number that they carry:
not too small for four bytes and not too large for a character. -/
theorem followsFour_iff {b b₁ : UInt8} (hb : 0xF0 ≤ b.toNat ∧ b.toNat ≤ 0xF4) :
    followsFour b b₁ = true ↔ isContinuation b₁ = true ∧
      0x10 ≤ b.toNat % 8 * 64 + payload b₁ ∧ b.toNat % 8 * 64 + payload b₁ < 0x110 := by
  simp only [followsFour, isContinuation, payload, ← UInt8.toNat_inj, UInt8.le_iff_toNat_le,
    Bool.and_eq_true, decide_eq_true_eq, UInt8.reduceToNat]
  have := b₁.toNat_lt
  split
  · simp only [Bool.and_eq_true, decide_eq_true_eq]; omega
  · split <;> simp only [Bool.and_eq_true, decide_eq_true_eq] <;> omega

theorem head_one {b : UInt8} (hb : b.toNat < 0x80) (rest : Bytes) :
    head b rest = .char (Char.ofNat b.toNat) rest := by
  rw [head.eq_def, if_pos (UInt8.lt_iff_toNat_lt.mpr hb)]

theorem head_two {b b₁ : UInt8} (hb : 0xC2 ≤ b.toNat ∧ b.toNat ≤ 0xDF)
    (h₁ : isContinuation b₁ = true) (rest : Bytes) :
    head b (b₁ :: rest) = .char (Char.ofNat (b.toNat % 32 * 64 + payload b₁)) rest := by
  have hn : ¬ b < 0x80 := by rw [UInt8.lt_iff_toNat_lt]; simp; omega
  have hc : (0xC2 ≤ b && b ≤ 0xDF) = true := by simpa [UInt8.le_iff_toNat_le] using hb
  rw [head.eq_def, if_neg hn, if_pos hc]
  simp only []
  rw [if_pos h₁]

theorem head_three {b b₁ b₂ : UInt8} (hb : 0xE0 ≤ b.toNat ∧ b.toNat ≤ 0xEF)
    (h₁ : followsThree b b₁ = true) (h₂ : isContinuation b₂ = true) (rest : Bytes) :
    head b (b₁ :: b₂ :: rest) =
      .char (Char.ofNat (b.toNat % 16 * 4096 + payload b₁ * 64 + payload b₂)) rest := by
  have hn : ¬ b < 0x80 := by rw [UInt8.lt_iff_toNat_lt]; simp; omega
  have hc : ¬ (0xC2 ≤ b && b ≤ 0xDF) = true := by simp [UInt8.le_iff_toNat_le]; omega
  have hd : (0xE0 ≤ b && b ≤ 0xEF) = true := by simpa [UInt8.le_iff_toNat_le] using hb
  rw [head.eq_def, if_neg hn, if_neg hc, if_pos hd]
  simp only []
  rw [if_pos h₁, if_pos h₂]

theorem head_four {b b₁ b₂ b₃ : UInt8} (hb : 0xF0 ≤ b.toNat ∧ b.toNat ≤ 0xF4)
    (h₁ : followsFour b b₁ = true) (h₂ : isContinuation b₂ = true)
    (h₃ : isContinuation b₃ = true) (rest : Bytes) :
    head b (b₁ :: b₂ :: b₃ :: rest) =
      .char (Char.ofNat (b.toNat % 8 * 262144 + payload b₁ * 4096 + payload b₂ * 64
        + payload b₃)) rest := by
  have hn : ¬ b < 0x80 := by rw [UInt8.lt_iff_toNat_lt]; simp; omega
  have hc : ¬ (0xC2 ≤ b && b ≤ 0xDF) = true := by simp [UInt8.le_iff_toNat_le]; omega
  have hd : ¬ (0xE0 ≤ b && b ≤ 0xEF) = true := by simp [UInt8.le_iff_toNat_le]; omega
  have he : (0xF0 ≤ b && b ≤ 0xF4) = true := by simpa [UInt8.le_iff_toNat_le] using hb
  rw [head.eq_def, if_neg hn, if_neg hc, if_neg hd, if_pos he]
  simp only []
  rw [if_pos h₁, if_pos h₂, if_pos h₃]

/-! ## The four lengths of a character -/

/-- What `head` takes off as a character has one of four lengths. -/
inductive Shape : UInt8 → Bytes → Char → Bytes → Prop
  | one {b : UInt8} {rest : Bytes} (hb : b.toNat < 0x80) :
      Shape b rest (Char.ofNat b.toNat) rest
  | two {b : UInt8} {rest : Bytes} (b₁ : UInt8) (hb : 0xC2 ≤ b.toNat ∧ b.toNat ≤ 0xDF)
      (h₁ : isContinuation b₁ = true) :
      Shape b (b₁ :: rest) (Char.ofNat (b.toNat % 32 * 64 + payload b₁)) rest
  | three {b : UInt8} {rest : Bytes} (b₁ b₂ : UInt8) (hb : 0xE0 ≤ b.toNat ∧ b.toNat ≤ 0xEF)
      (h₁ : followsThree b b₁ = true) (h₂ : isContinuation b₂ = true) :
      Shape b (b₁ :: b₂ :: rest)
        (Char.ofNat (b.toNat % 16 * 4096 + payload b₁ * 64 + payload b₂)) rest
  | four {b : UInt8} {rest : Bytes} (b₁ b₂ b₃ : UInt8) (hb : 0xF0 ≤ b.toNat ∧ b.toNat ≤ 0xF4)
      (h₁ : followsFour b b₁ = true) (h₂ : isContinuation b₂ = true)
      (h₃ : isContinuation b₃ = true) :
      Shape b (b₁ :: b₂ :: b₃ :: rest)
        (Char.ofNat (b.toNat % 8 * 262144 + payload b₁ * 4096 + payload b₂ * 64 + payload b₃)) rest

theorem head_eq_char_iff {b : UInt8} {tail rest : Bytes} {c : Char} :
    head b tail = .char c rest ↔ Shape b tail c rest := by
  constructor
  · intro h
    rw [head.eq_def] at h
    simp only [UInt8.lt_iff_toNat_lt, UInt8.le_iff_toNat_le, Bool.and_eq_true, decide_eq_true_eq,
      UInt8.reduceToNat] at h
    repeat' split at h
    all_goals cases h
    · exact .one ‹_›
    · exact .two _ ‹_› ‹_›
    · exact .three _ _ ‹_› ‹_› ‹_›
    · exact .four _ _ _ ‹_› ‹_› ‹_› ‹_›
  · intro h
    cases h with
    | one hb => exact head_one hb _
    | two b₁ hb h₁ => exact head_two hb h₁ _
    | three b₁ b₂ hb h₁ h₂ => exact head_three hb h₁ h₂ _
    | four b₁ b₂ b₃ hb h₁ h₂ h₃ => exact head_four hb h₁ h₂ h₃ _

theorem eq_ofNat_iff {b : UInt8} {n : Nat} (hn : n < 256) : b = UInt8.ofNat n ↔ b.toNat = n := by
  rw [← UInt8.toNat_inj, UInt8.toNat_ofNat', Nat.mod_eq_of_lt hn]

theorem encodeChar_one {n : Nat} (h : n < 0x80) :
    String.utf8EncodeChar (Char.ofNat n) = [UInt8.ofNat n] := by
  have hv := val_ofNat (n := n) (.inl (by omega))
  simp only [String.utf8EncodeChar, hv]
  rw [if_pos (by omega)]

theorem encodeChar_two {n : Nat} (h : 0x80 ≤ n ∧ n < 0x800) :
    String.utf8EncodeChar (Char.ofNat n) =
      [UInt8.ofNat (n / 64 % 32 + 0xC0), UInt8.ofNat (n % 64 + 0x80)] := by
  have hv := val_ofNat (n := n) (.inl (by omega))
  simp only [String.utf8EncodeChar, hv]
  rw [if_neg (by omega), if_pos (by omega)]

theorem encodeChar_three {n : Nat} (h : 0x800 ≤ n ∧ n < 0x10000)
    (hs : n < 0xD800 ∨ 0xE000 ≤ n) :
    String.utf8EncodeChar (Char.ofNat n) =
      [UInt8.ofNat (n / 4096 % 16 + 0xE0), UInt8.ofNat (n / 64 % 64 + 0x80),
        UInt8.ofNat (n % 64 + 0x80)] := by
  have hv := val_ofNat (n := n) (hs.imp id fun hs => ⟨by omega, by omega⟩)
  simp only [String.utf8EncodeChar, hv]
  rw [if_neg (by omega), if_neg (by omega), if_pos (by omega)]

theorem encodeChar_four {n : Nat} (h : 0x10000 ≤ n ∧ n < 0x110000) :
    String.utf8EncodeChar (Char.ofNat n) =
      [UInt8.ofNat (n / 262144 % 8 + 0xF0), UInt8.ofNat (n / 4096 % 64 + 0x80),
        UInt8.ofNat (n / 64 % 64 + 0x80), UInt8.ofNat (n % 64 + 0x80)] := by
  have hv := val_ofNat (n := n) (.inr (by omega))
  simp only [String.utf8EncodeChar, hv]
  rw [if_neg (by omega), if_neg (by omega), if_neg (by omega)]

theorem payload_lt (b : UInt8) : payload b < 64 := Nat.mod_lt _ (by decide)

theorem toNat_of_isContinuation {b : UInt8} (h : isContinuation b = true) :
    b.toNat = payload b + 0x80 := by
  have := isContinuation_iff.mp h
  rw [payload]
  omega

/-- A shape is the encoding of its character with more bytes after it. -/
theorem Shape.eq_encode {b : UInt8} {tail rest : Bytes} {c : Char} (h : Shape b tail c rest) :
    b :: tail = String.utf8EncodeChar c ++ rest := by
  cases h with
  | one hb => rw [encodeChar_one hb, UInt8.ofNat_toNat, List.singleton_append]
  | two b₁ hb h₁ =>
      have t₁ := toNat_of_isContinuation h₁
      have p₁ := payload_lt b₁
      rw [encodeChar_two (by omega)]
      simp only [List.cons_append, List.nil_append, List.cons.injEq, and_true]
      exact ⟨(eq_ofNat_iff (by omega)).mpr (by omega), (eq_ofNat_iff (by omega)).mpr (by omega)⟩
  | three b₁ b₂ hb h₁ h₂ =>
      obtain ⟨h₁, hl, hs⟩ := (followsThree_iff hb).mp h₁
      have t₁ := toNat_of_isContinuation h₁
      have t₂ := toNat_of_isContinuation h₂
      have p₁ := payload_lt b₁
      have p₂ := payload_lt b₂
      have hd : b.toNat % 16 * 4096 + payload b₁ * 64 + payload b₂ < 0xD800 ∨
          0xE000 ≤ b.toNat % 16 * 4096 + payload b₁ * 64 + payload b₂ := by
        rcases hs with hs | hs
        · exact .inl (by omega)
        · exact .inr (by omega)
      rw [encodeChar_three ⟨by omega, by omega⟩ hd]
      simp only [List.cons_append, List.nil_append, List.cons.injEq, and_true]
      exact ⟨(eq_ofNat_iff (by omega)).mpr (by omega), (eq_ofNat_iff (by omega)).mpr (by omega),
        (eq_ofNat_iff (by omega)).mpr (by omega)⟩
  | four b₁ b₂ b₃ hb h₁ h₂ h₃ =>
      obtain ⟨h₁, hl, hu⟩ := (followsFour_iff hb).mp h₁
      have t₁ := toNat_of_isContinuation h₁
      have t₂ := toNat_of_isContinuation h₂
      have t₃ := toNat_of_isContinuation h₃
      have p₁ := payload_lt b₁
      have p₂ := payload_lt b₂
      have p₃ := payload_lt b₃
      rw [encodeChar_four (by omega)]
      simp only [List.cons_append, List.nil_append, List.cons.injEq, and_true]
      exact ⟨(eq_ofNat_iff (by omega)).mpr (by omega), (eq_ofNat_iff (by omega)).mpr (by omega),
        (eq_ofNat_iff (by omega)).mpr (by omega), (eq_ofNat_iff (by omega)).mpr (by omega)⟩

theorem toNat_ofNat_of_lt {n : Nat} (h : n < 256) : (UInt8.ofNat n).toNat = n :=
  (eq_ofNat_iff h).mp rfl

theorem isContinuation_ofNat (n : Nat) : isContinuation (UInt8.ofNat (n % 64 + 0x80)) = true := by
  rw [isContinuation_iff, toNat_ofNat_of_lt (by omega)]
  omega

theorem payload_ofNat (n : Nat) : payload (UInt8.ofNat (n % 64 + 0x80)) = n % 64 := by
  rw [payload, toNat_ofNat_of_lt (by omega)]
  omega

/-- The encoding of a character has its shape, whatever follows it. -/
theorem shape_encodeChar (c : Char) (rest : Bytes) :
    ∃ b tail, String.utf8EncodeChar c = b :: tail ∧ Shape b (tail ++ rest) c rest := by
  -- Everything is said of the number `n` of the character, where `omega` can see it.
  have hv := isValidChar_val c
  have hc := ofNat_val c
  generalize c.val.toNat = n at hv hc
  subst hc
  by_cases h1 : n < 0x80
  · refine ⟨_, _, encodeChar_one h1, ?_⟩
    have hb := toNat_ofNat_of_lt (n := n) (by omega)
    have hs : Shape (UInt8.ofNat n) rest _ rest := .one (by omega)
    rwa [hb] at hs
  by_cases h2 : n < 0x800
  · refine ⟨_, _, encodeChar_two (by omega), ?_⟩
    have hb := toNat_ofNat_of_lt (n := n / 64 % 32 + 0xC0) (by omega)
    have hs := @Shape.two _ rest _ (by rw [hb]; omega) (isContinuation_ofNat n)
    rwa [hb, payload_ofNat, show (n / 64 % 32 + 0xC0) % 32 * 64 + n % 64 = n by omega] at hs
  by_cases h3 : n < 0x10000
  · refine ⟨_, _, encodeChar_three (by omega) (by omega), ?_⟩
    have hb := toNat_ofNat_of_lt (n := n / 4096 % 16 + 0xE0) (by omega)
    have h₁ := (followsThree_iff (b := UInt8.ofNat (n / 4096 % 16 + 0xE0)) (by omega)).mpr
      ⟨isContinuation_ofNat (n / 64), by rw [hb, payload_ofNat]; omega⟩
    have hs := @Shape.three _ rest _ _ (by rw [hb]; omega) h₁ (isContinuation_ofNat n)
    rwa [hb, payload_ofNat, payload_ofNat,
      show (n / 4096 % 16 + 0xE0) % 16 * 4096 + n / 64 % 64 * 64 + n % 64 = n by omega] at hs
  · refine ⟨_, _, encodeChar_four (by omega), ?_⟩
    have hb := toNat_ofNat_of_lt (n := n / 262144 % 8 + 0xF0) (by omega)
    have h₁ := (followsFour_iff (b := UInt8.ofNat (n / 262144 % 8 + 0xF0)) (by omega)).mpr
      ⟨isContinuation_ofNat (n / 4096), by rw [hb, payload_ofNat]; omega⟩
    have hs := @Shape.four _ rest _ _ _ (by rw [hb]; omega) h₁ (isContinuation_ofNat (n / 64))
      (isContinuation_ofNat n)
    rwa [hb, payload_ofNat, payload_ofNat, payload_ofNat,
      show (n / 262144 % 8 + 0xF0) % 8 * 262144 + n / 4096 % 64 * 4096 + n / 64 % 64 * 64 + n % 64
        = n by omega] at hs

/-! ## Whole byte strings -/

/-- `head` takes a character off the front exactly where its encoding stands. -/
theorem head_eq_char_iff_encode {b : UInt8} {tail rest : Bytes} {c : Char} :
    head b tail = .char c rest ↔ b :: tail = String.utf8EncodeChar c ++ rest := by
  rw [head_eq_char_iff]
  refine ⟨Shape.eq_encode, fun h => ?_⟩
  obtain ⟨b', tail', he, hs⟩ := shape_encodeChar c rest
  rw [he, List.cons_append] at h
  cases h
  exact hs

/-- Encodings are told apart by what they begin with. -/
theorem encodeChar_append_inj {c d : Char} {i j : Bytes}
    (h : String.utf8EncodeChar c ++ i = String.utf8EncodeChar d ++ j) : c = d ∧ i = j := by
  obtain ⟨b, tail, he, hs⟩ := shape_encodeChar c i
  have hc := head_eq_char_iff.mpr hs
  rw [he, List.cons_append] at h
  rw [head_eq_char_iff_encode.mpr h] at hc
  cases hc
  exact ⟨rfl, rfl⟩

theorem encode_cons (c : Char) (cs : List Char) :
    encode (c :: cs) = String.utf8EncodeChar c ++ encode cs := List.flatMap_cons ..

theorem encode_append (cs ds : List Char) : encode (cs ++ ds) = encode cs ++ encode ds :=
  List.flatMap_append

theorem decode_cons_char {b : UInt8} {tail rest : Bytes} {c : Char}
    (h : head b tail = .char c rest) : decode (b :: tail) = (decode rest).map (c :: ·) := by
  rw [decode]
  split
  · next hh _ => rw [h] at hh; cases hh
  · next hh _ =>
      rw [h] at hh
      cases hh
      cases decode rest <;> rfl

theorem decode_cons_broken {b : UInt8} {tail rest : Bytes} (h : head b tail = .broken rest) :
    decode (b :: tail) = .error (b :: tail) := by
  rw [decode]
  split
  · rfl
  · next hh _ => rw [h] at hh; cases hh

theorem decode_encode (cs : List Char) : decode (encode cs) = .ok cs := by
  induction cs with
  | nil => rw [encode, List.flatMap_nil, decode]
  | cons c cs ih =>
      obtain ⟨b, tail, he, hs⟩ := shape_encodeChar c (encode cs)
      rw [encode_cons, he, List.cons_append, decode_cons_char (head_eq_char_iff.mpr hs), ih]
      rfl

theorem decodeLossy_cons_char {b : UInt8} {tail rest : Bytes} {c : Char}
    (h : head b tail = .char c rest) : decodeLossy (b :: tail) = c :: decodeLossy rest := by
  rw [decodeLossy]
  split
  · next hh _ => rw [h] at hh; cases hh
  · next hh _ =>
      rw [h] at hh
      cases hh
      rfl

/-- Nothing is replaced in what is well-formed. -/
theorem decodeLossy_encode (cs : List Char) : decodeLossy (encode cs) = cs := by
  induction cs with
  | nil => rw [encode, List.flatMap_nil, decodeLossy]
  | cons c cs ih =>
      obtain ⟨b, tail, he, hs⟩ := shape_encodeChar c (encode cs)
      rw [encode_cons, he, List.cons_append, decodeLossy_cons_char (head_eq_char_iff.mpr hs), ih]

theorem eq_encode_of_decode {bytes : Bytes} {cs : List Char} (h : decode bytes = .ok cs) :
    bytes = encode cs := by
  induction bytes using decode.induct generalizing cs with
  | case1 =>
      rw [decode] at h
      cases h
      rfl
  | case2 b tail rest _ hh =>
      rw [decode_cons_broken hh] at h
      cases h
  | case3 b tail c rest _ hh ds hd ih =>
      rw [decode_cons_char hh, hd] at h
      cases h
      rw [head_eq_char_iff_encode.mp hh, encode_cons, ← ih hd]
  | case4 b tail c rest _ hh bad hd ih =>
      rw [decode_cons_char hh, hd] at h
      cases h

/-- Decoding accepts exactly the encodings, and gives back what was encoded. -/
theorem decode_eq_ok_iff {bytes : Bytes} {cs : List Char} :
    decode bytes = .ok cs ↔ bytes = encode cs :=
  ⟨eq_encode_of_decode, fun h => h ▸ decode_encode cs⟩

/-! ## Bytes that are ill-formed -/

theorem decodeLossy_cons_broken {b : UInt8} {tail rest : Bytes}
    (h : head b tail = .broken rest) :
    decodeLossy (b :: tail) = replacement :: decodeLossy rest := by
  rw [decodeLossy]
  split
  · next hh _ =>
      rw [h] at hh
      cases hh
      rfl
  · next hh _ => rw [h] at hh; cases hh

/-- Bytes that do not encode what they show as show a replacement character. -/
theorem eq_encode_or_replacement_mem (bytes : Bytes) :
    bytes = encode (decodeLossy bytes) ∨ replacement ∈ decodeLossy bytes := by
  induction bytes using decodeLossy.induct with
  | case1 =>
      rw [decodeLossy]
      exact .inl rfl
  | case2 b tail rest _ hh ih =>
      rw [decodeLossy_cons_broken hh]
      exact .inr List.mem_cons_self
  | case3 b tail c rest _ hh ih =>
      rw [decodeLossy_cons_char hh]
      rcases ih with ih | ih
      · rw [encode_cons, ← ih]
        exact .inl (head_eq_char_iff_encode.mp hh)
      · exact .inr (List.mem_cons_of_mem _ ih)

/-- Only their encoding shows as characters among which none is a replacement. -/
theorem decodeLossy_eq_iff {bytes : Bytes} {cs : List Char} (h : replacement ∉ cs) :
    decodeLossy bytes = cs ↔ bytes = encode cs := by
  constructor
  · rintro rfl
    exact (eq_encode_or_replacement_mem bytes).resolve_right h
  · rintro rfl
    exact decodeLossy_encode cs

/-! ## First bytes and continuation bytes -/

/-- The encoding of a character is a first byte and continuation bytes after it; it is
a single byte exactly where the character is below 128, and then that character. -/
theorem encodeChar_bytes (c : Char) :
    ∃ b tail, String.utf8EncodeChar c = b :: tail ∧ isContinuation b = false ∧
      (∀ x ∈ tail, isContinuation x = true) ∧
      (tail = [] ∧ b.toNat = c.toNat ∨ 0xC2 ≤ b.toNat ∧ 0x80 ≤ c.toNat) := by
  obtain ⟨b, tail, he, hs⟩ := shape_encodeChar c []
  rw [List.append_nil] at hs
  refine ⟨b, tail, he, ?_⟩
  have first (h : b.toNat < 0x80 ∨ 0xBF < b.toNat) : isContinuation b = false := by
    rw [← Bool.not_eq_true, isContinuation_iff]
    omega
  have value {n : Nat} (h : n.isValidChar) (hn : 0x80 ≤ n) : 0x80 ≤ (Char.ofNat n).toNat := by
    rw [Char.toNat, val_ofNat h]
    exact hn
  cases hs with
  | one hb =>
      refine ⟨first (.inl hb), List.forall_mem_nil _, .inl ⟨rfl, ?_⟩⟩
      exact (val_ofNat (.inl (by omega))).symm
  | two b₁ hb h₁ =>
      have t₁ := payload_lt b₁
      exact ⟨first (.inr (by omega)), by simpa using h₁,
        .inr ⟨hb.1, value (.inl (by omega)) (by omega)⟩⟩
  | three b₁ b₂ hb h₁ h₂ =>
      obtain ⟨c₁, hl, hs⟩ := (followsThree_iff hb).mp h₁
      have t₁ := payload_lt b₁
      have t₂ := payload_lt b₂
      have hv : (b.toNat % 16 * 4096 + payload b₁ * 64 + payload b₂).isValidChar := by
        rcases hs with hs | hs
        · exact .inl (by omega)
        · exact .inr ⟨by omega, by omega⟩
      exact ⟨first (.inr (by omega)), by simp [c₁, h₂], .inr ⟨by omega, value hv (by omega)⟩⟩
  | four b₁ b₂ b₃ hb h₁ h₂ h₃ =>
      obtain ⟨c₁, hl, hu⟩ := (followsFour_iff hb).mp h₁
      have t₂ := payload_lt b₂
      have t₃ := payload_lt b₃
      exact ⟨first (.inr (by omega)), by simp [c₁, h₂, h₃],
        .inr ⟨by omega, value (.inr ⟨by omega, by omega⟩) (by omega)⟩⟩

end EnumOrdering.Utf8

/-! ## What bytes show as -/

namespace EnumOrdering.Bytes

/-- The bytes of a text show as that text. -/
theorem display_ofText (s : String) : display (ofText s) = s := by
  rw [display, ofText, Utf8.decodeLossy_encode, String.ofList_toList]

/-- A text without replacement characters is shown by its own bytes only. -/
theorem display_eq_iff {bytes : Bytes} {text : String} (h : Utf8.replacement ∉ text.toList) :
    display bytes = text ↔ bytes = ofText text := by
  rw [display, ofText, ← Utf8.decodeLossy_eq_iff h]
  constructor
  · rintro rfl
    rw [String.toList_ofList]
  · intro hd
    rw [hd, String.ofList_toList]

end EnumOrdering.Bytes
