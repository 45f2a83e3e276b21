import EnumOrdering.Json.Text
import EnumOrdering.Proofs.Json.Reads
import EnumOrdering.Proofs.Text.Utf8

/-!
# The grammar of texts

A text is a row of characters, each of them written as its UTF-8 encoding or as an
escape, up to the closing quote. The reader works the other way round: it resolves the
escapes into bytes first and decodes the whole afterwards. `BytesText` is what it sees
in between. The two agree because an encoding begins with a byte that continues no
other: a character that the decoder finds cannot reach across the beginning of an
escape.
-/

namespace EnumOrdering.Json

/-! ## The grammar -/

/-- Four hexadecimal digits. -/
inductive HexText : Grammar Nat
  | mk {a b c d : UInt8} {w x y z : Nat} {k : Bytes} (ha : hexValue? a = some w)
      (hb : hexValue? b = some x) (hc : hexValue? c = some y) (hd : hexValue? d = some z) :
      HexText (a :: b :: c :: d :: k) (w * 4096 + x * 256 + y * 16 + z) k

/-- An escape after its backslash: by letter, by number, or by a pair of surrogates. -/
inductive EscapeText : Grammar Char
  | letter {b : UInt8} {c : Char} {k : Bytes} (h : escapedChar? b = some c) :
      EscapeText (b :: k) c k
  | unit {i k : Bytes} {n : Nat} (h : HexText i n k) (hl : isLowSurrogate n = false)
      (hh : isHighSurrogate n = false) : EscapeText (0x75 :: i) (Char.ofNat n) k
  | pair {i j k : Bytes} {high low : Nat} (h : HexText i high (Sign.backslash :: 0x75 :: j))
      (hh : isHighSurrogate high = true) (h' : HexText j low k)
      (hl : isLowSurrogate low = true) :
      EscapeText (0x75 :: i)
        (Char.ofNat ((high - 0xD800) * 1024 + (low - 0xDC00) + 0x10000)) k

/-- Whether a character may stand in a text as it is. -/
def PlainChar (c : Char) : Prop := c ≠ '"' ∧ c ≠ '\\' ∧ 0x20 ≤ c.toNat

/-- The characters of a text after its opening quote, and the closing one. -/
inductive CharsText : Grammar (List Char)
  | close {k : Bytes} : CharsText (Sign.quote :: k) [] k
  | plain {i k : Bytes} {c : Char} {cs : List Char} (hc : PlainChar c)
      (h : CharsText i cs k) : CharsText (String.utf8EncodeChar c ++ i) (c :: cs) k
  | escape {i j k : Bytes} {c : Char} {cs : List Char} (he : EscapeText i c j)
      (h : CharsText j cs k) : CharsText (Sign.backslash :: i) (c :: cs) k

/-- A text after its opening quote. -/
def StringText : Grammar String := fun i s k => CharsText i s.toList k

/-- The bytes of a text after its opening quote, with the escapes resolved. -/
inductive BytesText : Grammar Bytes
  | close {k : Bytes} : BytesText (Sign.quote :: k) [] k
  | plain {b : UInt8} {i bs k : Bytes} (hb : isPlain b = true) (h : BytesText i bs k) :
      BytesText (b :: i) (b :: bs) k
  | escape {i j bs k : Bytes} {c : Char} (he : EscapeText i c j) (h : BytesText j bs k) :
      BytesText (Sign.backslash :: i) (String.utf8EncodeChar c ++ bs) k

/-! ## Escapes -/

variable {i j k bs : Bytes} {n : Nat} {b : UInt8} {c : Char} {cs : List Char}

theorem gives_readHex : Gives (readHex i) n k ↔ HexText i n k := by
  constructor
  · intro h
    unfold readHex at h
    split at h
    · split at h
      · next ha hb hc hd =>
          obtain ⟨rfl, rfl⟩ := gives_ok.mp h
          exact .mk ha hb hc hd
      · exact (not_gives_error h).elim
    · exact (not_gives_error h).elim
  · intro h
    cases h with
    | mk ha hb hc hd =>
        rw [readHex, ha, hb, hc, hd]
        exact gives_ok.mpr ⟨rfl, rfl⟩

theorem readPair_of_hexText (high : Nat) {low : Nat} (h : HexText j low k)
    (hl : isLowSurrogate low = true) :
    Gives (readPair high (Sign.backslash :: 0x75 :: j))
      (Char.ofNat ((high - 0xD800) * 1024 + (low - 0xDC00) + 0x10000)) k := by
  obtain ⟨st, hs, rfl, rfl⟩ := gives_readHex.mpr h
  rw [readPair, if_neg (not_not_intro rfl), if_neg (not_not_intro rfl), hs]
  simp only [if_pos hl, gives_ok, and_self]

theorem hexText_of_readPair {high : Nat} (h : Gives (readPair high i) c k) :
    ∃ j low, i = Sign.backslash :: 0x75 :: j ∧ HexText j low k ∧ isLowSurrogate low = true ∧
      c = Char.ofNat ((high - 0xD800) * 1024 + (low - 0xDC00) + 0x10000) := by
  cases i with
  | nil => exact (not_gives_error h).elim
  | cons b i =>
      rw [readPair.eq_def] at h
      simp only [] at h
      split at h
      · exact (not_gives_error h).elim
      · next hb =>
          cases i with
          | nil => exact (not_gives_error h).elim
          | cons u j =>
              simp only [] at h
              split at h
              · exact (not_gives_error h).elim
              · next hu =>
                  split at h
                  · exact (not_gives_error h).elim
                  · next low hs =>
                      split at h
                      · next hl =>
                          simp only [gives_ok] at h
                          obtain ⟨hc, rfl⟩ := h
                          refine ⟨j, low.value, ?_, ?_, hl, hc.symm⟩
                          · rw [Classical.not_not.mp hb, Classical.not_not.mp hu]
                          · exact gives_readHex.mp ⟨low, hs, rfl, rfl⟩
                      · exact (not_gives_error h).elim

theorem readUnicode_of_hexText (h : HexText i n k) (hl : isLowSurrogate n = false)
    (hh : isHighSurrogate n = false) : Gives (readUnicode i) (Char.ofNat n) k := by
  obtain ⟨st, hs, rfl, rfl⟩ := gives_readHex.mpr h
  rw [readUnicode, hs]
  simp [hl, hh, Step.map]

theorem readUnicode_of_pair {high low : Nat} (h : HexText i high (Sign.backslash :: 0x75 :: j))
    (hh : isHighSurrogate high = true) (h' : HexText j low k)
    (hl : isLowSurrogate low = true) :
    Gives (readUnicode i) (Char.ofNat ((high - 0xD800) * 1024 + (low - 0xDC00) + 0x10000)) k := by
  obtain ⟨st, hs, rfl, hr⟩ := gives_readHex.mpr h
  have hn : isLowSurrogate st.value = false := by
    simp only [isHighSurrogate, Bool.and_eq_true, decide_eq_true_eq] at hh
    simp only [isLowSurrogate, Bool.and_eq_false_iff, decide_eq_false_iff_not]
    omega
  obtain ⟨st', hs', hv, rfl⟩ := hr ▸ readPair_of_hexText st.value h' hl
  rw [readUnicode, hs]
  simp [hn, hh, hs', hv, Step.after, Step.lift]

theorem escapeText_of_readUnicode (h : Gives (readUnicode i) c k) :
    EscapeText (0x75 :: i) c k := by
  rw [readUnicode] at h
  split at h
  · exact (not_gives_error h).elim
  · next unit hs =>
      have hx : HexText i unit.value unit.rest := gives_readHex.mp ⟨unit, hs, rfl, rfl⟩
      split at h
      · exact (not_gives_error h).elim
      · next hl =>
          split at h
          · next hh =>
              split at h
              · exact (not_gives_error h).elim
              · next st hp =>
                  obtain ⟨rfl, rfl⟩ := gives_ok.mp h
                  obtain ⟨j, low, hj, hx', hl', hc⟩ := hexText_of_readPair ⟨st, hp, rfl, rfl⟩
                  have he := EscapeText.pair (hj ▸ hx) hh hx' hl'
                  rwa [← hc] at he
          · next hh =>
              obtain ⟨rfl, rfl⟩ := gives_ok.mp h
              exact .unit hx (Bool.not_eq_true _ ▸ hl) (Bool.not_eq_true _ ▸ hh)

theorem gives_readEscape : Gives (readEscape i) c k ↔ EscapeText i c k := by
  constructor
  · intro h
    cases i with
    | nil => exact (not_gives_error h).elim
    | cons b i =>
        rw [readEscape] at h
        split at h
        · next hb =>
            obtain ⟨rfl, rfl⟩ := gives_ok.mp h
            exact .letter hb
        · split at h
          · next hu =>
              split at h
              · exact (not_gives_error h).elim
              · next st hs =>
                  obtain ⟨rfl, rfl⟩ := gives_ok.mp h
                  exact hu ▸ escapeText_of_readUnicode ⟨st, hs, rfl, rfl⟩
          · exact (not_gives_error h).elim
  · intro h
    cases h with
    | letter hb =>
        rw [readEscape, hb]
        exact gives_ok.mpr ⟨rfl, rfl⟩
    | unit h hl hh =>
        obtain ⟨st, hs, hv, rfl⟩ := readUnicode_of_hexText h hl hh
        rw [readEscape, show escapedChar? 0x75 = none from rfl]
        simp [hs, hv, Step.lift]
    | pair h hh h' hl =>
        obtain ⟨st, hs, hv, rfl⟩ := readUnicode_of_pair h hh h' hl
        rw [readEscape, show escapedChar? 0x75 = none from rfl]
        simp [hs, hv, Step.lift]

/-! ## The bytes of a text -/

theorem BytesText.run {run : Bytes} (hr : ∀ b ∈ run, isPlain b = true) (h : BytesText i bs k) :
    BytesText (run ++ i) (run ++ bs) k := by
  induction run with
  | nil => exact h
  | cons b run ih =>
      have hr := List.forall_mem_cons.mp hr
      exact .plain hr.1 (ih hr.2)

theorem all_takeWhile_isPlain (i : Bytes) : ∀ b ∈ i.takeWhile isPlain, isPlain b = true :=
  List.all_eq_true.mp List.all_takeWhile

theorem encode_singleton (c : Char) : Utf8.encode [c] = String.utf8EncodeChar c :=
  List.flatMap_singleton ..

theorem bytesText_of_readBytes (h : Gives (readBytes i) bs k) : BytesText i bs k := by
  induction hn : i.length using Nat.strongRecOn generalizing i bs with
  | _ n ih =>
      rw [readBytes] at h
      split at h
      · exact (not_gives_error h).elim
      · next b rest hd =>
          have hi : i = i.takeWhile isPlain ++ b :: rest := by
            rw [← hd, List.takeWhile_append_dropWhile]
          have hlt := length_drop_plain_le hd
          split at h
          · next hq =>
              obtain ⟨rfl, rfl⟩ := gives_ok.mp h
              have hr := BytesText.run (all_takeWhile_isPlain i) (BytesText.close (k := rest))
              rwa [List.append_nil, ← hq, ← hi] at hr
          · split at h
            · next hb =>
                split at h
                · exact (not_gives_error h).elim
                · next c hc =>
                    split at h
                    · exact (not_gives_error h).elim
                    · next others ho =>
                        obtain ⟨rfl, rfl⟩ := gives_ok.mp h
                        have hs := c.shorter
                        have he := gives_readEscape.mp ⟨c, hc, rfl, rfl⟩
                        have hr := ih c.rest.length (by omega) ⟨others, ho, rfl, rfl⟩ rfl
                        have hr := BytesText.run (all_takeWhile_isPlain i) (.escape he hr)
                        rw [← hb, ← hi] at hr
                        rw [encode_singleton, List.append_assoc]
                        exact hr
            · exact (not_gives_error h).elim

theorem readBytes_cons (hb : isPlain b = true) (h : Gives (readBytes i) bs k) :
    Gives (readBytes (b :: i)) (b :: bs) k := by
  have hd : (b :: i).dropWhile isPlain = i.dropWhile isPlain := by
    rw [List.dropWhile_cons, if_pos hb]
  have ht : (b :: i).takeWhile isPlain = b :: i.takeWhile isPlain := by
    rw [List.takeWhile_cons, if_pos hb]
  rw [readBytes] at h ⊢
  split at h
  · exact (not_gives_error h).elim
  · next c rest hi =>
      split
      · next hi' => rw [hd, hi] at hi'; cases hi'
      · next hi' =>
          rw [hd, hi] at hi'
          cases hi'
          split at h
          · next hq =>
              obtain ⟨rfl, rfl⟩ := gives_ok.mp h
              rw [if_pos hq]
              exact gives_ok.mpr ⟨ht, rfl⟩
          · next hq =>
              rw [if_neg hq]
              split at h
              · next hs =>
                  rw [if_pos hs]
                  split at h
                  · exact (not_gives_error h).elim
                  · next e he =>
                      split at h
                      · exact (not_gives_error h).elim
                      · next others ho =>
                          obtain ⟨rfl, rfl⟩ := gives_ok.mp h
                          exact gives_ok.mpr ⟨by rw [ht]; rfl, rfl⟩
              · exact (not_gives_error h).elim

theorem readBytes_of_bytesText (h : BytesText i bs k) : Gives (readBytes i) bs k := by
  induction h with
  | @close k =>
      rw [readBytes]
      split
      · next hd => cases hd
      · next hd =>
          cases hd
          rw [if_pos rfl]
          exact gives_ok.mpr ⟨rfl, rfl⟩
  | plain hb _ ih => exact readBytes_cons hb ih
  | @escape i j bs k c he _ ih =>
      obtain ⟨e, he', rfl, rfl⟩ := gives_readEscape.mpr he
      obtain ⟨others, ho, rfl, rfl⟩ := ih
      rw [readBytes]
      split
      · next hd => cases hd
      · next hd =>
          cases hd
          rw [if_neg (by decide), if_pos rfl]
          rw [he']
          simp only [ho]
          exact gives_ok.mpr ⟨by rw [encode_singleton]; rfl, rfl⟩

theorem gives_readBytes : Gives (readBytes i) bs k ↔ BytesText i bs k :=
  ⟨bytesText_of_readBytes, readBytes_of_bytesText⟩

/-! ## From bytes to characters -/

theorem isPlain_iff : isPlain b = true ↔ b ≠ Sign.quote ∧ b ≠ Sign.backslash ∧ 0x20 ≤ b.toNat := by
  simp [isPlain, UInt8.le_iff_toNat_le, and_assoc]

/-- A byte that continues a character was written as it stands. -/
theorem BytesText.cons_continuation (hb : Utf8.isContinuation b = true)
    (h : BytesText i (b :: bs) k) : ∃ j, i = b :: j ∧ BytesText j bs k := by
  generalize hx : b :: bs = xs at h
  cases h with
  | close => cases hx
  | plain _ h => cases hx; exact ⟨_, rfl, h⟩
  | @escape _ _ _ _ c _ _ =>
      obtain ⟨b', tail, hc, hf, _⟩ := Utf8.encodeChar_bytes c
      rw [hc] at hx
      cases hx
      rw [hb] at hf
      cases hf

theorem BytesText.append_continuation {tail : Bytes}
    (ht : ∀ b ∈ tail, Utf8.isContinuation b = true) (h : BytesText i (tail ++ bs) k) :
    ∃ j, i = tail ++ j ∧ BytesText j bs k := by
  induction tail generalizing i with
  | nil => exact ⟨i, rfl, h⟩
  | cons b tail ih =>
      have ht := List.forall_mem_cons.mp ht
      obtain ⟨j, rfl, h'⟩ := h.cons_continuation ht.1
      obtain ⟨l, rfl, h''⟩ := ih ht.2 h'
      exact ⟨l, rfl, h''⟩

theorem plainChar_of_isPlain {tail : Bytes} (hc : String.utf8EncodeChar c = b :: tail)
    (hb : isPlain b = true) : PlainChar c := by
  obtain ⟨b', tail', hc', _, _, hs⟩ := Utf8.encodeChar_bytes c
  rw [hc] at hc'
  cases hc'
  obtain ⟨hq, hs', hl⟩ := isPlain_iff.mp hb
  rcases hs with ⟨_, hv⟩ | ⟨_, hv⟩
  · refine ⟨?_, ?_, by omega⟩
    · rintro rfl
      exact hq (UInt8.toNat_inj.mp hv)
    · rintro rfl
      exact hs' (UInt8.toNat_inj.mp hv)
  · refine ⟨?_, ?_, by omega⟩
    · rintro rfl
      exact absurd hv (by decide)
    · rintro rfl
      exact absurd hv (by decide)

theorem isPlain_of_plainChar (hc : PlainChar c) :
    ∀ b ∈ String.utf8EncodeChar c, isPlain b = true := by
  obtain ⟨b, tail, he, _, ht, hs⟩ := Utf8.encodeChar_bytes c
  have large {x : UInt8} (hx : 0x80 ≤ x.toNat) : isPlain x = true := by
    refine isPlain_iff.mpr ⟨?_, ?_, by omega⟩
    · rintro rfl
      exact absurd hx (by decide)
    · rintro rfl
      exact absurd hx (by decide)
  rw [he]
  refine List.forall_mem_cons.mpr ⟨?_, fun x hx => large (Utf8.isContinuation_iff.mp (ht x hx)).1⟩
  rcases hs with ⟨_, hv⟩ | ⟨hb, _⟩
  · refine isPlain_iff.mpr ⟨?_, ?_, by have := hc.2.2; omega⟩
    · rintro rfl
      exact hc.1 (Char.toNat_inj.mp hv.symm)
    · rintro rfl
      exact hc.2.1 (Char.toNat_inj.mp hv.symm)
  · exact large (by omega)

theorem charsText_of_bytesText (h : BytesText i (Utf8.encode cs) k) : CharsText i cs k := by
  induction cs generalizing i with
  | nil =>
      generalize hx : Utf8.encode [] = xs at h
      cases h with
      | close => exact .close
      | plain => cases hx
      | @escape _ _ _ _ c _ _ =>
          obtain ⟨b', tail, hc, _⟩ := Utf8.encodeChar_bytes c
          rw [hc] at hx
          cases hx
  | cons c cs ih =>
      obtain ⟨b, tail, hc, _, ht, _⟩ := Utf8.encodeChar_bytes c
      rw [Utf8.encode_cons] at h
      generalize hx : String.utf8EncodeChar c ++ Utf8.encode cs = xs at h
      -- The first byte of `c` was plain or came from an escape, and so did all of `c`.
      cases h with
      | close => rw [hc] at hx; cases hx
      | plain hb h =>
          rw [hc] at hx
          cases hx
          obtain ⟨j, rfl, h'⟩ := h.append_continuation ht
          have hp := CharsText.plain (plainChar_of_isPlain hc hb) (ih h')
          rwa [hc] at hp
      | escape he h =>
          obtain ⟨rfl, rfl⟩ := Utf8.encodeChar_append_inj hx
          exact .escape he (ih h)

theorem bytesText_of_charsText (h : CharsText i cs k) : BytesText i (Utf8.encode cs) k := by
  induction h with
  | close => exact .close
  | @plain i k c cs hc _ ih =>
      rw [Utf8.encode_cons]
      exact ih.run (isPlain_of_plainChar hc)
  | @escape i j k c cs he _ ih =>
      rw [Utf8.encode_cons]
      exact .escape he ih

/-- The reader of texts takes their grammar. -/
theorem gives_readText {s : String} : Gives (readText i) s k ↔ StringText i s k := by
  rw [readText, StringText]
  constructor
  · intro h
    split at h
    · exact (not_gives_error h).elim
    · next st hs =>
        split at h
        · next cs hd =>
            obtain ⟨rfl, rfl⟩ := gives_ok.mp h
            have hb := gives_readBytes.mp ⟨st, hs, rfl, rfl⟩
            rw [Utf8.decode_eq_ok_iff.mp hd] at hb
            rw [Step.map, String.toList_ofList]
            exact charsText_of_bytesText hb
        · exact (not_gives_error h).elim
  · intro h
    obtain ⟨st, hs, hv, rfl⟩ := gives_readBytes.mpr (bytesText_of_charsText h)
    rw [hs]
    simp only [Utf8.decode_eq_ok_iff.mpr hv]
    exact gives_ok.mpr ⟨String.ofList_toList, rfl⟩

end EnumOrdering.Json
