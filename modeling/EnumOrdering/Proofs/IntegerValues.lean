import EnumOrdering.Proofs.Json.IntegerText
import EnumOrdering.Proofs.ValuePlaces

/-!
# Integers as values

An integer comes to the text that it was written as. So it can be put between quotation
marks where it stands as the value of a record, and its key is the one of that text. No
other number has a text like it, and no other value that is not the text itself, so that it
is clear which records an integer shares its key with.
-/

namespace EnumOrdering

open Json

/-! ## Integers and their texts -/

namespace Json

theorem charsText_of_plain {cs : List Char} (h : ∀ c ∈ cs, PlainChar c) (k : Bytes) :
    CharsText (Utf8.encode cs ++ Sign.quote :: k) cs k := by
  induction cs with
  | nil => exact .close
  | cons c cs ih =>
      obtain ⟨hc, h⟩ := List.forall_mem_cons.mp h
      rw [Utf8.encode_cons, List.append_assoc]
      exact .plain hc (ih h)

theorem plainChar_of_mem_intDigits {z : Int} {c : Char} (h : c ∈ Decimal.intDigits z) :
    PlainChar c := by
  rcases Decimal.eq_minus_or_isDigit h with rfl | hc
  · exact ⟨by decide, by decide, by decide⟩
  · simp only [Char.isDigit, Bool.and_eq_true, decide_eq_true_eq, ge_iff_le,
      UInt32.le_iff_toNat_le] at hc
    have hl : 48 ≤ c.toNat := hc.1
    have hu : c.toNat ≤ 57 := hc.2
    refine ⟨?_, ?_, by omega⟩
    · rintro rfl
      exact absurd hl (by decide)
    · rintro rfl
      exact absurd hu (by decide)

/-- The decimal text of an integer between quotation marks. -/
def quotedInteger (z : Int) : Bytes :=
  Sign.quote :: (Utf8.encode (Decimal.intDigits z) ++ [Sign.quote])

theorem valueText_quotedInteger (room : Nat) (z : Int) (k : Bytes) :
    ValueText room (quotedInteger z ++ k) (.text (Decimal.intText z)) k := by
  have h : StringText (Utf8.encode (Decimal.intDigits z) ++ Sign.quote :: k)
      (Decimal.intText z) k := by
    rw [StringText, Decimal.intText, String.toList_ofList]
    exact charsText_of_plain (fun c => plainChar_of_mem_intDigits) k
  rw [quotedInteger, List.cons_append, List.append_assoc]
  exact (ScalarText.text h).valueText room

theorem valueText_integer (room : Nat) {z : Int} (hz : -2 ^ 63 ≤ z ∧ z < 2 ^ 64) (k : Bytes) :
    ValueText room (Utf8.encode (Decimal.intDigits z) ++ k) (.number (.integer z)) k :=
  (ScalarText.number (spells_integer hz k)).valueText room

theorem numberText_of_valueText {room : Nat} {i k : Bytes} {x : Number}
    (h : ValueText room i (.number x) k) : NumberText i x k := by
  obtain ⟨s, hs, hv⟩ := exists_scalarText h nofun nofun
  cases hs with
  | null => cases hv
  | true => cases hv
  | false => cases hv
  | number h =>
      cases hv
      exact h
  | text => cases hv

end Json

/-- The text of an integer is the key of the integer and of the text itself, and of no
other value. -/
theorem Record.key?_eq_intText_iff {v : Value} {z : Int} :
    key? v = some (Decimal.intText z) ↔
      v = .number (.integer z) ∨ v = .text (Decimal.intText z) := by
  have hw (word : String) (c : Char) (hc : c ∈ word.toList) (hn : c ≠ '-' ∧ c.isDigit = false) :
      word ≠ Decimal.intText z := by
    rintro rfl
    rw [Decimal.intText, String.toList_ofList] at hc
    rcases Decimal.eq_minus_or_isDigit hc with h | h
    · exact hn.1 h
    · rw [hn.2] at h
      cases h
  cases v with
  | null => simp [key?]
  | boolean b =>
      cases b with
      | false => simp [key?, hw "false" 'f' (by decide) (by decide)]
      | true => simp [key?, hw "true" 't' (by decide) (by decide)]
  | number x => simp [key?, text_eq_intText_iff]
  | text s => simp [key?]
  | array items => simp [key?]
  | object members => simp [key?]

namespace Mapping

variable {origin : String} {bytes : Bytes} {definition : Definition} {m : Mapping}

/-- A mapping answers with the order of the last record whose value comes to the key. -/
theorem get?_eq_find? (hd : Definition.decode bytes = .ok definition)
    (hm : parse origin bytes = .ok m) (key : String) :
    m.get? key = (definition.reverse.find? fun record =>
      Record.key? record.value = some key).map Record.order := by
  obtain ⟨_, hd', hm⟩ := decode_of_parse hm
  cases hd.symm.trans hd'
  obtain ⟨pairs, hs, rfl⟩ := Definition.mapping_eq_ok_iff.mp hm
  have hk : ∀ record pair, Record.Says record pair → ∀ key,
      decide (Record.key? record.value = some key) = true ↔ pair.1 = key := by
    intro record pair h key
    rw [decide_eq_true_iff]
    cases h <;> simp [Record.key?]
  have hu : ∀ record pair pair', Record.Says record pair → Record.Says record pair' →
      pair = pair' := by
    intro record pair pair' h h'
    rw [← Record.pair?_eq_some_iff] at h h'
    exact Option.some.inj (h.symm.trans h')
  refine Option.ext fun order => ?_
  rw [get?_ofPairs, lookup_eq_some_iff_find? hk hu (List.forall₂_reverse_iff.mpr hs),
    Option.map_eq_some_iff]
  refine exists_congr fun record => and_congr_right fun hf => ?_
  rw [← Record.pair?_eq_some_iff, Record.pair?]
  have hv : Record.key? record.value = some key := by simpa using List.find?_some hf
  simp [hv]

/-- An integer that 64 bits hold, with or without a sign, can be written as the value of a
record between quotation marks or without them, and no one could tell from the mapping. Its
text is the key of the two and of no other value: not of another integer, and not of any
number that is written in another way. Of the records with a key, of whichever kind, the
last gives the order. -/
theorem integers_are_keys_of_their_own :
    (∀ n : Int, -2 ^ 63 ≤ n ∧ n < 2 ^ 64 → ∀ before after v,
      Definition.HasValue before (Utf8.encode (Decimal.intDigits n)) after v → ∀ origin,
        parse origin (before ++ Utf8.encode (Decimal.intDigits n) ++ after) =
          parse origin (before ++ quotedInteger n ++ after)) ∧
    (∀ bytes definition, Definition.decode bytes = .ok definition → ∀ record ∈ definition,
      ∃ before word after, bytes = before ++ word ++ after ∧
        Definition.HasValue before word after record.value) ∧
    (∀ before word after n, Definition.HasValue before word after (.number (.integer n)) →
      (-2 ^ 63 ≤ n ∧ n < 2 ^ 64) ∧ word = Utf8.encode (Decimal.intDigits n)) ∧
    (∀ (n order) (earlier later : Definition) (origin : String),
      Definition.mapping origin (earlier ++ ⟨.number (.integer n), order⟩ :: later) =
        Definition.mapping origin (earlier ++ ⟨.text (Decimal.intText n), order⟩ :: later)) ∧
    (∀ m n : Int, Decimal.intText m = Decimal.intText n → m = n) ∧
    (∀ v n, Record.key? v = some (Decimal.intText n) ↔
      v = .number (.integer n) ∨ v = .text (Decimal.intText n)) ∧
    (∀ word x, NumberText word x [] → ∀ n, Record.key? (.number x) = some (Decimal.intText n) ↔
      (-2 ^ 63 ≤ n ∧ n < 2 ^ 64) ∧ word = Utf8.encode (Decimal.intDigits n)) ∧
    ∀ origin bytes definition m, Definition.decode bytes = .ok definition →
      parse origin bytes = .ok m → ∀ key, m.get? key = (definition.reverse.find? fun record =>
        Record.key? record.value = some key).map Record.order := by
  refine ⟨?_, fun _ _ hd _ hr => Definition.exists_hasValue hd hr, ?_, ?_,
    fun _ _ => Decimal.intText_inj, fun _ _ => Record.key?_eq_intText_iff, ?_,
    fun _ _ _ _ => get?_eq_find?⟩
  · intro n hn before after v h origin
    exact h.parse_eq (valueText_integer _ hn after) (valueText_quotedInteger _ n after) rfl rfl
      origin
  · intro before word after n h
    obtain ⟨hn, he⟩ := numberText_integer_iff.mp (numberText_of_valueText h.exchange.1)
    exact ⟨hn, List.append_cancel_right he⟩
  · intro n order earlier later origin
    have hn : Record.key? (.number (.integer n)) = some (Decimal.intText n) := rfl
    have ht : Record.key? (.text (Decimal.intText n)) = some (Decimal.intText n) := rfl
    rw [Definition.mapping, Definition.mapping, Definition.pairs_exchange hn ht]
  · intro word x hx n
    have hi := numberText_integer_iff (i := word) (k := []) (z := n)
    rw [List.append_nil] at hi
    rw [← hi]
    show some x.text = some (Decimal.intText n) ↔ _
    rw [Option.some.injEq, text_eq_intText_iff]
    constructor
    · rintro rfl
      exact hx
    · intro h
      have hk : Ends [] := trivial
      exact ((readNumber_of_numberText hx hk).unique (readNumber_of_numberText h hk)).1

/-- The least of the integers, in a record that is an array; and negative zero, whose text is
that of no integer. -/
theorem integers_are_keys_of_their_own_leastInteger :
    (∀ origin, parse origin (Bytes.ofText "[[-9223372036854775808,1]]") =
      parse origin (Bytes.ofText "[[\"-9223372036854775808\",1]]")) ∧
    ∃ x, NumberText (Bytes.ofText "-0") x [] ∧
      ∀ n, Record.key? (.number x) ≠ some (Decimal.intText n) := by
  have hr : -2 ^ 63 ≤ (-9223372036854775808 : Int) ∧ (-9223372036854775808 : Int) < 2 ^ 64 := by
    omega
  have hd : ∀ d ∈ [9, 2, 2, 3, 3, 7, 2, 0, 3, 6, 8, 5, 4, 7, 7, 5, 8, 0, 8], d < 10 := by decide
  have ht : Decimal.intDigits (-9223372036854775808) = "-9223372036854775808".toList :=
    (Decimal.intDigits_neg (by decide)).trans
      (congrArg ('-' :: ·) (isDigits_decimal hd (.inr ⟨_, _, rfl, by decide⟩)).text)
  have hv : Definition.HasValue [0x5B, 0x5B]
      (Utf8.encode (Decimal.intDigits (-9223372036854775808)))
      (Bytes.ofText ",1]]") (.number (.integer (-9223372036854775808))) :=
    ⟨_, [], 1, _, .refl _, .mk (.part (.first (.refl _)) (.pair (.first (.refl _))
      ⟨valueText_integer _ hr _, rfl⟩ (.next (.refl _) (.refl _))
      (.plain (.digits rfl (by decide) .nil) rfl) (.refl _)) (.close (.refl _))), .refl [],
      List.mem_cons_self⟩
  have hz : NumberText (Bytes.ofText "-0") (.real ⟨true, .zero⟩) [] :=
    ⟨⟨true, [0], none, none⟩, .minus (.mk .zero .missing .missing), by decide +kernel⟩
  obtain ⟨hparse, -, -, -, -, -, hreal, -⟩ := integers_are_keys_of_their_own
  refine ⟨fun origin => ?_, _, hz, fun n hn => ?_⟩
  · have h := hparse _ hr _ _ _ hv origin
    rw [quotedInteger, ht] at h
    exact h
  · obtain ⟨-, hw⟩ := (hreal _ _ hz n).mp hn
    have he := congrArg Utf8.decode hw
    rw [Bytes.ofText, Utf8.decode_encode, Utf8.decode_encode] at he
    have hp := Decimal.parseInt?_intDigits n
    rw [← Except.ok.inj he] at hp
    cases hp
    cases he

end Mapping

end EnumOrdering
