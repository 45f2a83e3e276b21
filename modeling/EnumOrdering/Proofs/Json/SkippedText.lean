import EnumOrdering.Proofs.Json.ContainerText
import EnumOrdering.Proofs.Json.NumberText

/-!
# The grammar of values that nobody asked for

The same containers as elsewhere, but texts are looser: any bytes may stand in them and
an escape by number needs four hexadecimal digits and nothing else. Numbers may have any
size, for they are given no value.

The code keeps the open containers on a stack. `Closes` says what a stack stands for:
the rest of its innermost container, then the rest of the next one, and so on. With it
one induction on the length of the input covers both functions of the code, and in the
other direction one induction on the derivation does, where `Resumes` says that the code
gets to the end of the stack from where the value stops.
-/

namespace EnumOrdering.Json

/-! ## The grammar -/

/-- A text after its opening quote. -/
inductive SkippedText : Bytes → Bytes → Prop
  | close {k : Bytes} : SkippedText (Sign.quote :: k) k
  | plain {b : UInt8} {i k : Bytes} (hb : isPlain b = true) (h : SkippedText i k) :
      SkippedText (b :: i) k
  | letter {b : UInt8} {i k : Bytes} (hb : isEscapeLetter b = true) (h : SkippedText i k) :
      SkippedText (Sign.backslash :: b :: i) k
  | unit {i j k : Bytes} {n : Nat} (hn : HexText i n j) (h : SkippedText j k) :
      SkippedText (Sign.backslash :: 0x75 :: i) k

/-- A value without parts. -/
inductive SkippedScalar : Bytes → Bytes → Prop
  | null {k : Bytes} : SkippedScalar ([0x6E, 0x75, 0x6C, 0x6C] ++ k) k
  | true {k : Bytes} : SkippedScalar ([0x74, 0x72, 0x75, 0x65] ++ k) k
  | false {k : Bytes} : SkippedScalar ([0x66, 0x61, 0x6C, 0x73, 0x65] ++ k) k
  | number {i k : Bytes} {n : Numeral} (h : NumeralText i n k) : SkippedScalar i k
  | text {i k : Bytes} (h : SkippedText i k) : SkippedScalar (Sign.quote :: i) k

/-- What stands before the value of a part: a name and a colon in an object. -/
inductive SkippedName : Frame → Bytes → Bytes → Prop
  | array {i : Bytes} : SkippedName .array i i
  | object {i c k : Bytes} (h : SkippedText i c) (hc : Blanks c (Sign.colon :: k)) :
      SkippedName .object (Sign.quote :: i) k

/-- The sign that opens a container. -/
def Frame.opening : Frame → UInt8
  | .array => Sign.openBracket
  | .object => Sign.openBrace

mutual

/-- A value of any depth. -/
inductive SkippedValue : Bytes → Bytes → Prop
  | scalar {i k : Bytes} (h : SkippedScalar i k) : SkippedValue i k
  | container {frame : Frame} {i k : Bytes} (h : SkippedParts frame true i k) :
      SkippedValue (frame.opening :: i) k

/-- The parts of a container after its opening sign, and the closing one. -/
inductive SkippedParts : Frame → Bool → Bytes → Bytes → Prop
  | close {frame : Frame} {first : Bool} {i k : Bytes} (h : Blanks i (frame.close :: k)) :
      SkippedParts frame first i k
  | part {frame : Frame} {first : Bool} {i j n v l k : Bytes} (hl : Lead first i j)
      (hn : SkippedName frame j n) (hb : Blanks n v) (hv : SkippedValue v l)
      (h : SkippedParts frame false l k) : SkippedParts frame first i k

end

/-! ## Texts -/

variable {i j k l : Bytes} {b : UInt8} {frame : Frame} {first : Bool}

theorem SkippedText.run {run : Bytes} (hr : ∀ b ∈ run, isPlain b = true)
    (h : SkippedText i k) : SkippedText (run ++ i) k := by
  induction run with
  | nil => exact h
  | cons b run ih =>
      have hr := List.forall_mem_cons.mp hr
      exact .plain hr.1 (ih hr.2)

theorem skippedText_of_skipText (h : Gives (skipText i) () k) : SkippedText i k := by
  induction hn : i.length using Nat.strongRecOn generalizing i with
  | _ n ih =>
      rw [skipText] at h
      split at h
      · exact (not_gives_error h).elim
      · next b rest hd =>
          have hi : i = i.takeWhile isPlain ++ b :: rest := by
            rw [← hd, List.takeWhile_append_dropWhile]
          have hlt := length_drop_plain_le hd
          -- The plain bytes in front are put back; the byte that ends them decides the rest.
          suffices SkippedText (b :: rest) k by
            rw [hi]
            exact this.run (all_takeWhile_isPlain i)
          split at h
          · next hq =>
              obtain ⟨_, rfl⟩ := gives_ok.mp h
              exact hq ▸ .close
          · split at h
            · next hb =>
                cases rest with
                | nil => exact (not_gives_error h).elim
                | cons c rest =>
                    dsimp only at h
                    rw [List.length_cons] at hlt
                    split at h
                    · next hc =>
                        split at h
                        · exact (not_gives_error h).elim
                        · next st hs =>
                            obtain ⟨_, rfl⟩ := gives_ok.mp h
                            have hr := ih rest.length (by omega) ⟨st, hs, rfl, rfl⟩ rfl
                            have ht := SkippedText.letter hc hr
                            rw [← hb] at ht
                            exact ht
                    · split at h
                      · next hu =>
                          split at h
                          · exact (not_gives_error h).elim
                          · next unit hx =>
                              split at h
                              · exact (not_gives_error h).elim
                              · next st hs =>
                                  obtain ⟨_, rfl⟩ := gives_ok.mp h
                                  have hlt' := unit.shorter
                                  have hx := gives_readHex.mp ⟨unit, hx, rfl, rfl⟩
                                  have hr := ih unit.rest.length (by omega)
                                    ⟨st, hs, rfl, rfl⟩ rfl
                                  have ht := SkippedText.unit hx hr
                                  rw [← hb, ← hu] at ht
                                  exact ht
                      · exact (not_gives_error h).elim
            · exact (not_gives_error h).elim

theorem skipText_cons (hb : isPlain b = true) (h : Gives (skipText i) () k) :
    Gives (skipText (b :: i)) () k := by
  have hd : (b :: i).dropWhile isPlain = i.dropWhile isPlain := by
    rw [List.dropWhile_cons, if_pos hb]
  rw [skipText] at h ⊢
  split at h
  · exact (not_gives_error h).elim
  · next c rest hi =>
      split
      · next hi' => rw [hd, hi] at hi'; cases hi'
      · next hi' =>
          rw [hd, hi] at hi'
          cases hi'
          split at h
          · next hq =>
              obtain ⟨_, rfl⟩ := gives_ok.mp h
              rw [if_pos hq]
              exact gives_ok.mpr ⟨rfl, rfl⟩
          · next hq =>
              rw [if_neg hq]
              split at h
              · next hs =>
                  rw [if_pos hs]
                  cases rest with
                  | nil => exact (not_gives_error h).elim
                  | cons c rest =>
                      dsimp only at h ⊢
                      split at h
                      · next hc =>
                          rw [if_pos hc]
                          split at h
                          · exact (not_gives_error h).elim
                          · next st hst =>
                              obtain ⟨_, rfl⟩ := gives_ok.mp h
                              exact gives_ok.mpr ⟨rfl, rfl⟩
                      · next hc =>
                          rw [if_neg hc]
                          split at h
                          · next hu =>
                              rw [if_pos hu]
                              split at h
                              · exact (not_gives_error h).elim
                              · split at h
                                · exact (not_gives_error h).elim
                                · obtain ⟨_, rfl⟩ := gives_ok.mp h
                                  exact gives_ok.mpr ⟨rfl, rfl⟩
                          · exact (not_gives_error h).elim
              · exact (not_gives_error h).elim

theorem skipText_of_skippedText (h : SkippedText i k) : Gives (skipText i) () k := by
  induction h with
  | close =>
      rw [skipText]
      split
      · next hd => cases hd
      · next hd =>
          cases hd
          rw [if_pos rfl]
          exact gives_ok.mpr ⟨rfl, rfl⟩
  | plain hb _ ih => exact skipText_cons hb ih
  | letter hb _ ih =>
      obtain ⟨st, hs, _, rfl⟩ := ih
      rw [skipText]
      split
      · next hd => cases hd
      · next hd =>
          cases hd
          rw [if_neg (by decide), if_pos rfl]
          dsimp only
          rw [if_pos hb, hs]
          exact gives_ok.mpr ⟨rfl, rfl⟩
  | unit hn _ ih =>
      obtain ⟨st, hs, _, rfl⟩ := ih
      obtain ⟨unit, hu, _, rfl⟩ := gives_readHex.mpr hn
      rw [skipText]
      split
      · next hd => cases hd
      · next hd =>
          cases hd
          rw [if_neg (by decide), if_pos rfl]
          dsimp only
          rw [if_neg (by decide), if_pos rfl, hu]
          simp only [hs]
          exact gives_ok.mpr ⟨rfl, rfl⟩

/-! ## What a value begins with -/

theorem SkippedScalar.begins (h : SkippedScalar i k) : Begins i := by
  cases h with
  | null => exact ⟨rfl, by decide⟩
  | true => exact ⟨rfl, by decide⟩
  | false => exact ⟨rfl, by decide⟩
  | number h =>
      obtain ⟨b, t, rfl, hb⟩ := h.head
      exact begins_of_numeric hb
  | text => exact ⟨rfl, by decide⟩

theorem SkippedValue.begins (h : SkippedValue i k) : Begins i := by
  cases h with
  | scalar h => exact h.begins
  | @container frame _ _ _ => cases frame <;> exact ⟨rfl, by decide⟩

/-- What an opening says about the input it was found in. -/
def Opens {i : Bytes} : Opening i → Prop
  | .scalar k _ => ∃ j, Blanks i j ∧ SkippedScalar j k
  | .container frame k _ => Blanks i (frame.opening :: k)

theorem opens_map {r : Except Fault (Step Unit j)} {f : Step Unit j → Step Unit i}
    {o : Opening i} (h : (r.map fun st => Opening.ofStep (f st)) = .ok o)
    (hf : ∀ st, r = .ok st → ∃ j, Blanks i j ∧ SkippedScalar j (f st).rest) : Opens o := by
  cases r with
  | error e => cases h
  | ok st =>
      cases h
      exact hf st rfl

theorem opens_of_skipOpening {o : Opening i} (h : skipOpening i = .ok o) : Opens o := by
  rw [skipOpening] at h
  split at h
  · cases h
  · next b t hs =>
      have hb := blanks_of_skipBlank hs
      dsimp only at h
      split at h
      · next hn =>
          refine opens_map h fun st hst => ⟨b :: t, hb, ?_⟩
          obtain ⟨_, ht⟩ := (gives_readTail _).mp ⟨st, hst, rfl, rfl⟩
          rw [hn, ht]
          exact .null
      · split at h
        · next hn =>
            refine opens_map h fun st hst => ⟨b :: t, hb, ?_⟩
            obtain ⟨_, ht⟩ := (gives_readTail _).mp ⟨st, hst, rfl, rfl⟩
            rw [hn, ht]
            exact .true
        · split at h
          · next hn =>
              refine opens_map h fun st hst => ⟨b :: t, hb, ?_⟩
              obtain ⟨_, ht⟩ := (gives_readTail _).mp ⟨st, hst, rfl, rfl⟩
              rw [hn, ht]
              exact .false
          · split at h
            · next hn =>
                refine opens_map h fun st hst => ⟨b :: t, hb, ?_⟩
                obtain ⟨n, ht⟩ := unsignedText_of_skipNumber true ⟨st, hst, rfl, rfl⟩
                show SkippedScalar (b :: t) st.rest
                rw [hn]
                exact .number (.minus ht)
            · split at h
              · refine opens_map h fun st hst => ⟨b :: t, hb, ?_⟩
                obtain ⟨n, ht⟩ := unsignedText_of_skipNumber false ⟨st, hst, rfl, rfl⟩
                exact .number (.plain ht)
              · split at h
                · next hn =>
                    refine opens_map h fun st hst => ⟨b :: t, hb, ?_⟩
                    show SkippedScalar (b :: t) st.rest
                    rw [hn]
                    exact .text (skippedText_of_skipText ⟨st, hst, rfl, rfl⟩)
                · split at h
                  · next hn =>
                      cases h
                      exact hn ▸ hb
                  · split at h
                    · next hn =>
                        cases h
                        exact hn ▸ hb
                    · cases h

theorem map_of_gives {r : Except Fault (Step Unit j)} {f : Step Unit j → Step Unit i}
    (h : Gives r () k) (hf : ∀ st, (f st).rest = st.rest) :
    ∃ lt, (r.map fun st => Opening.ofStep (f st)) = .ok (.scalar k lt) := by
  obtain ⟨st, rfl, _, rfl⟩ := h
  rw [← hf st]
  exact ⟨_, rfl⟩

theorem skipOpening_of_skippedScalar (hb : Blanks i j) (h : SkippedScalar j k) (hk : Ends k) :
    ∃ lt, skipOpening i = .ok (.scalar k lt) := by
  obtain ⟨b, t, rfl, hn, _⟩ := h.begins.eq_cons
  rw [skipOpening]
  split
  · next hs => rw [skipBlank_of_blanks hb hn] at hs; cases hs
  · next hs =>
      rw [skipBlank_of_blanks hb hn] at hs
      cases hs
      dsimp only
      cases h with
      | null =>
          rw [if_pos rfl]
          exact map_of_gives ((gives_readTail _).mpr ⟨rfl, rfl⟩) fun _ => rfl
      | true =>
          rw [if_neg (by decide), if_pos rfl]
          exact map_of_gives ((gives_readTail _).mpr ⟨rfl, rfl⟩) fun _ => rfl
      | false =>
          rw [if_neg (by decide), if_neg (by decide), if_pos rfl]
          exact map_of_gives ((gives_readTail _).mpr ⟨rfl, rfl⟩) fun _ => rfl
      | number h =>
          cases h with
          | plain h =>
              obtain ⟨_, _, hbt, hd⟩ := h.head
              cases hbt
              rw [if_neg (ne_of_kind hd rfl), if_neg (ne_of_kind hd rfl),
                if_neg (ne_of_kind hd rfl), if_neg (ne_of_kind hd rfl), if_pos hd]
              exact map_of_gives (skipNumber_of_unsignedText h hk) fun _ => rfl
          | minus h =>
              rw [if_neg (by decide), if_neg (by decide), if_neg (by decide), if_pos rfl]
              exact map_of_gives (skipNumber_of_unsignedText h hk) fun _ => rfl
      | text h =>
          rw [if_neg (by decide), if_neg (by decide), if_neg (by decide), if_neg (by decide),
            if_neg (by decide), if_pos rfl]
          exact map_of_gives (skipText_of_skippedText h) fun _ => rfl

theorem skipOpening_of_opening (hb : Blanks i (frame.opening :: k)) :
    ∃ lt, skipOpening i = .ok (.container frame k lt) := by
  have hn : isBlank frame.opening = false := by cases frame <;> rfl
  rw [skipOpening]
  split
  · next hs => rw [skipBlank_of_blanks hb hn] at hs; cases hs
  · next hs =>
      rw [skipBlank_of_blanks hb hn] at hs
      cases hs
      cases frame <;> exact ⟨length_lt_of_skipBlank (skipBlank_of_blanks hb rfl), rfl⟩

/-! ## Names -/

theorem skippedName_of_skipName {p : Part Unit i} (h : skipName frame i = .ok p) :
    ∃ j, Blanks i j ∧ SkippedName frame j p.rest := by
  cases frame with
  | array =>
      cases h
      exact ⟨i, .refl i, .array⟩
  | object =>
      rw [skipName] at h
      split at h
      · cases h
      · next hs =>
          split at h
          · next hq =>
              split at h
              · cases h
              · next name hn =>
                  split at h
                  · cases h
                  · next colon hc =>
                      cases h
                      have ht := skippedText_of_skipText ⟨name, hn, rfl, rfl⟩
                      have hc := gives_readColon.mp ⟨colon, hc, rfl, rfl⟩
                      exact ⟨_, hq ▸ blanks_of_skipBlank hs, .object ht hc⟩
          · cases h

theorem skipName_of_skippedName {n : Bytes} (hb : Blanks i j) (h : SkippedName frame j n) :
    ∃ p, skipName frame i = .ok p ∧ Blanks p.rest n := by
  cases h with
  | array => exact ⟨_, rfl, hb⟩
  | object h hc =>
      obtain ⟨name, hn, _, rfl⟩ := skipText_of_skippedText h
      obtain ⟨colon, hc', _, rfl⟩ := gives_readColon.mpr hc
      rw [skipName]
      split
      · next hs => rw [skipBlank_of_blanks hb rfl] at hs; cases hs
      · next hs =>
          rw [skipBlank_of_blanks hb rfl] at hs
          cases hs
          rw [if_pos rfl, hn]
          simp only [hc']
          exact ⟨⟨none, colon.rest, _⟩, rfl, .refl _⟩

/-! ## The stack -/

/-- The rest of the open containers, from the innermost one out. -/
inductive Closes : List Frame → Bytes → Bytes → Prop
  | nil {i : Bytes} : Closes [] i i
  | cons {frame : Frame} {outer : List Frame} {i l k : Bytes}
      (h : SkippedParts frame false i l) (ho : Closes outer l k) : Closes (frame :: outer) i k

/-- What is passed over from a value on is the value and the rest of the stack. -/
def IntoSound (n : Nat) : Prop :=
  ∀ stack i k, i.length < n → Gives (skipInto stack i) () k →
    ∃ j l, Blanks i j ∧ SkippedValue j l ∧ Closes stack l k

/-- The same from within a container, where `comma` says that no part comes first. -/
def OutSound (n : Nat) : Prop :=
  ∀ frame outer comma i k, i.length < n → Gives (skipOut frame outer comma i) () k →
    ∃ l, SkippedParts frame (!comma) i l ∧ Closes outer l k

theorem intoSound_succ {n : Nat} (ih : OutSound n) : IntoSound (n + 1) := by
  intro stack i k hn h
  rw [skipInto] at h
  split at h
  · exact (not_gives_error h).elim
  · next rest lt ho =>
      obtain ⟨j, hj, hs⟩ := opens_of_skipOpening ho
      cases stack with
      | nil =>
          obtain ⟨_, rfl⟩ := gives_ok.mp h
          exact ⟨j, rest, hj, .scalar hs, .nil⟩
      | cons frame outer =>
          dsimp only at h
          split at h
          · exact (not_gives_error h).elim
          · next st hst =>
              obtain ⟨_, rfl⟩ := gives_ok.mp h
              obtain ⟨l, hl, hc⟩ := ih frame outer true rest _ (by omega) ⟨st, hst, rfl, rfl⟩
              exact ⟨j, rest, hj, .scalar hs, .cons hl hc⟩
  · next frame rest lt ho =>
      have hj := opens_of_skipOpening ho
      split at h
      · exact (not_gives_error h).elim
      · next st hst =>
          obtain ⟨_, rfl⟩ := gives_ok.mp h
          obtain ⟨l, hl, hc⟩ := ih frame stack false rest _ (by omega) ⟨st, hst, rfl, rfl⟩
          exact ⟨_, l, hj, .container hl, hc⟩

/-- One part of a container, from its name on. -/
theorem parts_of_name {frame : Frame} {outer : List Frame} {p : Part Unit j}
    (hi : IntoSound (j.length + 1)) (hl : ∀ j', Blanks j j' → Lead first i j')
    (hp : skipName frame j = .ok p) (h : Gives (skipInto (frame :: outer) p.rest) () k) :
    ∃ l, SkippedParts frame first i l ∧ Closes outer l k := by
  obtain ⟨j', hj, hn⟩ := skippedName_of_skipName hp
  obtain ⟨v, l, hb, hv, hc⟩ := hi _ _ _ (Nat.lt_succ_of_le p.le) h
  cases hc with
  | cons hs ho => exact ⟨_, .part (hl j' hj) hn hb hv hs, ho⟩

theorem outSound_succ {n : Nat} (hi : IntoSound (n + 1)) (ih : OutSound n) :
    OutSound (n + 1) := by
  intro frame outer comma i k hn h
  rw [skipOut] at h
  split at h
  · exact (not_gives_error h).elim
  · next b rest hs =>
      have hb := blanks_of_skipBlank hs
      have lt := length_lt_of_skipBlank hs
      have le := length_le_of_skipBlank hs
      dsimp only at h
      split at h
      · next hc =>
          cases outer with
          | nil =>
              obtain ⟨_, rfl⟩ := gives_ok.mp h
              exact ⟨rest, .close (hc ▸ hb), .nil⟩
          | cons next outer =>
              dsimp only at h
              split at h
              · exact (not_gives_error h).elim
              · next st hst =>
                  obtain ⟨_, rfl⟩ := gives_ok.mp h
                  obtain ⟨l, hl, ho⟩ := ih next outer true rest _ (by omega) ⟨st, hst, rfl, rfl⟩
                  exact ⟨rest, .close (hc ▸ hb), .cons hl ho⟩
      · split at h
        · next hcomma =>
            -- A part came before, so a comma leads to the next one.
            subst hcomma
            split at h
            · next hco =>
                split at h
                · exact (not_gives_error h).elim
                · next name hname =>
                    split at h
                    · exact (not_gives_error h).elim
                    · next st hst =>
                        obtain ⟨_, rfl⟩ := gives_ok.mp h
                        refine parts_of_name ?_ ?_ hname ⟨st, hst, rfl, rfl⟩
                        · intro stack i k hlt
                          exact hi stack i k (by omega)
                        · exact fun j' hj => .next (hco ▸ hb) hj
            · exact (not_gives_error h).elim
        · next hcomma =>
            -- Nothing came before: the name is read from the byte that was looked at.
            rw [Bool.not_eq_true] at hcomma
            subst hcomma
            split at h
            · exact (not_gives_error h).elim
            · next name hname =>
                split at h
                · exact (not_gives_error h).elim
                · next st hst =>
                    obtain ⟨_, rfl⟩ := gives_ok.mp h
                    refine parts_of_name ?_ ?_ hname ⟨st, hst, rfl, rfl⟩
                    · intro stack i k hlt
                      exact hi stack i k (by omega)
                    · exact fun j' hj => .first (hb.trans hj)

theorem skip_sound (n : Nat) : IntoSound n ∧ OutSound n := by
  induction n with
  | zero => exact ⟨fun _ _ _ h => absurd h (Nat.not_lt_zero _),
      fun _ _ _ _ _ h => absurd h (Nat.not_lt_zero _)⟩
  | succ n ih =>
      have hi := intoSound_succ ih.2
      exact ⟨hi, outSound_succ hi ih.2⟩

/-! ## Completeness -/

/-- From where a value stops, the code gets to the end of the stack. -/
def Resumes : List Frame → Bytes → Bytes → Prop
  | [], i, k => i = k
  | frame :: outer, i, k => Gives (skipOut frame outer true i) () k

theorem skipInto_of_scalar {stack : List Frame} (hb : Blanks i j) (h : SkippedScalar j l)
    (hl : Ends l) (hr : Resumes stack l k) : Gives (skipInto stack i) () k := by
  obtain ⟨lt, ho⟩ := skipOpening_of_skippedScalar hb h hl
  rw [skipInto, ho]
  cases stack with
  | nil => exact gives_ok.mpr ⟨rfl, hr⟩
  | cons frame outer =>
      obtain ⟨st, hst, _, rfl⟩ := hr
      simp only [hst]
      exact gives_ok.mpr ⟨rfl, rfl⟩

theorem skipInto_of_container {stack : List Frame} (hb : Blanks i (frame.opening :: j))
    (h : Gives (skipOut frame stack false j) () k) : Gives (skipInto stack i) () k := by
  obtain ⟨lt, ho⟩ := skipOpening_of_opening hb
  obtain ⟨st, hst, _, rfl⟩ := h
  rw [skipInto, ho]
  simp only [hst]
  exact gives_ok.mpr ⟨rfl, rfl⟩

theorem skipOut_of_close {outer : List Frame} {comma : Bool} (hb : Blanks i (frame.close :: l))
    (hr : Resumes outer l k) : Gives (skipOut frame outer comma i) () k := by
  have hn : isBlank frame.close = false := by cases frame <;> rfl
  rw [skipOut]
  split
  · next hs => rw [skipBlank_of_blanks hb hn] at hs; cases hs
  · next hs =>
      rw [skipBlank_of_blanks hb hn] at hs
      cases hs
      dsimp only
      rw [if_pos rfl]
      cases outer with
      | nil => exact gives_ok.mpr ⟨rfl, hr⟩
      | cons next outer =>
          obtain ⟨st, hst, _, rfl⟩ := hr
          simp only [hst]
          exact gives_ok.mpr ⟨rfl, rfl⟩

/-- A part begins with a byte that does not close its container. -/
theorem SkippedName.head {n v : Bytes} (h : SkippedName frame j n) (hb : Blanks n v)
    (hv : Begins v) : ∃ b t n', Blanks j (b :: t) ∧ isBlank b = false ∧ b ≠ frame.close ∧
      SkippedName frame (b :: t) n' ∧ Blanks n' v := by
  cases h with
  | array =>
      obtain ⟨b, t, rfl, hn, hc⟩ := hv.eq_cons
      exact ⟨b, t, _, hb, hn, hc, .array, .refl _⟩
  | object h hc => exact ⟨_, _, _, .refl _, rfl, by decide, .object h hc, hb⟩

theorem skipOut_of_part {outer : List Frame} {n v : Bytes} (hl : Lead first i j)
    (hn : SkippedName frame j n) (hb : Blanks n v) (hv : Begins v)
    (hk : ∀ i, Blanks i v → Gives (skipInto (frame :: outer) i) () k) :
    Gives (skipOut frame outer (!first) i) () k := by
  rw [skipOut]
  cases hl with
  | first hi =>
      obtain ⟨b, t, n', hj, hnb, hc, hn, hb⟩ := hn.head hb hv
      have hi := hi.trans hj
      obtain ⟨name, hname, hp⟩ := skipName_of_skippedName (.refl _) hn
      obtain ⟨st, hst, _, rfl⟩ := hk _ (hp.trans hb)
      split
      · next hs => rw [skipBlank_of_blanks hi hnb] at hs; cases hs
      · next hs =>
          rw [skipBlank_of_blanks hi hnb] at hs
          cases hs
          dsimp only
          rw [if_neg hc, if_neg (by decide), hname]
          simp only [hst]
          exact gives_ok.mpr ⟨rfl, rfl⟩
  | next hi hj =>
      have hc : Sign.comma ≠ frame.close := by cases frame <;> decide
      obtain ⟨name, hname, hp⟩ := skipName_of_skippedName hj hn
      obtain ⟨st, hst, _, rfl⟩ := hk _ (hp.trans hb)
      split
      · next hs => rw [skipBlank_of_blanks hi rfl] at hs; cases hs
      · next hs =>
          rw [skipBlank_of_blanks hi rfl] at hs
          cases hs
          dsimp only
          rw [if_neg hc, if_pos (by decide), if_pos rfl, hname]
          simp only [hst]
          exact gives_ok.mpr ⟨rfl, rfl⟩

theorem SkippedParts.ends (h : SkippedParts frame false i k) : Ends i := by
  have hc : continuesNumber frame.close = false := by cases frame <;> rfl
  cases h with
  | close h => exact h.ends hc
  | part hl => exact hl.ends

mutual

theorem skipInto_of_value : ∀ {j l : Bytes}, SkippedValue j l → ∀ {stack : List Frame}
    {i k : Bytes}, Blanks i j → Ends l → Resumes stack l k → Gives (skipInto stack i) () k
  | _, _, .scalar h => fun hb hl hr => skipInto_of_scalar hb h hl hr
  | _, _, .container h => fun hb _ hr => skipInto_of_container hb (skipOut_of_parts h hr)

theorem skipOut_of_parts : ∀ {frame : Frame} {first : Bool} {i l : Bytes},
    SkippedParts frame first i l → ∀ {outer : List Frame} {k : Bytes}, Resumes outer l k →
    Gives (skipOut frame outer (!first) i) () k
  | _, _, _, _, .close h => fun hr => skipOut_of_close h hr
  | _, _, _, _, .part hl hn hb hv h => fun hr =>
      skipOut_of_part hl hn hb hv.begins fun _ hi =>
        skipInto_of_value hv hi h.ends (skipOut_of_parts h hr)

end

/-- What is passed over as a value is a value of the looser grammar. -/
theorem takes_skipValue : Takes skipValue (fun i _ k => SkippedValue i k) where
  sound := by
    intro i _ k h
    obtain ⟨j, l, hb, hv, hc⟩ := (skip_sound (i.length + 1)).1 [] i k (Nat.lt_succ_self _) h
    cases hc
    exact ⟨j, hb, hv⟩
  complete := fun hb hv hk => skipInto_of_value hv hb hk rfl
  begins := SkippedValue.begins

end EnumOrdering.Json
