import EnumOrdering.Json.Typed

/-!
# What readers accept

A grammar relates an input to a value and to what follows it in the input; its rules
never look at what follows. A reader `Takes` a grammar when it reads exactly what the
grammar describes, after any blanks. The one thing that a grammar cannot say for itself
is where a number ends, so completeness asks that what follows does not continue one.

Everything later is assembled from these facts: blanks, words, the entry into a
container, and the change of a reader's value.
-/

namespace EnumOrdering.Json

/-- What may stand at the beginning of an input, the value it has, and what follows. -/
abbrev Grammar (α : Type) := (input : Bytes) → (value : α) → (after : Bytes) → Prop

variable {α β : Type} {i j k l : Bytes} {b : UInt8} {v : α}

/-! ## Results of readers -/

/-- A reader answered with `v`, and `k` is what it left. -/
def Gives {input : Bytes} (r : Except Fault (Step α input)) (v : α) (k : Bytes) : Prop :=
  ∃ st, r = .ok st ∧ st.value = v ∧ st.rest = k

@[simp] theorem gives_ok {input : Bytes} {st : Step α input} :
    Gives (.ok st) v k ↔ st.value = v ∧ st.rest = k := by
  constructor
  · intro ⟨st', h, hv⟩
    cases h
    exact hv
  · intro h
    exact ⟨st, rfl, h⟩

@[simp] theorem not_gives_error {input : Bytes} {f : Fault} :
    ¬ Gives (.error f : Except Fault (Step α input)) v k := by
  intro ⟨st, h, _⟩
  cases h

theorem Gives.map {input : Bytes} {r : Except Fault (Step α input)} {f : α → β} {w : β} :
    Gives (r.map (·.map f)) w k ↔ ∃ v, Gives r v k ∧ f v = w := by
  cases r with
  | error e => simp [Except.map]
  | ok st => simp [Except.map, Step.map, and_left_comm, and_comm]

/-! ## Blanks -/

/-- The input is blanks and then `j`. -/
def Blanks (i j : Bytes) : Prop := ∃ ws, (∀ b ∈ ws, isBlank b = true) ∧ i = ws ++ j

theorem Blanks.refl (i : Bytes) : Blanks i i := ⟨[], List.forall_mem_nil _, rfl⟩

theorem Blanks.cons (hb : isBlank b = true) (h : Blanks i j) : Blanks (b :: i) j := by
  obtain ⟨ws, hw, rfl⟩ := h
  exact ⟨b :: ws, List.forall_mem_cons.mpr ⟨hb, hw⟩, rfl⟩

theorem Blanks.trans (h : Blanks i j) (h' : Blanks j k) : Blanks i k := by
  obtain ⟨ws, hw, rfl⟩ := h
  obtain ⟨ws', hw', rfl⟩ := h'
  refine ⟨ws ++ ws', ?_, (List.append_assoc ..).symm⟩
  exact List.forall_mem_append.mpr ⟨hw, hw'⟩

theorem Blanks.length_le (h : Blanks i j) : j.length ≤ i.length := by
  obtain ⟨ws, _, rfl⟩ := h
  rw [List.length_append]
  exact Nat.le_add_left _ _

theorem blanks_skipBlank (i : Bytes) : Blanks i (skipBlank i) := by
  induction i with
  | nil => exact .refl []
  | cons b i ih =>
      rw [skipBlank, List.dropWhile_cons]
      split
      · next hb => exact ih.cons hb
      · exact .refl _

theorem skipBlank_eq (h : Blanks i j) : skipBlank i = skipBlank j := by
  obtain ⟨ws, hw, rfl⟩ := h
  exact List.dropWhile_append_of_pos hw

theorem skipBlank_of_blanks (h : Blanks i (b :: j)) (hb : isBlank b = false) :
    skipBlank i = b :: j := by
  rw [skipBlank_eq h, skipBlank, List.dropWhile_cons, if_neg (by simp [hb])]

theorem skipBlank_of_blanks_nil (h : Blanks i []) : skipBlank i = [] := skipBlank_eq h

theorem blanks_of_skipBlank (h : skipBlank i = j) : Blanks i j := h ▸ blanks_skipBlank i

theorem not_isBlank_of_skipBlank (h : skipBlank i = b :: j) : isBlank b = false := by
  have hd := List.head?_dropWhile_not isBlank i
  rw [← skipBlank, h] at hd
  simpa using hd

/-! ## Taking a grammar -/

/-- Whether a byte continues a number that stands before it. -/
def continuesNumber (b : UInt8) : Bool :=
  isDigit b || b == Sign.point || b == 0x65 || b == 0x45

/-- The input begins with no byte of the given kind. -/
def Stops (kind : UInt8 → Bool) : Bytes → Prop
  | [] => True
  | b :: _ => kind b = false

theorem Stops.mono {kind kind' : UInt8 → Bool} (h : Stops kind k)
    (hm : ∀ b, kind b = false → kind' b = false) : Stops kind' k := by
  cases k with
  | nil => trivial
  | cons b k => exact hm b h

theorem ne_of_kind {kind : UInt8 → Bool} {c : UInt8} (hb : kind b = true)
    (hc : kind c = false) : b ≠ c := by
  rintro rfl
  rw [hb] at hc
  cases hc

/-- What follows a value does not continue a number. -/
abbrev Ends : Bytes → Prop := Stops continuesNumber

/-- A part begins with a byte that is not blank and does not end an array. -/
def Begins : Bytes → Prop
  | [] => False
  | b :: _ => isBlank b = false ∧ b ≠ Sign.closeBracket

theorem Begins.eq_cons (h : Begins i) :
    ∃ b t, i = b :: t ∧ isBlank b = false ∧ b ≠ Sign.closeBracket := by
  cases i with
  | nil => exact h.elim
  | cons b t => exact ⟨b, t, rfl, h⟩

theorem not_continuesNumber_of_isBlank (hb : isBlank b = true) : continuesNumber b = false := by
  simp only [isBlank, Bool.or_eq_true, decide_eq_true_eq] at hb
  rcases hb with ((rfl | rfl) | rfl) | rfl <;> rfl

theorem Blanks.ends (h : Blanks i j) (hj : Ends j) : Ends i := by
  obtain ⟨ws, hw, rfl⟩ := h
  cases ws with
  | nil => exact hj
  | cons w ws => exact not_continuesNumber_of_isBlank (hw w List.mem_cons_self)

/-- The reader reads what the grammar describes, and nothing else. -/
structure Takes (read : Reader α) (G : Grammar α) : Prop where
  sound : ∀ {i v k}, Gives (read i) v k → ∃ j, Blanks i j ∧ G j v k
  complete : ∀ {i j v k}, Blanks i j → G j v k → Ends k → Gives (read i) v k
  begins : ∀ {i v k}, G i v k → Begins i

theorem Takes.map {read : Reader α} {G : Grammar α} (h : Takes read G) (f : α → β) :
    Takes (fun i => (read i).map (·.map f)) (fun i w k => ∃ v, G i v k ∧ f v = w) where
  sound := by
    intro i w k hg
    obtain ⟨v, hg, hw⟩ := Gives.map.mp hg
    obtain ⟨j, hb, hv⟩ := h.sound hg
    exact ⟨j, hb, v, hv, hw⟩
  complete := by
    intro i j w k hb ⟨v, hv, hw⟩ hk
    exact Gives.map.mpr ⟨v, h.complete hb hv hk, hw⟩
  begins := fun ⟨_, hv, _⟩ => h.begins hv

theorem Takes.congr {read : Reader α} {G G' : Grammar α} (h : Takes read G)
    (hG : ∀ {i v k}, G i v k ↔ G' i v k) : Takes read G' where
  sound := by
    intro i v k hg
    obtain ⟨j, hb, hv⟩ := h.sound hg
    exact ⟨j, hb, hG.mp hv⟩
  complete := fun hb hv hk => h.complete hb (hG.mpr hv) hk
  begins := fun hv => h.begins (hG.mpr hv)

/-! ## Words, entries and first bytes -/

theorem readWord_eq_ok_iff {word : Bytes} : readWord word i = .ok k ↔ i = word ++ k := by
  fun_induction readWord word i with
  | case1 => simp
  | case2 => simp
  | case3 w word input ih => simpa using ih
  | case4 w word b input hb => simp [hb]

@[simp] theorem gives_readTail {w : α} {word tail : Bytes} (h : tail.length < i.length) :
    Gives (readTail w word h) v k ↔ w = v ∧ tail = word ++ k := by
  rw [readTail]
  split
  · next rest e =>
      have hk : tail = word ++ k ↔ rest = k := by
        rw [← readWord_eq_ok_iff, e, Except.ok.injEq]
      rw [gives_ok, hk]
  · next f e =>
      have hk : tail ≠ word ++ k := fun hk => by rw [readWord_eq_ok_iff.mpr hk] at e; cases e
      simp [hk]

@[simp] theorem gives_enter {room : Nat} {rest : Bytes} {read : Nat → Reader α} :
    Gives (enter (room + 1) b rest read) v k ↔ Gives (read room rest) v k := by
  rw [enter]
  cases read room rest with
  | error f => simp
  | ok st => simp [Step.lift]

theorem gives_readFrom {read : (b : UInt8) → (rest : Bytes) → Except Fault (Step α (b :: rest))} :
    Gives (readFrom read i) v k ↔
      ∃ b t, Blanks i (b :: t) ∧ isBlank b = false ∧ Gives (read b t) v k := by
  unfold readFrom
  split
  · next h =>
      refine ⟨fun hg => (not_gives_error hg).elim, ?_⟩
      rintro ⟨b, t, hb, hn, _⟩
      rw [skipBlank_of_blanks hb hn] at h
      cases h
  · next b t h =>
      have hb := blanks_of_skipBlank h
      have hn := not_isBlank_of_skipBlank h
      constructor
      · intro hg
        refine ⟨b, t, hb, hn, ?_⟩
        cases hr : read b t with
        | error f => rw [hr] at hg; exact (not_gives_error hg).elim
        | ok st => rw [hr] at hg; simpa [Step.lift] using hg
      · rintro ⟨b', t', hb', hn', hg⟩
        rw [skipBlank_of_blanks hb' hn'] at h
        cases h
        cases hr : read b t with
        | error f => rw [hr] at hg; exact (not_gives_error hg).elim
        | ok st => rw [hr] at hg; simpa [Step.lift] using hg

/-- A reader that goes by the first byte takes a grammar if it does so from there. -/
theorem takes_readFrom {G : Grammar α}
    {read : (b : UInt8) → (rest : Bytes) → Except Fault (Step α (b :: rest))}
    (sound : ∀ {b t v k}, Gives (read b t) v k → G (b :: t) v k)
    (complete : ∀ {b t v k}, G (b :: t) v k → Ends k → Gives (read b t) v k)
    (begins : ∀ {i v k}, G i v k → Begins i) : Takes (readFrom read) G where
  sound := by
    intro i v k h
    obtain ⟨b, t, hb, _, hg⟩ := gives_readFrom.mp h
    exact ⟨b :: t, hb, sound hg⟩
  complete := by
    intro i j v k hb hg hk
    obtain ⟨b, t, rfl, hn, _⟩ := (begins hg).eq_cons
    exact gives_readFrom.mpr ⟨b, t, hb, hn, complete hg hk⟩
  begins := begins

/-! ## Whole texts -/

theorem readWholeText_eq_ok_iff {read : Reader α} {G : Grammar α} (h : Takes read G) :
    readWholeText read i = .ok v ↔ ∃ j k, Blanks i j ∧ G j v k ∧ Blanks k [] := by
  rw [readWholeText]
  constructor
  · intro hr
    split at hr
    · cases hr
    · next st hs =>
        split at hr
        · next he =>
            cases hr
            obtain ⟨j, hb, hg⟩ := h.sound ⟨st, hs, rfl, rfl⟩
            exact ⟨j, st.rest, hb, hg, blanks_of_skipBlank he⟩
        · cases hr
  · rintro ⟨j, k, hb, hg, hk⟩
    obtain ⟨st, hs, rfl, rfl⟩ := h.complete hb hg (hk.ends trivial)
    rw [hs]
    simp only [skipBlank_of_blanks_nil hk]

end EnumOrdering.Json
