import EnumOrdering.Proofs.Json.StringText

/-!
# The grammar of arrays and objects

Parts with commas between them and a closing sign at the end, one definition for both
kinds of container. A part of an object is a member: a name, a colon and what the name
asks for. The reader of an object carries a state from member to member, and a member
may be refused for what came before it; so what it reads is a list of members together
with a fold over them that succeeds.
-/

namespace EnumOrdering.Json

variable {α μ σ : Type} {i j k l : Bytes} {first : Bool} {v : α} {vs : List α}

/-! ## The grammar -/

/-- What leads to a part: blanks, and a comma among them unless the part is the first. -/
inductive Lead : Bool → Bytes → Bytes → Prop
  | first {i j : Bytes} (h : Blanks i j) : Lead true i j
  | next {i l j : Bytes} (h : Blanks i (Sign.comma :: l)) (h' : Blanks l j) : Lead false i j

/-- The parts of a container after its opening sign, and the closing one. -/
inductive Parts (close : UInt8) (G : Grammar α) : Bool → Grammar (List α)
  | close {first : Bool} {i k : Bytes} (h : Blanks i (close :: k)) : Parts close G first i [] k
  | part {first : Bool} {i j l k : Bytes} {v : α} {vs : List α} (hl : Lead first i j)
      (hv : G j v l) (h : Parts close G false l vs k) : Parts close G first i (v :: vs) k

/-- A member of an object: its name, a colon and its content. -/
inductive MemberText (C : String → Grammar μ) : Grammar μ
  | mk {n c l j k : Bytes} {name : String} {m : μ} (hn : StringText n name c)
      (hc : Blanks c (Sign.colon :: l)) (hb : Blanks l j) (hm : C name j m k) :
      MemberText C (Sign.quote :: n) m k

/-- The content of a member that keeps its name. -/
def NamedText (G : Grammar α) (name : String) : Grammar (String × α) :=
  fun i m k => m.1 = name ∧ G i m.2 k

/-- An array. -/
inductive ArrayText (G : Grammar α) : Grammar (List α)
  | mk {i k : Bytes} {vs : List α} (h : Parts Sign.closeBracket G true i vs k) :
      ArrayText G (Sign.openBracket :: i) vs k

/-- An object, whose members make up a state. -/
inductive ObjectText (C : String → Grammar μ) (step : σ → μ → Option σ) (s : σ) : Grammar σ
  | mk {i k : Bytes} {ms : List μ} {s' : σ}
      (h : Parts Sign.closeBrace (MemberText C) true i ms k) (hs : ms.foldlM step s = some s') :
      ObjectText C step s (Sign.openBrace :: i) s' k

theorem Lead.ends (h : Lead false i j) : Ends i := by
  cases h with
  | next h => exact h.ends rfl

theorem Parts.ends {close : UInt8} {G : Grammar α} (h : Parts close G false i vs k)
    (hc : continuesNumber close = false) : Ends i := by
  cases h with
  | close h => exact h.ends hc
  | part hl => exact hl.ends

theorem Lead.trans (h : Lead first i j) (h' : Blanks j k) : Lead first i k := by
  cases h with
  | first h => exact .first (h.trans h')
  | next h h'' => exact .next h (h''.trans h')

theorem Lead.length_le (h : Lead first i j) : j.length ≤ i.length := by
  cases h with
  | first h => exact h.length_le
  | next h h' => exact Nat.le_trans h'.length_le (Nat.le_of_succ_le h.length_le)

theorem mapM_cons_eq_some_iff {β : Type} {f : α → Option β} {ws : List β} :
    (v :: vs).mapM f = some ws ↔
      ∃ w ws', f v = some w ∧ vs.mapM f = some ws' ∧ w :: ws' = ws := by
  simp [List.mapM_cons, Option.bind_eq_some_iff]

/-- Parts that stand for something else, where each of them does. -/
theorem Parts.mapM_iff {β : Type} {close : UInt8} {G : Grammar α} {G' : Grammar β}
    {f : α → Option β} (h : ∀ i w k, G' i w k ↔ ∃ v, f v = some w ∧ G i v k) {ws : List β} :
    Parts close G' first i ws k ↔ ∃ vs, vs.mapM f = some ws ∧ Parts close G first i vs k := by
  constructor
  · intro hp
    induction hp with
    | close hb => exact ⟨[], rfl, .close hb⟩
    | part hl hw _ ih =>
        obtain ⟨v, hf, hv⟩ := (h _ _ _).mp hw
        obtain ⟨vs, hfs, hvs⟩ := ih
        exact ⟨v :: vs, mapM_cons_eq_some_iff.mpr ⟨_, _, hf, hfs, rfl⟩, .part hl hv hvs⟩
  · intro ⟨vs, hf, hp⟩
    induction hp generalizing ws with
    | close hb =>
        cases hf
        exact .close hb
    | part hl hv _ ih =>
        obtain ⟨w, ws, hw, hws, rfl⟩ := mapM_cons_eq_some_iff.mp hf
        exact .part hl ((h _ _ _).mpr ⟨_, hw, hv⟩) (ih hws)

/-! ## What comes next -/

theorem nextItem_more_iff :
    (∃ le, nextItem first i = .ok (.more j le)) ↔ Lead first i j ∧ Begins j := by
  constructor
  · rintro ⟨le, h⟩
    rw [nextItem] at h
    split at h
    · cases h
    · next b rest hs =>
        have hb := blanks_of_skipBlank hs
        have hn := not_isBlank_of_skipBlank hs
        simp only [] at h
        split at h
        · cases h
        · next hc =>
            split at h
            · next hf =>
                cases h
                exact ⟨hf ▸ .first hb, hn, hc⟩
            · next hf =>
                split at h
                · next hco =>
                    split at h
                    · cases h
                    · next b' rest' hs' =>
                        split at h
                        · cases h
                        · next hc' =>
                            cases h
                            rw [Bool.not_eq_true] at hf
                            exact ⟨hf ▸ .next (hco ▸ hb) (blanks_of_skipBlank hs'),
                              not_isBlank_of_skipBlank hs', hc'⟩
                · cases h
  · rintro ⟨hl, hj⟩
    obtain ⟨b, t, rfl, hn, hc⟩ := hj.eq_cons
    refine ⟨hl.length_le, ?_⟩
    rw [nextItem]
    cases hl with
    | first hb =>
        split
        · next hs => rw [skipBlank_of_blanks hb hn] at hs; cases hs
        · next hs =>
            rw [skipBlank_of_blanks hb hn] at hs
            cases hs
            dsimp only
            rw [if_neg hc, if_pos rfl]
    | next hb hb' =>
        split
        · next hs => rw [skipBlank_of_blanks hb rfl] at hs; cases hs
        · next hs =>
            rw [skipBlank_of_blanks hb rfl] at hs
            cases hs
            dsimp only
            rw [if_neg (by decide), if_neg (by decide), if_pos rfl]
            split
            · next hs => rw [skipBlank_of_blanks hb' hn] at hs; cases hs
            · next hs =>
                rw [skipBlank_of_blanks hb' hn] at hs
                cases hs
                rw [if_neg hc]

theorem nextItem_done_iff :
    (∃ lt, nextItem first i = .ok (.done k lt)) ↔ Blanks i (Sign.closeBracket :: k) := by
  constructor
  · intro ⟨lt, h⟩
    rw [nextItem] at h
    split at h
    · cases h
    · next hs =>
        dsimp only at h
        split at h
        · next hc =>
            cases h
            exact hc ▸ blanks_of_skipBlank hs
        · split at h
          · cases h
          · split at h
            · split at h
              · cases h
              · split at h <;> cases h
            · cases h
  · intro hb
    rw [nextItem]
    split
    · next hs => rw [skipBlank_of_blanks hb rfl] at hs; cases hs
    · next hs =>
        rw [skipBlank_of_blanks hb rfl] at hs
        cases hs
        exact ⟨length_lt_of_skipBlank hs, if_pos rfl⟩

theorem nextMember_more_iff :
    (∃ le, nextMember first i = .ok (.more j le)) ↔ Lead first i (Sign.quote :: j) := by
  constructor
  · intro ⟨le, h⟩
    rw [nextMember] at h
    split at h
    · cases h
    · next b rest hs =>
        have hb := blanks_of_skipBlank hs
        dsimp only at h
        split at h
        · cases h
        · split at h
          · next hf =>
              split at h
              · next hq =>
                  cases h
                  exact hf ▸ .first (hq ▸ hb)
              · cases h
          · next hf =>
              split at h
              · next hco =>
                  split at h
                  · cases h
                  · next b' rest' hs' =>
                      split at h
                      · next hq =>
                          cases h
                          rw [Bool.not_eq_true] at hf
                          exact hf ▸ .next (hco ▸ hb) (hq ▸ blanks_of_skipBlank hs')
                      · split at h <;> cases h
              · cases h
  · intro hl
    refine ⟨Nat.le_of_succ_le hl.length_le, ?_⟩
    rw [nextMember]
    cases hl with
    | first hb =>
        split
        · next hs => rw [skipBlank_of_blanks hb rfl] at hs; cases hs
        · next hs =>
            rw [skipBlank_of_blanks hb rfl] at hs
            cases hs
            rfl
    | next hb hb' =>
        split
        · next hs => rw [skipBlank_of_blanks hb rfl] at hs; cases hs
        · next hs =>
            rw [skipBlank_of_blanks hb rfl] at hs
            cases hs
            dsimp only
            rw [if_neg (by decide), if_neg (by decide), if_pos rfl]
            split
            · next hs => rw [skipBlank_of_blanks hb' rfl] at hs; cases hs
            · next hs =>
                rw [skipBlank_of_blanks hb' rfl] at hs
                cases hs
                exact if_pos rfl

theorem nextMember_done_iff :
    (∃ lt, nextMember first i = .ok (.done k lt)) ↔ Blanks i (Sign.closeBrace :: k) := by
  constructor
  · intro ⟨lt, h⟩
    rw [nextMember] at h
    split at h
    · cases h
    · next hs =>
        dsimp only at h
        split at h
        · next hc =>
            cases h
            exact hc ▸ blanks_of_skipBlank hs
        · split at h
          · split at h <;> cases h
          · split at h
            · split at h
              · cases h
              · split at h
                · cases h
                · split at h <;> cases h
            · cases h
  · intro hb
    rw [nextMember]
    split
    · next hs => rw [skipBlank_of_blanks hb rfl] at hs; cases hs
    · next hs =>
        rw [skipBlank_of_blanks hb rfl] at hs
        cases hs
        exact ⟨length_lt_of_skipBlank hs, if_pos rfl⟩

theorem gives_readColon : Gives (readColon i) () k ↔ Blanks i (Sign.colon :: k) := by
  rw [readColon]
  split
  · next hs =>
      refine ⟨fun h => (not_gives_error h).elim, fun hb => ?_⟩
      rw [skipBlank_of_blanks hb rfl] at hs
      cases hs
  · next b rest hs =>
      constructor
      · intro h
        split at h
        · next hc =>
            obtain ⟨_, rfl⟩ := gives_ok.mp h
            exact hc ▸ blanks_of_skipBlank hs
        · exact (not_gives_error h).elim
      · intro hb
        rw [skipBlank_of_blanks hb rfl] at hs
        cases hs
        rw [if_pos rfl]
        exact gives_ok.mpr ⟨rfl, rfl⟩

/-! ## Arrays -/

section
variable {item : Reader α} {G : Grammar α} {index : Nat}

theorem parts_of_readItems (h : Takes item G) (hg : Gives (readItems item index i) vs k) :
    Parts Sign.closeBracket G (index == 0) i vs k := by
  induction hn : i.length using Nat.strongRecOn generalizing index i vs with
  | _ n ih =>
      rw [readItems] at hg
      split at hg
      · exact (not_gives_error hg).elim
      · next hd =>
          obtain ⟨rfl, rfl⟩ := gives_ok.mp hg
          exact .close (nextItem_done_iff.mp ⟨_, hd⟩)
      · next start le hm =>
          obtain ⟨hl, hb⟩ := nextItem_more_iff.mp ⟨_, hm⟩
          split at hg
          · exact (not_gives_error hg).elim
          · next st hs =>
              dsimp only at hg
              split at hg
              · exact (not_gives_error hg).elim
              · next others ho =>
                  obtain ⟨rfl, rfl⟩ := gives_ok.mp hg
                  have hlt := st.shorter
                  obtain ⟨j, hj, hv⟩ := h.sound ⟨st, hs, rfl, rfl⟩
                  have ho := ih st.rest.length (by omega) ⟨others, ho, rfl, rfl⟩ rfl
                  exact .part (hl.trans hj) hv ho

theorem readItems_of_parts (h : Takes item G) (hp : Parts Sign.closeBracket G first i vs k) :
    ∀ index, first = (index == 0) → Gives (readItems item index i) vs k := by
  induction hp with
  | close hb =>
      intro index hf
      have ⟨lt, hd⟩ : ∃ lt, nextItem (index == 0) _ = .ok (.done _ lt) := nextItem_done_iff.mpr hb
      rw [readItems, hd]
      exact gives_ok.mpr ⟨rfl, rfl⟩
  | part hl hv hp ih =>
      intro index hf
      obtain ⟨le, hm⟩ := nextItem_more_iff.mpr ⟨hl, h.begins hv⟩
      obtain ⟨st, hs, rfl, rfl⟩ := h.complete (.refl _) hv (hp.ends rfl)
      obtain ⟨others, ho, rfl, rfl⟩ := ih (index + 1) rfl
      rw [readItems, ← hf, hm]
      simp only [hs, ho]
      exact gives_ok.mpr ⟨rfl, rfl⟩

theorem lead_of_readItem {expected : String} (h : Takes item G)
    (hg : Gives (readItem item index expected i) v k) :
    ∃ j, Lead (index == 0) i j ∧ G j v k := by
  rw [readItem] at hg
  split at hg
  · exact (not_gives_error hg).elim
  · exact (not_gives_error hg).elim
  · next start le hm =>
      split at hg
      · exact (not_gives_error hg).elim
      · next st hs =>
          obtain ⟨rfl, rfl⟩ := gives_ok.mp hg
          obtain ⟨hl, _⟩ := nextItem_more_iff.mp ⟨_, hm⟩
          obtain ⟨j, hj, hv⟩ := h.sound ⟨st, hs, rfl, rfl⟩
          exact ⟨j, hl.trans hj, hv⟩

theorem readItem_of_lead (index : Nat) (expected : String) (h : Takes item G)
    (hl : Lead (index == 0) i j)
    (hv : G j v k) (hk : Ends k) : Gives (readItem item index expected i) v k := by
  obtain ⟨le, hm⟩ := nextItem_more_iff.mpr ⟨hl, h.begins hv⟩
  obtain ⟨st, hs, rfl, rfl⟩ := h.complete (.refl _) hv hk
  rw [readItem, hm]
  simp only [hs]
  exact gives_ok.mpr ⟨rfl, rfl⟩

theorem gives_readListEnd :
    Gives (readListEnd i) () k ↔ Blanks i (Sign.closeBracket :: k) := by
  rw [readListEnd]
  split
  · next hs =>
      refine ⟨fun h => (not_gives_error h).elim, fun hb => ?_⟩
      rw [skipBlank_of_blanks hb rfl] at hs
      cases hs
  · next b rest hs =>
      constructor
      · intro h
        split at h
        · next hc =>
            obtain ⟨_, rfl⟩ := gives_ok.mp h
            exact hc ▸ blanks_of_skipBlank hs
        · split at h
          · split at h
            · exact (not_gives_error h).elim
            · split at h <;> exact (not_gives_error h).elim
          · exact (not_gives_error h).elim
      · intro hb
        rw [skipBlank_of_blanks hb rfl] at hs
        cases hs
        rw [if_pos rfl]
        exact gives_ok.mpr ⟨rfl, rfl⟩

theorem takes_readSequence {room : Nat} {item : Nat → Reader α} (h : Takes (item room) G) :
    Takes (readSequence (room + 1) item) (ArrayText G) := by
  refine takes_readFrom ?_ ?_ ?_
  · intro b t vs k hg
    split at hg
    · next hb => exact hb ▸ .mk (parts_of_readItems h (gives_enter.mp hg))
    · exact (not_gives_error hg).elim
  · intro b t vs k ha hk
    cases ha with
    | mk hp =>
        rw [if_pos rfl, gives_enter]
        exact readItems_of_parts h hp 0 rfl
  · intro i vs k ha
    cases ha with
    | mk => exact ⟨rfl, by decide⟩

end

/-! ## Objects -/

/-- For each state and name, the content is read as the grammar of the name says; a
member whose name is refused has no next state. -/
structure Keyed (onKey : σ → String → Except Mismatch (Reader σ)) (C : String → Grammar μ)
    (step : σ → μ → Option σ) : Prop where
  takes : ∀ {s name read}, onKey s name = .ok read →
    Takes read (fun j s' k => ∃ m, C name j m k ∧ step s m = some s')
  refuses : ∀ {s name e j m k}, onKey s name = .error e → C name j m k → step s m = none

section
variable {onKey : σ → String → Except Mismatch (Reader σ)} {C : String → Grammar μ}
  {step : σ → μ → Option σ} {s s' : σ} {ms : List μ}

theorem parts_of_readMembers (h : Keyed onKey C step)
    (hg : Gives (readMembers readText onKey first s i) s' k) :
    ∃ ms, Parts Sign.closeBrace (MemberText C) first i ms k ∧ ms.foldlM step s = some s' := by
  -- On the length of the input: each of the readers in between leaves less of it.
  induction hn : i.length using Nat.strongRecOn generalizing first s i with
  | _ n ih =>
      rw [readMembers] at hg
      split at hg
      · exact (not_gives_error hg).elim
      · next hd =>
          obtain ⟨rfl, rfl⟩ := gives_ok.mp hg
          exact ⟨[], .close (nextMember_done_iff.mp ⟨_, hd⟩), rfl⟩
      · next start le hm =>
          have hl := nextMember_more_iff.mp ⟨_, hm⟩
          split at hg
          · exact (not_gives_error hg).elim
          · next key hkey =>
              dsimp only at hg
              split at hg
              · exact (not_gives_error hg).elim
              · next read hread =>
                  split at hg
                  · exact (not_gives_error hg).elim
                  · next colon hcolon =>
                      split at hg
                      · exact (not_gives_error hg).elim
                      · next st hs =>
                          split at hg
                          · exact (not_gives_error hg).elim
                          · next others ho =>
                              obtain ⟨rfl, rfl⟩ := gives_ok.mp hg
                              have hlt := key.shorter
                              have hlt' := colon.shorter
                              have hlt'' := st.shorter
                              have hname := gives_readText.mp ⟨key, hkey, rfl, rfl⟩
                              have hc := gives_readColon.mp ⟨colon, hcolon, rfl, rfl⟩
                              obtain ⟨j, hj, m, hm, hstep⟩ :=
                                (h.takes hread).sound ⟨st, hs, rfl, rfl⟩
                              obtain ⟨ms, hms, hf⟩ :=
                                ih st.rest.length (by omega) ⟨others, ho, rfl, rfl⟩ rfl
                              refine ⟨m :: ms, .part hl (.mk hname hc hj hm) hms, ?_⟩
                              rw [List.foldlM_cons, hstep]
                              exact hf

theorem readMembers_of_parts (h : Keyed onKey C step)
    (hp : Parts Sign.closeBrace (MemberText C) first i ms k) :
    ∀ s, ms.foldlM step s = some s' → Gives (readMembers readText onKey first s i) s' k := by
  induction hp with
  | close hb =>
      intro s hs
      obtain ⟨lt, hd⟩ := nextMember_done_iff.mpr hb
      cases hs
      rw [readMembers, hd]
      exact gives_ok.mpr ⟨rfl, rfl⟩
  | part hl hv hp ih =>
      intro s hs
      cases hv with
      | mk hn hc hb hm =>
          rw [List.foldlM_cons] at hs
          obtain ⟨s₁, hstep, hs⟩ := Option.bind_eq_some_iff.mp hs
          obtain ⟨le, hnext⟩ := nextMember_more_iff.mpr hl
          obtain ⟨key, hkey, rfl, rfl⟩ := gives_readText.mpr hn
          obtain ⟨colon, hcolon, _, rfl⟩ := gives_readColon.mpr hc
          cases hread : onKey s key.value with
          | error e => rw [h.refuses hread hm] at hstep; cases hstep
          | ok read =>
              obtain ⟨st, hst, rfl, rfl⟩ :=
                (h.takes hread).complete hb ⟨_, hm, hstep⟩ (hp.ends rfl)
              obtain ⟨others, ho, rfl, rfl⟩ := ih st.value hs
              rw [readMembers, hnext]
              simp only [hkey, hread, hcolon, hst, ho]
              exact gives_ok.mpr ⟨rfl, rfl⟩

theorem takes_readMap {room : Nat} {onKey : Nat → σ → String → Except Mismatch (Reader σ)}
    (h : Keyed (onKey room) C step) :
    Takes (readMap (room + 1) onKey s) (ObjectText C step s) := by
  refine takes_readFrom ?_ ?_ ?_
  · intro b t s' k hg
    split at hg
    · next hb =>
        obtain ⟨ms, hp, hf⟩ := parts_of_readMembers h (gives_enter.mp hg)
        exact hb ▸ .mk hp hf
    · exact (not_gives_error hg).elim
  · intro b t s' k ho hk
    cases ho with
    | mk hp hf =>
        rw [if_pos rfl, gives_enter]
        exact readMembers_of_parts h hp s hf
  · intro i s' k ho
    cases ho with
    | mk => exact ⟨rfl, by decide⟩

/-- Where every name is welcome and its content is put into the state, members are read
with their names. -/
theorem keyed_named {read : Reader α} {G : Grammar α} (h : Takes read G)
    (put : σ → String → α → σ) :
    Keyed (fun s name => .ok fun input => (read input).map (·.map (put s name)))
      (NamedText G) (fun s m => some (put s m.1 m.2)) where
  takes := by
    intro s name reader hr
    cases hr
    have hm := h.map (put s name)
    refine ⟨?_, ?_, ?_⟩
    · intro i s' k hg
      obtain ⟨j, hj, v, hv, rfl⟩ := hm.sound hg
      exact ⟨j, hj, (name, v), ⟨rfl, hv⟩, rfl⟩
    · intro i j s' k hj hv hk
      obtain ⟨⟨name', v⟩, ⟨rfl, hv⟩, hs⟩ := hv
      cases hs
      exact hm.complete hj ⟨v, hv, rfl⟩ hk
    · intro i s' k hv
      obtain ⟨⟨name', v⟩, ⟨rfl, hv⟩, _⟩ := hv
      exact h.begins hv
  refuses := nofun

end

end EnumOrdering.Json
