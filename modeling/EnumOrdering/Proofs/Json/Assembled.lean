import EnumOrdering.Proofs.Json.Skippable
import EnumOrdering.Proofs.Json.Written

/-!
# Objects assembled from texts

Texts of one value each, put into an object under names of their own, are the contents of
its members and nothing else is: no text reaches beyond the comma or the brace that was
put behind it, whatever it holds. The widest grammar shows this, as it has one reading and
says where a value ends before it is known as what the value is read.
-/

namespace EnumOrdering.Json

variable {α : Type} {G : Grammar α} {i k text rest : Bytes} {v : α}

/-! ## Texts of one value -/

/-- The value makes up the text, with nothing but blanks around it. -/
def Fills (G : Grammar α) (text : Bytes) (v : α) : Prop :=
  ∃ j k, Blanks text j ∧ G j v k ∧ Blanks k []

/-- A text of one value of the widest grammar. All texts that are well-formed by the
standard are among them. -/
def IsText (text : Bytes) : Prop := ∃ j k, Blanks text j ∧ SkippedValue j k ∧ Blanks k []

theorem Fills.isText (h : Fills G text v) (hG : Skippable G) : IsText text := by
  obtain ⟨j, k, hj, hv, hk⟩ := h
  exact ⟨j, k, hj, hG _ _ _ hv, hk⟩

theorem Fills.unique {w : α} (h : Fills G text v) (h' : Fills G text w) (hG : Sole G)
    (hS : Skippable G) : v = w := by
  obtain ⟨j, k, hj, hv, -⟩ := h
  obtain ⟨j', k', hj', hw, -⟩ := h'
  obtain rfl := hj.unique hj' (hS _ _ _ hv).begins (hS _ _ _ hw).begins
  exact (hG _ _ _ _ _ hv hw).1

theorem Fills.within (h : Fills G text v) (hG : Loose G) (rest : Bytes) :
    ∃ j l, Blanks (text ++ rest) j ∧ G j v l ∧ Blanks l rest := by
  obtain ⟨j, k, hj, hv, hk⟩ := h
  exact ⟨j ++ rest, k ++ rest, hj.detached.append rest, (hG _ _ _ hv).append rest,
    hk.detached.append rest⟩

/-- What is read where a text was set in is the text, if it is one by itself: the widest
grammar has it end where the text does. -/
theorem IsText.fills_of_within (ht : IsText text) (hG : Loose G) (hS : Skippable G)
    (hr : Ends rest) {j l : Bytes} (hj : Blanks (text ++ rest) j) (hv : G j v l) (hl : Ends l) :
    Fills G text v ∧ Blanks l rest := by
  obtain ⟨j', k, hj', hw, hk⟩ := ht
  have hk' := hk.detached.append rest
  have he : j = j' ++ rest :=
    hj.unique (hj'.detached.append rest) (hS _ _ _ hv).begins (hw.begins.append rest)
  subst he
  obtain ⟨-, rfl⟩ := takes_skipValue.unique (v := ()) (w := ()) (hS _ _ _ hv) hl
    (hw.detached.append rest) (hk'.ends hr)
  exact ⟨⟨j', k, hj', (hG _ _ _ hv).of_append, hk⟩, hk'⟩

/-! ## Members -/

theorem MemberText.begins {μ : Type} {C : String → Grammar μ} {m : μ} (h : MemberText C i m k) :
    Begins i := by
  cases h with
  | mk => exact ⟨rfl, by decide⟩

/-- A name in the spelling that follows its opening quote, and a text to stand under it. -/
structure Sheet where
  name : String
  spelling : Bytes
  text : Bytes
  spelled : StringText spelling name []

def Sheet.written (name : String) (text : Bytes) : Sheet where
  name := name
  spelling := Utf8.encode (writeRest name)
  text := text
  spelled := by
    have h := spells_text name []
    rw [List.append_nil] at h
    exact h

/-- The member of an object that holds the text of a sheet. -/
def Sheet.member (sheet : Sheet) : Bytes :=
  Sign.quote :: (sheet.spelling ++ Sign.colon :: sheet.text)

/-- The object that has the sheets for its members. -/
def assemble (sheets : List Sheet) : Bytes :=
  Sign.openBrace :: ([Sign.comma].intercalate (sheets.map Sheet.member) ++ [Sign.closeBrace])

/-- The part has the name of the sheet and makes up its text. -/
def Sheet.Gives (G : Grammar α) (sheet : Sheet) (part : String × α) : Prop :=
  part.1 = sheet.name ∧ Fills G sheet.text part.2

theorem Sheet.spelled_append (sheet : Sheet) (rest : Bytes) :
    StringText (sheet.spelling ++ rest) sheet.name rest :=
  sheet.spelled.detached.append rest

theorem Sheet.member_append (sheet : Sheet) (rest : Bytes) : sheet.member ++ rest =
    Sign.quote :: (sheet.spelling ++ Sign.colon :: (sheet.text ++ rest)) := by
  rw [Sheet.member, List.cons_append, List.append_assoc, List.cons_append]

theorem Sheet.begins (sheet : Sheet) : Begins sheet.member := ⟨rfl, by decide⟩

theorem Sheet.memberText (sheet : Sheet) (hG : Loose G) (h : Fills G sheet.text v) (rest : Bytes) :
    ∃ l, MemberText (NamedText G) (sheet.member ++ rest) (sheet.name, v) l ∧ Blanks l rest := by
  obtain ⟨j, l, hj, hv, hl⟩ := h.within hG rest
  refine ⟨l, ?_, hl⟩
  rw [sheet.member_append]
  exact .mk (sheet.spelled_append _) (.refl _) hj ⟨rfl, hv⟩

theorem Sheet.gives_of_memberText {sheet : Sheet} (ht : IsText sheet.text) (hG : Loose G)
    (hS : Skippable G) {m : String × α} {l : Bytes} (hr : Ends rest)
    (h : MemberText (NamedText G) (sheet.member ++ rest) m l) (hl : Ends l) :
    sheet.Gives G m ∧ Blanks l rest := by
  rw [sheet.member_append] at h
  cases h with
  | mk hn hc hb hm =>
      -- The spelling has one reading, so the member has the name of the sheet.
      obtain ⟨rfl, rfl⟩ :=
        (gives_readText.mpr hn).unique (gives_readText.mpr (sheet.spelled_append _))
      obtain ⟨-, rfl⟩ := hc.sign_eq (.refl _) rfl rfl
      obtain ⟨hf, hk⟩ := ht.fills_of_within hG hS hr hb hm.2 hl
      exact ⟨⟨hm.1, hf⟩, hk⟩

/-! ## What follows a member -/

/-- What is left of an assembled object behind a member: the sheets that are still to come,
with a comma before each, and the brace. -/
def remainder (sheets : List Sheet) : Bytes :=
  sheets.flatMap (fun sheet => Sign.comma :: sheet.member) ++ [Sign.closeBrace]

theorem remainder_cons (sheet : Sheet) (sheets : List Sheet) :
    remainder (sheet :: sheets) = Sign.comma :: (sheet.member ++ remainder sheets) := by
  rw [remainder, List.flatMap_cons, List.append_assoc]
  rfl

theorem ends_remainder (sheets : List Sheet) : Ends (remainder sheets) := by
  cases sheets with
  | nil => rfl
  | cons sheet sheets => rw [remainder_cons]; rfl

theorem intercalate_member (sheet : Sheet) (sheets : List Sheet) :
    [Sign.comma].intercalate ((sheet :: sheets).map Sheet.member) ++ [Sign.closeBrace] =
      sheet.member ++ remainder sheets := by
  induction sheets generalizing sheet with
  | nil => rw [List.map_singleton, List.intercalate_singleton]; rfl
  | cons next sheets ih =>
      rw [List.map_cons, List.map_cons, List.intercalate_cons_cons, List.append_assoc,
        List.append_assoc, ← List.map_cons, ih, remainder_cons]
      rfl

theorem parts_remainder_iff (hG : Loose G) (hS : Skippable G) {sheets : List Sheet}
    (ht : ∀ sheet ∈ sheets, IsText sheet.text) {parts : List (String × α)}
    (hi : Blanks i (remainder sheets)) :
    Parts Sign.closeBrace (MemberText (NamedText G)) false i parts k ↔
      k = [] ∧ List.Forall₂ (Sheet.Gives G) sheets parts := by
  -- By induction on the sheets: the sign that comes next, a comma or the brace, says whether
  -- there is another one, on the side of the parts as well.
  induction sheets generalizing i parts with
  | nil =>
      constructor
      · intro h
        cases h with
        | close h =>
            obtain ⟨-, rfl⟩ := h.sign_eq hi rfl rfl
            exact ⟨rfl, .nil⟩
        | part hl =>
            cases hl with
            | next h => exact absurd (h.sign_eq hi rfl rfl).1 (by decide)
      · rintro ⟨rfl, h⟩
        cases h
        exact .close hi
  | cons sheet sheets ih =>
      obtain ⟨ht, hts⟩ := List.forall_mem_cons.mp ht
      rw [remainder_cons] at hi
      constructor
      · intro h
        cases h with
        | close h => exact absurd (h.sign_eq hi rfl rfl).1 (by decide)
        | part hl hm h =>
            cases hl with
            | next hc hb =>
                obtain ⟨-, rfl⟩ := hc.sign_eq hi rfl rfl
                obtain rfl := hb.unique (.refl _) hm.begins (sheet.begins.append _)
                obtain ⟨hg, hl⟩ := Sheet.gives_of_memberText ht hG hS (ends_remainder sheets) hm
                  (h.ends rfl)
                obtain ⟨rfl, hs⟩ := (ih hts hl).mp h
                exact ⟨rfl, .cons hg hs⟩
      · rintro ⟨rfl, h⟩
        cases h with
        | @cons _ part _ _ hg hs =>
            obtain ⟨name, v⟩ := part
            obtain ⟨rfl, hf⟩ := hg
            obtain ⟨l, hm, hl⟩ := sheet.memberText hG hf (remainder sheets)
            exact .part (.next hi (.refl _)) hm ((ih hts hl).mpr ⟨rfl, hs⟩)

theorem Parts.first_iff {β : Type} {H : Grammar β} {b : UInt8} {vs : List β}
    (hb : isBlank b = false) (hc : b ≠ Sign.closeBrace) :
    Parts Sign.closeBrace H true (b :: i) vs k ↔
      Parts Sign.closeBrace H false (Sign.comma :: b :: i) vs k := by
  constructor
  · intro h
    cases h with
    | close h => exact absurd (h.sign_eq (.refl _) rfl hb).1.symm hc
    | part hl hv h =>
        cases hl with
        | first hl => exact .part (.next (.refl _) hl) hv h
  · intro h
    cases h with
    | close h => exact absurd (h.sign_eq (.refl _) rfl rfl).1 (by decide)
    | part hl hv h =>
        cases hl with
        | next hl hl' =>
            obtain ⟨-, rfl⟩ := hl.sign_eq (.refl _) rfl rfl
            exact .part (.first hl') hv h

/-- The parts of an assembled object are those of its sheets, one each and in their order. -/
theorem parts_assemble_iff (hG : Loose G) (hS : Skippable G) {sheets : List Sheet}
    (ht : ∀ sheet ∈ sheets, IsText sheet.text) {parts : List (String × α)} :
    Parts Sign.closeBrace (MemberText (NamedText G)) true
        ([Sign.comma].intercalate (sheets.map Sheet.member) ++ [Sign.closeBrace]) parts k ↔
      k = [] ∧ List.Forall₂ (Sheet.Gives G) sheets parts := by
  cases sheets with
  | nil =>
      constructor
      · intro h
        cases h with
        | close h =>
            obtain ⟨-, rfl⟩ := h.sign_eq (.refl [Sign.closeBrace]) rfl rfl
            exact ⟨rfl, .nil⟩
        | part hl hm =>
            cases hl with
            | first h =>
                cases hm with
                | mk => exact absurd (h.sign_eq (.refl [Sign.closeBrace]) rfl rfl).1 (by decide)
      · rintro ⟨rfl, h⟩
        cases h
        exact .close (.refl _)
  | cons sheet sheets =>
      rw [intercalate_member, sheet.member_append, Parts.first_iff rfl (by decide),
        ← sheet.member_append, ← remainder_cons]
      exact parts_remainder_iff hG hS ht (.refl _)

end EnumOrdering.Json
