/-!
# Reading TOML

What every reader of TOML needs: a step that takes something off the front of the
text, with a proof that the rest is shorter, and the blanks, comments and line
ends that stand between the parts. A text that is not TOML is refused at a place;
a place is the number of characters that are still unread there.
-/

namespace EnumOrdering.Toml

/-- The place where a text stops being TOML. -/
structure Fault where
  left : Nat
deriving Repr, DecidableEq

/-- A fault before the given rest of the text. -/
def Fault.before {α : Type} (rest : List Char) : Except Fault α := .error ⟨rest.length⟩

/-- Something read off the front of `input`, and what follows it. -/
structure Step (α : Type) (input : List Char) where
  value : α
  rest : List Char
  shorter : rest.length < input.length

/-- A reader of `α`s. -/
abbrev Reader (α : Type) := (input : List Char) → Except Fault (Step α input)

/-- What was read after some characters of `input` had been passed over. -/
def Step.lift {α : Type} {inner input : List Char} (st : Step α inner)
    (h : inner.length ≤ input.length) : Step α input :=
  ⟨st.value, st.rest, Nat.lt_of_lt_of_le st.shorter h⟩

/-- What was read after at least one character of `input` had been passed over. -/
def Step.after {α : Type} {inner input : List Char} (st : Step α inner)
    (h : inner.length < input.length) : Step α input :=
  st.lift (Nat.le_of_lt h)

theorem Step.rest_lt {α : Type} {inner input : List Char} (st : Step α inner)
    (h : inner.length < input.length) : st.rest.length < input.length :=
  Nat.lt_trans st.shorter h

theorem length_lt_cons (c : Char) (rest : List Char) : rest.length < (c :: rest).length :=
  Nat.lt_succ_self _

theorem length_le_cons (c : Char) (rest : List Char) : rest.length ≤ (c :: rest).length :=
  Nat.le_succ _

theorem length_le_cons₂ (a b : Char) (rest : List Char) :
    rest.length ≤ (a :: b :: rest).length :=
  Nat.le_succ_of_le (Nat.le_succ _)

theorem length_lt_of_cons {input rest : List Char} {c : Char}
    (h : (c :: rest).length ≤ input.length) : rest.length < input.length :=
  h

/-- The same characters read, with another value. -/
def Step.map {α β : Type} {input : List Char} (f : α → β) (st : Step α input) : Step β input :=
  ⟨f st.value, st.rest, st.shorter⟩

/-- The rest of a text after something that may be empty. -/
structure Rest (input : List Char) where
  rest : List Char
  le : rest.length ≤ input.length

theorem Rest.lt_of_cons {input rest : List Char} {c : Char} (r : Rest input)
    (h : r.rest = c :: rest) : rest.length < input.length :=
  length_lt_of_cons (h ▸ r.le)

/-- The whole of a text. -/
def Rest.whole (input : List Char) : Rest input := ⟨input, Nat.le_refl _⟩

/-- Space and tab. -/
def isBlank (c : Char) : Bool := c = ' ' || c = '\t'

/-- Whether a character may stand in a comment: no control character but the
tab. -/
def isPlain (c : Char) : Bool := c = '\t' || (0x20 ≤ c.toNat && c.toNat ≠ 0x7F)

/-- The text from its first character that is not blank. -/
def skipBlank (input : List Char) : List Char := input.dropWhile isBlank

theorem length_skipBlank_le (input : List Char) : (skipBlank input).length ≤ input.length :=
  (List.dropWhile_sublist _).length_le

theorem length_le_of_skipBlank {input rest : List Char} {c : Char}
    (h : skipBlank input = c :: rest) : (c :: rest).length ≤ input.length :=
  h ▸ length_skipBlank_le input

theorem length_lt_of_skipBlank {input rest : List Char} {c : Char}
    (h : skipBlank input = c :: rest) : rest.length < input.length :=
  length_lt_of_cons (length_le_of_skipBlank h)

/-- Takes a line end: a line feed, with a carriage return before it or without. -/
def readNewline? (input : List Char) : Option (Step Unit input) :=
  match input with
  | '\n' :: rest => some ⟨(), rest, length_lt_cons '\n' rest⟩
  | '\r' :: '\n' :: rest => some ⟨(), rest, by simp only [List.length_cons]; omega⟩
  | _ => none

/-- The text after a comment, if there is one at its beginning. -/
def skipComment (input : List Char) : List Char :=
  match input with
  | '#' :: rest => rest.dropWhile isPlain
  | cs => cs

theorem length_skipComment_le (input : List Char) :
    (skipComment input).length ≤ input.length := by
  unfold skipComment
  split
  · have := (List.dropWhile_sublist (p := isPlain) (l := ‹List Char›)).length_le
    simp only [List.length_cons]
    omega
  · exact Nat.le_refl _

/-- Passes over the end of a line: blanks, a comment, and the line end or the end
of the text. -/
def readLineEnd (input : List Char) : Except Fault (Rest input) :=
  let after := skipComment (skipBlank input)
  have le : after.length ≤ input.length :=
    Nat.le_trans (length_skipComment_le _) (length_skipBlank_le _)
  if after.isEmpty then .ok ⟨after, le⟩
  else
    match readNewline? after with
    | some st => .ok ⟨st.rest, Nat.le_trans (Nat.le_of_lt st.shorter) le⟩
    | none => Fault.before after

/-- Passes over blanks, comments and line ends. -/
def readFiller (input : List Char) : Except Fault (Rest input) :=
  match h : skipBlank input with
  | [] => .ok ⟨[], Nat.zero_le _⟩
  | c :: rest =>
    if c = '#' || c = '\n' || c = '\r' then
      match readNewline? (skipComment (c :: rest)) with
      | none => Fault.before (skipComment (c :: rest))
      | some st =>
        have lt : st.rest.length < input.length := by
          have := st.shorter
          have := length_skipComment_le (c :: rest)
          have := length_le_of_skipBlank h
          omega
        match readFiller st.rest with
        | .error f => .error f
        | .ok r => .ok ⟨r.rest, by have := r.le; omega⟩
    else .ok ⟨c :: rest, length_le_of_skipBlank h⟩
termination_by input.length

end EnumOrdering.Toml
