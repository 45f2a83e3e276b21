import EnumOrdering.Json.Fault

/-!
# Readers

A reader takes something off the front of a byte string. What it gives back
carries a proof that the rest is shorter, so that whatever repeats a reader
comes to an end. Here are the parts every reader of JSON is made of: blanks,
words, and the loops over the items of an array and the members of an object.
-/

namespace EnumOrdering.Json

/-- Something read off the front of `input`, and what follows it. -/
structure Step (α : Type) (input : Bytes) where
  value : α
  rest : Bytes
  shorter : rest.length < input.length

/-- A reader of `α`s. -/
abbrev Reader (α : Type) := (input : Bytes) → Except Fault (Step α input)

/-- What was read after some bytes of `input` had been passed over. -/
def Step.lift {α : Type} {inner input : Bytes} (st : Step α inner)
    (h : inner.length ≤ input.length) : Step α input :=
  ⟨st.value, st.rest, Nat.lt_of_lt_of_le st.shorter h⟩

/-- What was read after at least one byte of `input` had been passed over. -/
def Step.after {α : Type} {inner input : Bytes} (st : Step α inner)
    (h : inner.length < input.length) : Step α input :=
  st.lift (Nat.le_of_lt h)

theorem Step.rest_lt {α : Type} {inner input : Bytes} (st : Step α inner)
    (h : inner.length < input.length) : st.rest.length < input.length :=
  Nat.lt_trans st.shorter h

theorem length_lt_cons (b : UInt8) (rest : Bytes) : rest.length < (b :: rest).length :=
  Nat.lt_succ_self _

theorem length_le_cons (b : UInt8) (rest : Bytes) : rest.length ≤ (b :: rest).length :=
  Nat.le_succ _

theorem length_lt_of_cons {input rest : Bytes} {b : UInt8}
    (h : (b :: rest).length < input.length) : rest.length < input.length :=
  Nat.lt_of_succ_lt h

/-- The same bytes read, with another value. -/
def Step.map {α β : Type} {input : Bytes} (f : α → β) (st : Step α input) : Step β input :=
  ⟨f st.value, st.rest, st.shorter⟩

namespace Sign

abbrev openBracket : UInt8 := 0x5B
abbrev closeBracket : UInt8 := 0x5D
abbrev openBrace : UInt8 := 0x7B
abbrev closeBrace : UInt8 := 0x7D
abbrev comma : UInt8 := 0x2C
abbrev colon : UInt8 := 0x3A
abbrev quote : UInt8 := 0x22
abbrev backslash : UInt8 := 0x5C
abbrev minus : UInt8 := 0x2D
abbrev plus : UInt8 := 0x2B
abbrev point : UInt8 := 0x2E
abbrev zero : UInt8 := 0x30

end Sign

/-- Space, line feed, tab and carriage return. -/
def isBlank (b : UInt8) : Bool := b = 0x20 || b = 0x0A || b = 0x09 || b = 0x0D

/-- The input from its first byte that is not blank. -/
def skipBlank (input : Bytes) : Bytes := input.dropWhile isBlank

theorem length_skipBlank_le (input : Bytes) : (skipBlank input).length ≤ input.length :=
  (List.dropWhile_sublist _).length_le

theorem length_le_of_skipBlank {input rest : Bytes} {b : UInt8}
    (h : skipBlank input = b :: rest) : (b :: rest).length ≤ input.length :=
  h ▸ length_skipBlank_le input

theorem length_lt_of_skipBlank {input rest : Bytes} {b : UInt8}
    (h : skipBlank input = b :: rest) : rest.length < input.length :=
  Nat.lt_of_lt_of_le (length_lt_cons b rest) (length_le_of_skipBlank h)

/-- Takes a word off the front of the input, byte by byte. -/
def readWord : (word : Bytes) → (input : Bytes) → Except Fault Bytes
  | [], input => .ok input
  | _ :: _, [] => .error (.here .unfinishedValue [])
  | w :: word, b :: input =>
    if b = w then readWord word input else .error (.here .wantedWord input)

theorem length_readWord_le {word input rest : Bytes} (h : readWord word input = .ok rest) :
    rest.length ≤ input.length := by
  fun_induction readWord word input with
  | case1 => cases h; exact Nat.le_refl _
  | case2 => cases h
  | case3 w word input ih =>
    have := ih h
    simp only [List.length_cons]
    omega
  | case4 => cases h

/-- Reads a word whose first byte has been recognised and taken. -/
def readTail {α : Type} (value : α) (word : Bytes) {input tail : Bytes}
    (h : tail.length < input.length) : Except Fault (Step α input) :=
  match e : readWord word tail with
  | .ok rest => .ok ⟨value, rest, Nat.lt_of_le_of_lt (length_readWord_le e) h⟩
  | .error f => .error f

/-- What comes next in an array or an object: one more part, beginning at
`rest`, or the end, with `rest` after the closing sign. -/
inductive Next (input : Bytes)
  | more (rest : Bytes) (le : rest.length ≤ input.length)
  | done (rest : Bytes) (lt : rest.length < input.length)

/-- Looks for the next item of an array. `first` says that none has been read
yet. -/
def nextItem (first : Bool) (input : Bytes) : Except Fault (Next input) :=
  match h : skipBlank input with
  | [] => .error (.ahead .unfinishedList [])
  | b :: rest =>
    have lt := length_lt_of_skipBlank h
    if b = Sign.closeBracket then .ok (.done rest lt)
    else if first then .ok (.more (b :: rest) (length_le_of_skipBlank h))
    else if b = Sign.comma then
      match h' : skipBlank rest with
      | [] => .error (.ahead .unfinishedValue [])
      | b' :: rest' =>
        if b' = Sign.closeBracket then .error (.ahead .trailingComma (b' :: rest'))
        else .ok (.more (b' :: rest') (by
          have := h' ▸ length_skipBlank_le rest
          omega))
    else .error (.ahead .wantedListEnd (b :: rest))

/-- Reads the items of an array after its opening bracket, and the closing one. -/
def readItems {α : Type} (item : Reader α) (index : Nat) (input : Bytes) :
    Except Fault (Step (List α) input) :=
  match nextItem (index == 0) input with
  | .error f => .error f
  | .ok (.done rest lt) => .ok ⟨[], rest, lt⟩
  | .ok (.more start le) =>
    match item start with
    | .error f => .error (f.within (.index index))
    | .ok st =>
      have := st.shorter
      match readItems item (index + 1) st.rest with
      | .error f => .error f
      | .ok others =>
        .ok ⟨st.value :: others.value, others.rest, by have := others.shorter; omega⟩
termination_by input.length

/-- Looks for the next member of an object; one more begins after the opening
quote of its name. `first` says that none has been read yet. -/
def nextMember (first : Bool) (input : Bytes) : Except Fault (Next input) :=
  match h : skipBlank input with
  | [] => .error (.ahead .unfinishedObject [])
  | b :: rest =>
    have lt := length_lt_of_skipBlank h
    if b = Sign.closeBrace then .ok (.done rest lt)
    else if first then
      if b = Sign.quote then .ok (.more rest (Nat.le_of_lt lt))
      else .error (.ahead .wantedKey (b :: rest))
    else if b = Sign.comma then
      match h' : skipBlank rest with
      | [] => .error (.ahead .unfinishedValue [])
      | b' :: rest' =>
        if b' = Sign.quote then .ok (.more rest' (by
          have := length_lt_of_skipBlank h'
          omega))
        else if b' = Sign.closeBrace then .error (.ahead .trailingComma (b' :: rest'))
        else .error (.ahead .wantedKey (b' :: rest'))
    else .error (.ahead .wantedObjectEnd (b :: rest))

/-- Takes the colon between a name and its value. -/
def readColon (input : Bytes) : Except Fault (Step Unit input) :=
  match h : skipBlank input with
  | [] => .error (.ahead .unfinishedObject [])
  | b :: rest =>
    if b = Sign.colon then .ok ⟨(), rest, length_lt_of_skipBlank h⟩
    else .error (.ahead .wantedColon (b :: rest))

/-- The bytes after blanks and a closing brace, if there is one. A mismatch in
an object is reported there. -/
def afterBrace (input : Bytes) : Bytes :=
  match skipBlank input with
  | [] => []
  | b :: rest => if b = Sign.closeBrace then rest else b :: rest

/-- Reads the members of an object after its opening brace, and the closing one.
`name` reads a name after its quote. What has been read so far is a state;
`onKey` says for a state and a name how the value is read into the next state,
or why the name is not wanted. -/
def readMembers {σ : Type} (name : Reader String) (onKey : σ → String → Except Mismatch (Reader σ))
    (first : Bool) (state : σ) (input : Bytes) : Except Fault (Step σ input) :=
  match nextMember first input with
  | .error f => .error f
  | .ok (.done rest lt) => .ok ⟨state, rest, lt⟩
  | .ok (.more start le) =>
    match name start with
    | .error f => .error f
    | .ok key =>
      have := key.shorter
      match onKey state key.value with
      | .error m => .error (.shape m (afterBrace key.rest))
      | .ok read =>
        match readColon key.rest with
        | .error f => .error f
        | .ok colon =>
          have := colon.shorter
          match read colon.rest with
          | .error f => .error (f.within (.field key.value))
          | .ok st =>
            have := st.shorter
            match readMembers name onKey false st.value st.rest with
            | .error f => .error f
            | .ok others => .ok (others.lift (by omega))
termination_by input.length

end EnumOrdering.Json
