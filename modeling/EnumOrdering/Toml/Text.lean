import EnumOrdering.Toml.Reader

/-!
# Texts and names in TOML

A text stands between quotes of either kind, one on each side or three. Between
double quotes a backslash begins an escape. A text between three quotes may span
lines, and its first line end does not count where it stands right at the
beginning; quotes in it may stand alone or in pairs, also right before its end.
-/

namespace EnumOrdering.Toml

/-- A kind of quote. -/
inductive Quote
  | double
  | single
deriving Repr, DecidableEq

/-- The sign of a quote. -/
def Quote.sign : Quote → Char
  | .double => '"'
  | .single => '\''

/-- Whether a character stands for itself between quotes. -/
def Quote.holds (q : Quote) (c : Char) : Bool :=
  isPlain c && c ≠ q.sign && (c ≠ '\\' || q = .single)

/-- The value of a hexadecimal digit. -/
def hexValue? (c : Char) : Option Nat :=
  if '0' ≤ c ∧ c ≤ '9' then some (c.toNat - '0'.toNat)
  else if 'a' ≤ c ∧ c ≤ 'f' then some (c.toNat - 'a'.toNat + 10)
  else if 'A' ≤ c ∧ c ≤ 'F' then some (c.toNat - 'A'.toNat + 10)
  else none

/-- The character of a number, if there is one. -/
def charOf? (n : Nat) : Option Char := if h : n.isValidChar then some (Char.ofNatAux n h) else none

/-- Reads a character given by `count` hexadecimal digits. -/
def readHex (count : Nat) (input : List Char) : Except Fault (Step Char input) :=
  if h : 0 < count ∧ count ≤ input.length then
    match ((input.take count).mapM hexValue?).map (·.foldl (fun n d => n * 16 + d) 0) with
    | none => Fault.before input
    | some n =>
      match charOf? n with
      | none => Fault.before input
      | some c => .ok ⟨c, input.drop count, by simp only [List.length_drop]; omega⟩
  else Fault.before input

/-- The character of an escape by letter. -/
def escapedChar? (c : Char) : Option Char :=
  if c = 'b' then some '\x08'
  else if c = 't' then some '\t'
  else if c = 'n' then some '\n'
  else if c = 'f' then some '\x0c'
  else if c = 'r' then some '\r'
  else if c = '"' then some '"'
  else if c = '\\' then some '\\'
  else none

/-- Reads an escape after its backslash. -/
def readEscape (input : List Char) : Except Fault (Step Char input) :=
  match input with
  | [] => Fault.before []
  | c :: rest =>
    match escapedChar? c with
    | some e => .ok ⟨e, rest, length_lt_cons c rest⟩
    | none =>
      if c = 'u' then (readHex 4 rest).map (·.lift (length_le_cons c rest))
      else if c = 'U' then (readHex 8 rest).map (·.lift (length_le_cons c rest))
      else Fault.before (c :: rest)

/-- Reads a text of one line after its opening quote, and the closing one. -/
def readShort (q : Quote) (input : List Char) : Except Fault (Step (List Char) input) :=
  match input with
  | [] => Fault.before []
  | c :: rest =>
    if c = q.sign then .ok ⟨[], rest, length_lt_cons c rest⟩
    else if q.holds c then
      match readShort q rest with
      | .error f => .error f
      | .ok st => .ok ((st.map (c :: ·)).lift (length_le_cons c rest))
    else if c = '\\' then
      match readEscape rest with
      | .error f => .error f
      | .ok e =>
        have := e.shorter
        match readShort q e.rest with
        | .error f => .error f
        | .ok st => .ok ((st.map (e.value :: ·)).lift (by simp only [List.length_cons]; omega))
    else Fault.before (c :: rest)
termination_by input.length

/-- The text after blanks and line ends. -/
def skipBlankLines (input : List Char) : List Char :=
  match input with
  | '\r' :: '\n' :: rest => skipBlankLines rest
  | c :: rest => if isBlank c || c = '\n' then skipBlankLines rest else c :: rest
  | [] => []

theorem length_skipBlankLines_le (input : List Char) :
    (skipBlankLines input).length ≤ input.length := by
  fun_induction skipBlankLines input with
  | case1 rest ih => simp only [List.length_cons]; omega
  | case2 c rest _ _ ih => simp only [List.length_cons]; omega
  | case3 => exact Nat.le_refl _
  | case4 => exact Nat.le_refl _

/-- Passes over a line end that was escaped, with the blanks before it and all
blanks and line ends after it. -/
def skipEscapedLine? (input : List Char) : Option (Rest input) :=
  match readNewline? (skipBlank input) with
  | none => none
  | some st =>
    some ⟨skipBlankLines st.rest, by
      have := length_skipBlankLines_le st.rest
      have := st.shorter
      have := length_skipBlank_le input
      omega⟩

/-- Reads a text of many lines after its opening quotes, and the closing ones. -/
def readLong (q : Quote) (input : List Char) : Except Fault (Step (List Char) input) :=
  match input with
  | [] => Fault.before []
  | c :: rest =>
    if c = q.sign then
      let more := (rest.takeWhile (· = q.sign)).length
      if more < 2 then
        match readLong q rest with
        | .error f => .error f
        | .ok st => .ok ((st.map (c :: ·)).lift (length_le_cons c rest))
      else
        let inner := min (more - 2) 2
        .ok ⟨List.replicate inner q.sign, rest.drop (inner + 2), by
          simp only [List.length_drop, List.length_cons]
          omega⟩
    else if q.holds c then
      match readLong q rest with
      | .error f => .error f
      | .ok st => .ok ((st.map (c :: ·)).lift (length_le_cons c rest))
    else if c = '\\' then
      match skipEscapedLine? rest with
      | some r =>
        have := r.le
        match readLong q r.rest with
        | .error f => .error f
        | .ok st => .ok (st.lift (by simp only [List.length_cons]; omega))
      | none =>
        match readEscape rest with
        | .error f => .error f
        | .ok e =>
          have := e.shorter
          match readLong q e.rest with
          | .error f => .error f
          | .ok st => .ok ((st.map (e.value :: ·)).lift (by simp only [List.length_cons]; omega))
    else
      match readNewline? (c :: rest) with
      | none => Fault.before (c :: rest)
      | some n =>
        have := n.shorter
        match readLong q n.rest with
        | .error f => .error f
        | .ok st => .ok ((st.map ('\n' :: ·)).lift (by omega))
termination_by input.length
decreasing_by all_goals simp_all only [List.length_cons] <;> omega

/-- Reads a text after its first opening quote. -/
def readText (q : Quote) (input : List Char) : Except Fault (Step String input) :=
  match input with
  | a :: b :: rest =>
    if a = q.sign && b = q.sign then
      match readNewline? rest with
      | some n =>
        (readLong q n.rest).map fun st => (st.map String.ofList).lift (by
          have := n.shorter
          simp only [List.length_cons]
          omega)
      | none =>
        (readLong q rest).map fun st => (st.map String.ofList).lift (by
          simp only [List.length_cons]
          omega)
    else (readShort q (a :: b :: rest)).map (·.map String.ofList)
  | cs => (readShort q cs).map (·.map String.ofList)

/-- The kind of a quote by its sign. -/
def quote? (c : Char) : Option Quote :=
  if c = '"' then some .double else if c = '\'' then some .single else none

/-- The characters of a name without quotes. -/
def isBare (c : Char) : Bool := c.isAlphanum || c = '-' || c = '_'

/-- A name, with the place where it stands. -/
structure Key where
  name : String
  place : Nat
deriving Repr, DecidableEq

/-- Reads a name. -/
def readKey (input : List Char) : Except Fault (Step Key input) :=
  match input with
  | [] => Fault.before []
  | c :: rest =>
    match quote? c with
    | some q =>
      (readShort q rest).map fun st =>
        (st.map fun cs => ⟨String.ofList cs, (c :: rest).length⟩).lift (length_le_cons c rest)
    | none =>
      if isBare c then
        .ok ⟨⟨String.ofList (c :: rest.takeWhile isBare), (c :: rest).length⟩,
          rest.dropWhile isBare, by
            have := (List.dropWhile_sublist (p := isBare) (l := rest)).length_le
            simp only [List.length_cons]
            omega⟩
      else Fault.before (c :: rest)

/-- Names with points between them: all but the last, and the last. -/
structure KeyPath where
  front : List Key
  last : Key
deriving Repr, DecidableEq

/-- Reads names with points between them and blanks around each. -/
def readKeys (input : List Char) : Except Fault (Step KeyPath input) :=
  match readKey (skipBlank input) with
  | .error f => .error f
  | .ok key =>
    have lt : key.rest.length < input.length :=
      Nat.lt_of_lt_of_le key.shorter (length_skipBlank_le input)
    match h : skipBlank key.rest with
    | '.' :: rest =>
      have := length_lt_of_skipBlank h
      match readKeys rest with
      | .error f => .error f
      | .ok st =>
        .ok ((st.map fun p => ⟨key.value :: p.front, p.last⟩).lift (by omega))
    | rest => .ok ⟨⟨[], key.value⟩, rest, by
        have := h ▸ length_skipBlank_le key.rest
        omega⟩
termination_by input.length

/-- The number of names that a path may have. -/
def maxKeys : Nat := 79

/-- Reads a path of names that is not too long. -/
def readPath (input : List Char) : Except Fault (Step KeyPath input) :=
  match readKeys input with
  | .error f => .error f
  | .ok st => if st.value.front.length < maxKeys then .ok st else Fault.before input

end EnumOrdering.Toml
