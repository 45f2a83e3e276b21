import EnumOrdering.Toml.Moment
import EnumOrdering.Toml.Node

/-!
# TOML documents

A document is a sequence of lines, each with a header, with a name and its value,
or with nothing. Arrays may span lines, tables in braces may not. How deep values
may lie within one another is a number that the reader is given.
-/

namespace EnumOrdering.Toml

/-- Reads a name and its value, with blanks around both. -/
def readPair (value : Reader Node) (input : List Char) :
    Except Fault (Step (KeyPath × Node) input) :=
  match readPath input with
  | .error f => .error f
  | .ok path =>
    match h : path.rest with
    | '=' :: rest =>
      match value (skipBlank rest) with
      | .error f => .error f
      | .ok v => .ok ⟨(path.value, v.value), skipBlank v.rest, by
          have := path.shorter
          have := v.shorter
          have := length_skipBlank_le rest
          have := length_skipBlank_le v.rest
          rw [h, List.length_cons] at *
          omega⟩
    | rest => Fault.before rest

/-- Takes what follows an item of an array: a comma, which is true, or the closing
bracket. -/
def readSeparator (input : List Char) : Except Fault (Step Bool input) :=
  match readFiller input with
  | .error f => .error f
  | .ok next =>
    match h : next.rest with
    | [] => Fault.before []
    | c :: rest =>
      if c = ',' || c = ']' then .ok ⟨c = ',', rest, next.lt_of_cons h⟩
      else Fault.before (c :: rest)

/-- Reads the items of an array after its opening bracket or a comma, and the
closing bracket. -/
def readItems (value : Reader Node) (input : List Char) :
    Except Fault (Step (List Node) input) :=
  match readFiller input with
  | .error f => .error f
  | .ok start =>
    match h : start.rest with
    | [] => Fault.before []
    | c :: rest =>
      if c = ']' then .ok ⟨[], rest, start.lt_of_cons h⟩
      else
        match (value start.rest).map (·.lift start.le) with
        | .error f => .error f
        | .ok v =>
          match readSeparator v.rest with
          | .error f => .error f
          | .ok next =>
            have lt := next.rest_lt v.shorter
            if next.value then
              match readItems value next.rest with
              | .error f => .error f
              | .ok st => .ok ((st.map (v.value :: ·)).after lt)
            else .ok ⟨[v.value], next.rest, lt⟩
termination_by input.length

/-- Reads the pairs of a table in braces, of which some may have been read, and
the closing brace. -/
def readPairs (value : Reader Node) (entries : Entries) (input : List Char) :
    Except Fault (Step Entries input) :=
  match readPair value input with
  | .error f => .error f
  | .ok pair =>
    match entries.addPath .inline pair.value.1 pair.value.2 with
    | none => Fault.before input
    | some entries =>
      have hp := pair.shorter
      match h : pair.rest with
      | ',' :: rest =>
        have lt : rest.length < input.length := by rw [h, List.length_cons] at hp; omega
        match readPairs value entries rest with
        | .error f => .error f
        | .ok st => .ok (st.after lt)
      | '}' :: rest => .ok ⟨entries, rest, by rw [h, List.length_cons] at hp; omega⟩
      | rest => Fault.before rest
termination_by input.length

/-- Reads a table in braces after the opening one. -/
def readInline (value : Reader Node) (input : List Char) : Except Fault (Step Entries input) :=
  match h : skipBlank input with
  | '}' :: rest => .ok ⟨[], rest, length_lt_of_skipBlank h⟩
  | _ => readPairs value [] input

/-- Takes a word off the front of a text. -/
def readWord (word : List Char) (node : Node) (input : List Char) :
    Except Fault (Step Node input) :=
  if h : word.isPrefixOf input ∧ word ≠ [] then
    .ok ⟨node, input.drop word.length, by
      have := (List.isPrefixOf_iff_prefix.1 h.1).length_le
      have := List.length_pos_iff.2 h.2
      simp only [List.length_drop]
      omega⟩
  else Fault.before input

/-- Reads a value without parts that begins with `c`. -/
def readScalar (c : Char) (rest : List Char) : Except Fault (Step Node (c :: rest)) :=
  let place := (c :: rest).length
  match quote? c with
  | some q => (readText q rest).map fun st => (st.map (.text place)).lift (length_le_cons c rest)
  | none =>
    if c = 't' then readWord "true".toList (.boolean place true) (c :: rest)
    else if c = 'f' then readWord "false".toList (.boolean place false) (c :: rest)
    else
      match Moment.read? (c :: rest) with
      | some st => .ok (st.map fun _ => .moment place)
      | none =>
        (readNumber (c :: rest)).map (·.map fun x =>
          match x with
          | .integer z => .integer place z
          | .real x => .real place x)

/-- Reads a value in which `room` arrays and tables may lie within one another. -/
def readValue : (room : Nat) → Reader Node
  | _, [] => Fault.before []
  | room, c :: rest =>
    let place := (c :: rest).length
    if c = '[' || c = '{' then
      match room with
      | 0 => Fault.before (c :: rest)
      | room + 1 =>
        if c = '[' then
          (readItems (readValue room) rest).map fun st =>
            (st.map (.array place)).lift (length_le_cons c rest)
        else
          (readInline (readValue room) rest).map fun st =>
            (st.map (.table (some place) .inline)).lift (length_le_cons c rest)
    else readScalar c rest

/-- How many arrays and tables may lie within one another. -/
def maxDepth : Nat := 79

/-- A header: its names, and whether it is a repeated one. -/
structure Header where
  path : KeyPath
  repeated : Bool
deriving Repr, DecidableEq

/-- Reads a header after its first bracket, and its line end. -/
def readHeader (input : List Char) : Except Fault (Step Header input) :=
  let (repeated, names) :=
    match input with
    | '[' :: rest => (true, rest)
    | rest => (false, rest)
  match readPath names with
  | .error f => .error f
  | .ok path =>
    let after? :=
      match repeated, path.rest with
      | true, ']' :: ']' :: rest => some rest
      | false, ']' :: rest => some rest
      | _, _ => none
    match after? with
    | none => Fault.before path.rest
    | some rest =>
      match readLineEnd rest with
      | .error f => .error f
      | .ok r =>
        if h : r.rest.length < input.length then .ok ⟨⟨path.value, repeated⟩, r.rest, h⟩
        else Fault.before input

/-- A document that is being read: the tables that are complete, and the one
under the last header. -/
structure Draft where
  complete : Entries
  /-- The last header, with its place. -/
  header : Option (Nat × Header)
  current : Entries
deriving Repr

namespace Draft

/-- The draft of an empty document. -/
def empty : Draft := ⟨[], none, []⟩

/-- All tables of a draft. -/
def close (d : Draft) : Option Entries :=
  match d.header with
  | none => some d.current
  | some (place, header) =>
    let table : Node := .table (some place) .header d.current
    if header.repeated then d.complete.closeElement header.path table
    else d.complete.closeTable header.path table

/-- The draft after one more header. -/
def onHeader (d : Draft) (place : Nat) (header : Header) : Option Draft :=
  d.close.bind fun entries =>
    if header.repeated then
      (entries.openElement header.path).map fun complete => ⟨complete, some (place, header), []⟩
    else
      (entries.openTable header.path).map fun (current, complete) =>
        ⟨complete, some (place, header), current⟩

/-- The draft after one more pair. -/
def onPair (d : Draft) (path : KeyPath) (value : Node) : Option Draft :=
  (d.current.addPath .header path value).map fun current => { d with current := current }

end Draft

/-- Reads one line and takes it into the draft. -/
def readLine (d : Draft) (c : Char) (rest : List Char) :
    Except Fault (Step Draft (c :: rest)) :=
  let input := c :: rest
  if c = '#' || c = '\n' || c = '\r' then
    match readLineEnd input with
    | .error f => .error f
    | .ok r => if h : r.rest.length < input.length then .ok ⟨d, r.rest, h⟩ else Fault.before input
  else if c = '[' then
    match readHeader rest with
    | .error f => .error f
    | .ok st =>
      match d.onHeader input.length st.value with
      | none => Fault.before input
      | some d' => .ok ⟨d', st.rest, by have := st.shorter; simp only [List.length_cons]; omega⟩
  else
    match readPair (readValue maxDepth) input with
    | .error f => .error f
    | .ok pair =>
      match readLineEnd pair.rest with
      | .error f => .error f
      | .ok r =>
        match d.onPair pair.value.1 pair.value.2 with
        | none => Fault.before input
        | some d' => .ok ⟨d', r.rest, Nat.lt_of_le_of_lt r.le pair.shorter⟩

/-- Reads the lines of a document. -/
def readLines (d : Draft) (input : List Char) : Except Fault Draft :=
  match h : skipBlank input with
  | [] => .ok d
  | c :: rest =>
    match readLine d c rest with
    | .error f => .error f
    | .ok st =>
      have : st.rest.length < input.length := by
        have := st.shorter
        have := length_le_of_skipBlank h
        omega
      readLines st.value st.rest
termination_by input.length

/-- The text after the mark that tells the order of its bytes. -/
def afterMark (input : List Char) : List Char :=
  match input with
  | '\uFEFF' :: rest => rest
  | cs => cs

/-- The entries of a document. -/
def parse (text : String) : Except Fault Entries :=
  match readLines .empty (afterMark text.toList) with
  | .error f => .error f
  | .ok d =>
    match d.close with
    | none => .error ⟨0⟩
    | some entries => .ok entries

end EnumOrdering.Toml
