import EnumOrdering.Net.SocketAddress
import EnumOrdering.Text.Utf8

/-!
# Command line arguments

The program takes an option for its configuration and one of three commands. An
argument that begins with a dash is an option; its value stands in the same
argument or is the next one, which then may not look like an option itself. After
two dashes everything is a word. The option for the configuration may stand
before the command and after it; the one after it counts.

Arguments are bytes, for they may name files. Words and values that stand alone
are looked into only when the next argument has been recognised, so an argument
that is no option of its level is refused before a value that makes no sense.
-/

namespace EnumOrdering.CommandLine

/-- What is asked of the program. -/
inductive Command
  | serve (bind : Option Net.SocketAddress)
  | check
  | eval (name : String) (code : Int64) (values : List String)
deriving Repr, DecidableEq

/-- What the arguments ask for. -/
structure Arguments where
  /-- The file of the configuration, unless it is the usual one. -/
  config : Option Bytes
  command : Command
deriving Repr, DecidableEq

/-- An option that takes a value. -/
inductive Setting
  | config
  | bind
  | op
deriving Repr, DecidableEq

/-- The name of an option after its two dashes. -/
def Setting.name : Setting → String
  | .config => "config"
  | .bind => "bind"
  | .op => "op"

/-- An option as it is shown with its value. -/
def Setting.shown : Setting → String
  | .config => "--config <CONFIG>"
  | .bind => "--bind <BIND>"
  | .op => "--op <OP>"

/-- What is wrong with the arguments. -/
inductive UsageError
  | unknownArgument (arg : String)
  | unknownCommand (arg : String)
  | missingValue (s : Setting)
  | repeated (s : Setting)
  | invalidValue (value : String) (s : Setting) (reason : String)
  | helpWithValue (value : String)
  | missingField
  | notUtf8
deriving Repr, DecidableEq

/-- The wording of what is wrong with the arguments. -/
def UsageError.message : UsageError → String
  | .unknownArgument arg => s!"error: unexpected argument '{arg}' found"
  | .unknownCommand arg => s!"error: unrecognized subcommand '{arg}'"
  | .missingValue s => s!"error: a value is required for '{s.shown}' but none was supplied"
  | .repeated s => s!"error: the argument '{s.shown}' cannot be used multiple times"
  | .invalidValue value s reason => s!"error: invalid value '{value}' for '{s.shown}': {reason}"
  | .helpWithValue value =>
    s!"error: unexpected value '{value}' for '--help' found; no more were expected"
  | .missingField =>
    "error: the following required arguments were not provided:\n  <FIELD>"
  | .notUtf8 => "error: invalid UTF-8 was detected in one or more arguments"

/-- The part of the command line that an argument belongs to. -/
inductive Level
  | program
  | serve
  | check
  | eval
deriving Repr, DecidableEq

/-- The options of a level. -/
def Level.settings : Level → List Setting
  | .program => [.config]
  | .serve => [.bind, .config]
  | .check => [.config]
  | .eval => [.op, .config]

/-- What help can be asked for: a level, or the command that gives help. -/
inductive Topic
  | level (l : Level)
  | help
deriving Repr, DecidableEq

/-- What the name of a command stands for. -/
def Topic.ofName? (name : Bytes) : Option Topic :=
  match name.text? with
  | some "serve" => some (.level .serve)
  | some "check" => some (.level .check)
  | some "eval" => some (.level .eval)
  | some "help" => some .help
  | _ => none

/-! ## Reading numbers -/

/-- Why a text is no integer of 64 bits. -/
inductive NumeralFault
  | empty
  | digit
  | tooLarge
  | tooSmall
deriving Repr, DecidableEq

/-- The wording of why a text is no integer. -/
def NumeralFault.message : NumeralFault → String
  | .empty => "cannot parse integer from empty string"
  | .digit => "invalid digit found in string"
  | .tooLarge => "number too large to fit in target type"
  | .tooSmall => "number too small to fit in target type"

/-- The number that digits continue `value` to, as long as it does not exceed
`limit`; the first character that does not fit decides what is wrong. -/
def digits (limit : Nat) (excess : NumeralFault) : Nat → List Char → Except NumeralFault Nat
  | value, [] => .ok value
  | value, c :: rest =>
    match Decimal.digit? c with
    | none => .error .digit
    | some d =>
      if value * 10 + d ≤ limit then digits limit excess (value * 10 + d) rest else .error excess

/-- The integer of 64 bits that a text stands for. -/
def int64 (text : String) : Except NumeralFault Int64 :=
  match text.toList with
  | [] => .error .empty
  | ['+'] => .error .digit
  | ['-'] => .error .digit
  | '-' :: rest =>
    (digits Int64.minValue.toInt.natAbs .tooSmall 0 rest).map fun n => Int64.ofInt (-n)
  | '+' :: rest => (digits Int64.maxValue.toInt.natAbs .tooLarge 0 rest).map fun n => Int64.ofNat n
  | cs => (digits Int64.maxValue.toInt.natAbs .tooLarge 0 cs).map fun n => Int64.ofNat n

/-! ## Reading arguments -/

/-- What an argument is. -/
inductive Kind
  | word
  /-- Two dashes: only words follow. -/
  | dashes
  | help
  | helpWithValue (value : Bytes)
  | setting (s : Setting) (attached : Option Bytes)
  | unknown (shown : Bytes)
deriving Repr, DecidableEq

/-- The dash that an option begins with. -/
abbrev dash : UInt8 := 0x2D

/-- The sign between an option and its value. -/
abbrev equals : UInt8 := 0x3D

/-- The value after an equals sign, where there is one, and what stands before
it. -/
def splitEquals (arg : Bytes) : Bytes × Option Bytes :=
  match arg.span (· ≠ equals) with
  | (front, []) => (front, none)
  | (front, _ :: value) => (front, some value)

/-- The kind of an argument with two dashes and a name. -/
def kindOfLong (level : Level) (arg : Bytes) : Kind :=
  let (name, value) := splitEquals arg
  if name = Bytes.ofText "help" then
    match value with
    | none => .help
    | some value => .helpWithValue value
  else
    match level.settings.find? (Bytes.ofText ·.name = name) with
    | some s => .setting s value
    | none => .unknown (dash :: dash :: name)

/-- The kind of an argument with one dash: its first character names the option,
and what follows is its value. -/
def kindOfShort (b : UInt8) (rest : Bytes) : Kind :=
  match Utf8.head b rest with
  | .broken _ => .unknown (dash :: b :: rest)
  | .char c rest =>
    if c = 'h' then .help
    else if c = 'c' then
      match rest with
      | [] => .setting .config none
      | sign :: value => .setting .config (some (if sign = equals then value else rest))
    else .unknown (dash :: Utf8.encode [c])

/-- The kind of an argument. -/
def kindOf (level : Level) : Bytes → Kind
  | [] => .word
  | [_] => .word
  | b :: b' :: rest =>
    if b ≠ dash then .word
    else if b' ≠ dash then kindOfShort b' rest
    else if rest.isEmpty then .dashes
    else kindOfLong level rest

/-- What has been read of a level but not yet looked into. -/
inductive Pending
  | nothing
  | setting (s : Setting) (value : Option Bytes)
  | words (args : List Bytes)
deriving Repr, DecidableEq

/-- What has been found on a level. -/
structure Found where
  config : Option Bytes
  bind : Option Net.SocketAddress
  op : Option Int64
  words : List String
  pending : Pending

namespace Found

/-- Nothing found. -/
def nothing : Found := ⟨none, none, none, [], .nothing⟩

/-- The text of an argument. -/
def textOf (arg : Bytes) : Except UsageError String :=
  match arg.text? with
  | some text => .ok text
  | none => .error .notUtf8

/-- Takes the value of an option. -/
def set (found : Found) (s : Setting) (value : Bytes) : Except UsageError Found :=
  match s with
  | .config =>
    if found.config.isSome then .error (.repeated s)
    else if value.isEmpty then .error (.missingValue s)
    else .ok { found with config := some value }
  | .bind =>
    if found.bind.isSome then .error (.repeated s)
    else do
      let text ← textOf value
      match Net.SocketAddress.parse? text with
      | some address => .ok { found with bind := some address }
      | none => .error (.invalidValue text s "invalid socket address syntax")
  | .op =>
    if found.op.isSome then .error (.repeated s)
    else do
      let text ← textOf value
      match int64 text with
      | .ok code => .ok { found with op := some code }
      | .error fault => .error (.invalidValue text s fault.message)

/-- Looks into what has been read so far. -/
def settle (found : Found) : Except UsageError Found :=
  let settled := { found with pending := .nothing }
  match found.pending with
  | .nothing => .ok settled
  | .setting s none => .error (.missingValue s)
  | .setting s (some value) => settled.set s value
  | .words args => do
    let words ← args.mapM textOf
    return { settled with words := found.words ++ words }

/-- Reads an option and the value that stands in the same argument. -/
def attach (found : Found) (s : Setting) (value : Bytes) : Except UsageError Found := do
  (← found.settle).set s value

/-- Reads an option whose value is the next argument. -/
def await (found : Found) (s : Setting) : Except UsageError Found := do
  return { ← found.settle with pending := .setting s none }

/-- Reads a word. The words after the first are looked into together. -/
def push (found : Found) (arg : Bytes) : Except UsageError Found :=
  match found.pending, found.words with
  | .words args, _ :: _ => .ok { found with pending := .words (args ++ [arg]) }
  | _, _ => do return { ← found.settle with pending := .words [arg] }

end Found

/-- How reading a level ends: at the end of the arguments, at a question for help,
or at the word that names a command. -/
inductive Ending
  | done (found : Found)
  | help
  | command (found : Found) (name : Bytes) (rest : List Bytes)

/-- Takes the words after two dashes. -/
def wordsOnly (level : Level) (found : Found) : List Bytes → Except UsageError Ending
  | [] => .ok (.done found)
  | arg :: rest =>
    match level with
    | .eval =>
      match found.push arg with
      | .error e => .error e
      | .ok found => wordsOnly level found rest
    | .program =>
      if (Topic.ofName? arg).isSome then .error (.unknownArgument arg.display)
      else .error (.unknownCommand arg.display)
    | _ => .error (.unknownArgument arg.display)

/-- Reads the arguments of a level. An argument that nothing can be made of is
refused before what has been read so far is looked into. -/
def scan (level : Level) (found : Found) : List Bytes → Except UsageError Ending
  | [] => .ok (.done found)
  | arg :: rest =>
    match kindOf level arg with
    | .dashes => wordsOnly level found rest
    | .help => found.settle.map fun _ => .help
    | .helpWithValue value => .error (.helpWithValue value.display)
    | .unknown shown => .error (.unknownArgument shown.display)
    | .setting s (some value) =>
      match found.attach s value with
      | .error e => .error e
      | .ok found => scan level found rest
    | .setting s none =>
      match found.await s with
      | .error e => .error e
      | .ok found => scan level found rest
    | .word =>
      match found.pending, level with
      | .setting s none, _ => scan level { found with pending := .setting s (some arg) } rest
      | _, .program => .ok (.command found arg rest)
      | _, .eval =>
        match found.push arg with
        | .error e => .error e
        | .ok found => scan level found rest
      | _, _ => .error (.unknownArgument arg.display)

/-- What the arguments come to: a command, or help with something. -/
inductive Parsed
  | run (a : Arguments)
  | help (topic : Topic)
deriving Repr, DecidableEq

/-- The command of what has been found on its level. -/
def commandOf (level : Level) (found : Found) : Except UsageError Command :=
  match level with
  | .eval =>
    match found.words with
    | [] => .error .missingField
    | name :: values => .ok (.eval name (found.op.getD 0) values)
  | .check => .ok .check
  | _ => .ok (.serve found.bind)

/-- Reads the arguments of a command. -/
def parseCommand (level : Level) (args : List Bytes) : Except UsageError Parsed := do
  match ← scan level .nothing args with
  | .help => return .help (.level level)
  | .command _ name _ => throw (.unknownArgument name.display)
  | .done found =>
    let found ← found.settle
    return .run ⟨found.config, ← commandOf level found⟩

/-- Reads what help is asked for: the name of a command and nothing after it. -/
def parseHelp : List Bytes → Except UsageError Parsed
  | [] => .ok (.help (.level .program))
  | name :: rest =>
    match Topic.ofName? name, rest with
    | none, _ => .error (.unknownCommand name.display)
    | some _, extra :: _ => .error (.unknownCommand extra.display)
    | some topic, [] => .ok (.help topic)

/-- What was found before the command adds to what the command asks for. -/
def Found.complete (found : Found) : Parsed → Except UsageError Parsed
  | .help topic => .ok (.help topic)
  | .run a => do
    let found ← found.settle
    return .run { a with config := a.config.or found.config }

/-- Reads the arguments of the program. -/
def parse (args : List Bytes) : Except UsageError Parsed := do
  match ← scan .program .nothing args with
  | .help => return .help (.level .program)
  | .done found => found.complete (.run ⟨none, .serve none⟩)
  | .command found name rest =>
    match Topic.ofName? name with
    | none => throw (.unknownCommand name.display)
    | some .help => parseHelp rest
    | some (.level level) => found.complete (← parseCommand level rest)

end EnumOrdering.CommandLine
