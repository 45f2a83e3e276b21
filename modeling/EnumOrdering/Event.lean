import EnumOrdering.Operation
import EnumOrdering.Text.Quoted

/-!
# Log events

What the library logs, each event with its level and its wording.
-/

namespace EnumOrdering

/-- How much an event matters. -/
inductive Level
  | debug
  | info
  | warn
deriving Repr, DecidableEq

/-- The name of a level. -/
def Level.name : Level → String
  | .debug => "DEBUG"
  | .info => "INFO"
  | .warn => "WARN"

/-- Something worth a line in the log. -/
inductive Event
  /-- The source was loaded for the first time. -/
  | opened (source : String) (enumerations values : Nat)
  /-- A reload put new enumerations in place. -/
  | reloaded (source : String) (enumerations : Nat) (generation : UInt64)
  /-- A reload failed. -/
  | reloadFailed (generation : UInt64) (reason : String)
  /-- A marked request named no enumeration. -/
  | markedUnknown (name : String)
  /-- A request found its enumeration. -/
  | resolved (name : String) (generation : UInt64) (operation : Operation)
  /-- A directory held something that is no regular file. -/
  | skipped (path : Bytes)
  /-- A document arrived from afar. -/
  | fetched (url : String) (size : Nat)
  /-- A configuration was read. -/
  | configured (path : Bytes)
deriving Repr, DecidableEq

namespace Event

/-- The level of an event. -/
def level : Event → Level
  | .opened .. => .info
  | .reloaded .. => .info
  | .reloadFailed .. => .warn
  | .markedUnknown .. => .debug
  | .resolved .. => .debug
  | .skipped .. => .debug
  | .fetched .. => .debug
  | .configured .. => .debug

/-- The wording of an event. -/
def message : Event → String
  | .opened source enumerations values =>
    s!"Loaded {Decimal.natText enumerations} enumerations ({Decimal.natText values} values)"
      ++ s!" from {source}"
  | .reloaded source enumerations generation =>
    s!"Enumerations reloaded from {source}: {Decimal.natText enumerations} enumerations,"
      ++ s!" generation={Decimal.natText generation.toNat}"
  | .reloadFailed generation reason =>
    s!"Enumeration reload failed, keeping generation {Decimal.natText generation.toNat}: {reason}"
  | .markedUnknown name =>
    s!"Prefixed reload for unknown enumeration {name}, treating as reload-only"
  | .resolved name generation operation =>
    s!"Resolved enumeration {name} at generation {Decimal.natText generation.toNat}"
      ++ s!" ({operation.name})"
  | .skipped path => "Skipping non-regular entry " ++ Text.quotedBytes path
  | .fetched url size =>
    s!"Fetched enumeration document from {url} ({Decimal.natText size} bytes)"
  | .configured path => "Loaded config from " ++ Text.quotedBytes path

/-- Whether a character could start a command to a terminal. -/
def isCommand (c : Char) : Bool :=
  c = '\x07' || c = '\x08' || c = '\x0c' || c = '\x1b' || c = '\x7f'
    || (0x80 ≤ c.toNat && c.toNat ≤ 0x9F)

/-- A character as it stands in the log. -/
def shownChar (c : Char) : List Char :=
  if isCommand c then
    if c.toNat < 0x80 then
      ['\\', 'x'] ++ (Text.hexByte (UInt8.ofNat c.toNat)).map Char.toLower
    else ['\\', 'u', '{'] ++ Text.hexDigits c.toNat ++ ['}']
  else [c]

/-- The line of an event in the log. A terminal that shows it takes no command
from the texts in it. -/
def line (e : Event) : String :=
  e.level.name ++ " " ++ String.ofList (e.message.toList.flatMap shownChar)

end Event

end EnumOrdering
