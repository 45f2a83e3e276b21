import EnumOrdering.Event
import EnumOrdering.Mapping
import EnumOrdering.Report

/-!
# The store

The enumerations in use, with the number of times they have been replaced. They
are only ever replaced as a whole, each time in the next generation; a snapshot
that was taken before stays what it was. A reload that fails leaves them in place
and is only counted.
-/

namespace EnumOrdering

/-- Enumerations as they were at one time, with their generation. -/
structure Snapshot where
  enumerations : EnumerationSet
  generation : UInt64
deriving DecidableEq

/-- What loading a source came to, with the events on the way. -/
structure Load where
  outcome : Except Failure EnumerationSet
  events : List Event

/-- The state of a store. -/
structure Store where
  current : Snapshot
  reloadsOk : UInt64
  reloadsFailed : UInt64
  lastError : Option String
deriving DecidableEq

namespace Store

/-- A store that begins with the given enumerations, in generation zero. -/
def new (enumerations : EnumerationSet) : Store := ⟨⟨enumerations, 0⟩, 0, 0, none⟩

/-- The generation in use. -/
def generation (s : Store) : UInt64 := s.current.generation

/-- Puts enumerations in place, in the next generation. -/
def install (s : Store) (enumerations : EnumerationSet) : Store :=
  { s with
    current := ⟨enumerations, s.current.generation + 1⟩
    reloadsOk := s.reloadsOk + 1 }

/-- Counts a failed reload. -/
def fail (s : Store) (e : Failure) : Store :=
  { s with
    reloadsFailed := s.reloadsFailed + 1
    lastError := some e.message }

/-- The store of a source loaded for the first time. -/
def opening (source : String) (load : Load) : Except Failure Store × List Event :=
  match load.outcome with
  | .error e => (.error e, load.events)
  | .ok enumerations =>
    (.ok (new enumerations),
      load.events ++ [.opened source enumerations.size enumerations.totalValues])

/-- The report of a store, without where its enumerations come from. -/
def report (s : Store) : Report :=
  { source := ""
    generation := s.current.generation
    enumerationCount := s.current.enumerations.size
    totalValues := s.current.enumerations.totalValues
    reloadsOk := s.reloadsOk
    reloadsFailed := s.reloadsFailed
    lastError := s.lastError }

end Store

/-- What a request to a store comes to: how many loads of the source it took, the
store after it, the answer, and the events on the way. -/
structure Reply (α : Type) where
  loads : Nat
  store : Store
  answer : α
  events : List Event

/-- The same with another answer. -/
def Reply.map {α β : Type} (f : α → β) (reply : Reply α) : Reply β :=
  ⟨reply.loads, reply.store, f reply.answer, reply.events⟩

/-- Reloads a store by one load of its source. -/
def Store.reload (s : Store) (source : String) (load : Load) :
    Reply (Except Failure Snapshot) :=
  match load.outcome with
  | .ok enumerations =>
    let s' := s.install enumerations
    { loads := 1
      store := s'
      answer := .ok s'.current
      events := load.events ++ [.reloaded source enumerations.size s'.generation] }
  | .error e =>
    let s' := s.fail e
    { loads := 1
      store := s'
      answer := .error e
      events := load.events ++ [.reloadFailed s'.generation e.message] }

end EnumOrdering
