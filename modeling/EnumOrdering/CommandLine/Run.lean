import EnumOrdering.CommandLine.Help
import EnumOrdering.Config.Basic

/-!
# Running the command line

The configuration is read, its source is loaded once, and then the command is
carried out. A program that has to listen leaves that to its environment.
-/

namespace EnumOrdering

/-- The outcome of a load that was never asked for. No answer depends on it. -/
def Load.absent : Load := ⟨.error (.sourceUnavailable "" ""), []⟩

/-- Whether a request by a name and a token of an operation asks for a load. -/
def Ranker.asksForLoad (r : Ranker) (name : String) (token : Option String) : Bool :=
  match Request.parse r.reloadMark name token with
  | .ok request => request.operation.reloads
  | .error _ => false

namespace CommandLine

open Source (Environment)

/-- What a program prints and how it ends. -/
structure Outcome where
  exit : Nat
  output : String
  errors : String
deriving Repr, DecidableEq

/-- What a run comes to: an end, or a server to keep. -/
inductive Result
  | ended (o : Outcome)
  | listening (ranker : Ranker) (source : Source) (store : Store) (address : Net.SocketAddress)

/-- A run that ends well. -/
def success (output : String) : Result := .ended ⟨0, output, ""⟩

/-- A run that fails. -/
def failed (reason : String) : Result := .ended ⟨1, "", "Error: " ++ reason ++ "\n"⟩

/-- A run whose arguments make no sense. -/
def misused (e : UsageError) : Result := .ended ⟨2, "", e.message ++ "\n"⟩

/-- The line of a value with its order. -/
def valueLine (e : Evaluator) (value : String) : String :=
  value ++ "\t" ++ Decimal.intText (e.valueFor (some value)).toInt ++ "\n"

/-- What the evaluation of values prints. -/
def evaluation (values : List String) : Except Failure Evaluator → Result
  | .error e => failed e.message
  | .ok e => success (e.describe ++ "\n" ++ String.join (values.map (valueLine e)))

/-- Carries out a command on a store that has been opened. -/
def perform {m : Type → Type} [Monad m] (env : Environment m) (config : Config) (store : Store) :
    Command → m Result
  | .serve bind =>
    return .listening config.ranker config.source store (bind.getD config.bind)
  | .check => return success ((config.ranker.report store).box ++ "\n")
  | .eval name code values => do
    let token := some (Decimal.intText code.toInt)
    let load ←
      if config.ranker.asksForLoad name token then config.source.load env else pure .absent
    return evaluation values (config.ranker.parse store load name token).answer

/-- Runs the program. `usual` is the file of the configuration where none is
chosen. -/
def run {m : Type → Type} [Monad m] (env : Environment m) (usual : Bytes) (args : List Bytes) :
    m Result :=
  match parse args with
  | .error e => return misused e
  | .ok (.help topic) => return success topic.text
  | .ok (.run arguments) => do
    let path := arguments.config.getD usual
    match Config.ofFile path (← env.read path) with
    | .error refusal => return failed refusal.message
    | .ok config =>
      match (Store.opening config.source.describe (← config.source.load env)).1 with
      | .error e => return failed e.message
      | .ok store => perform env config store arguments.command

end CommandLine

end EnumOrdering
