import Interpolation.Error
import Interpolation.Text.Case
import Interpolation.Value

/-!
# The host

The program that a text is interpolated for. It says what its functions and objects do, in a state
of its own that calls may change, and it lets a text see the running process.
-/

namespace Interpolation

/-- A computation that reads and changes the state of the host and may fail. What it changed before
it failed stays changed. -/
abbrev Eval (σ : Type) := ExceptT Error (StateM σ)

/-- Access to the records of a model. -/
structure Manager (σ : Type) where
  /-- The record whose field has a value. -/
  get : String → Value → Eval σ (Option Value)
  /-- The record of a natural key. -/
  getByNaturalKey : Value → Eval σ (Option Value)

/-- What a text can see of the running process. -/
structure Process where
  id : Int64
  directory : Option String
  system : String
  environment : String → Option String

structure Host (σ : Type) where
  /-- The running process as it is now. -/
  process : StateM σ Process
  /-- A view of the environment that is made now. -/
  newEnvironment : StateM σ Nat
  /-- Calls a function of the host with as many arguments as it takes. -/
  call : Nat → List Value → Eval σ Value
  /-- The field of an object, by a name in lowercase. -/
  field : Nat → String → StateM σ (Option Value)
  /-- The text of an object, if it has one. -/
  text : Nat → StateM σ (Option String)
  /-- The records that an object gives access to, if it does. -/
  manager : Nat → StateM σ (Option (Manager σ))

namespace Host

variable {σ : Type}

/-- The field `name` of an object. A variable of the environment is looked up in uppercase first. -/
def fieldOf (host : Host σ) (o : ObjectRef) (name : String) : StateM σ (Option Value) :=
  match o with
  | .process =>
    match name with
    | "env" => do return some (.object (.environment (← host.newEnvironment)))
    | "pid" => return some (.int (← host.process).id)
    | "cwd" => return (← host.process).directory.map .str
    | "os" => return some (.str (← host.process).system)
    | _ => return none
  | .environment _ => do
    let process ← host.process
    return ((process.environment (Text.upperCase name)).or (process.environment name)).map .str
  | .host id => host.field id name

/-- The text of an object. The process and its environment have none. -/
def textOf (host : Host σ) : ObjectRef → StateM σ (Option String)
  | .host id => host.text id
  | _ => pure none

/-- The records that an object gives access to. -/
def managerOf (host : Host σ) : ObjectRef → StateM σ (Option (Manager σ))
  | .host id => host.manager id
  | _ => pure none

end Host
end Interpolation
