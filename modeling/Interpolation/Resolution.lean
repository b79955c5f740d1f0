import Interpolation.Builtin.Call

/-!
# What a sigil stands for

The root of a chain is looked up by name, and each member in turn is an item or a field of what is
before it, or else a function of the context that is called with it. An argument selects an item,
goes to a function, or asks a model for a record.
-/

namespace Interpolation

open Text

variable {σ : Type}

/-- Where sigils are resolved: what functions and objects do, what names stand for, and the source
that errors point into. -/
structure Scene (σ : Type) where
  host : Host σ
  find? : String → Option Value
  source : String

namespace Scene

def fail {α : Type} (scene : Scene σ) (fault : Fault) (span : Span) : Eval σ α :=
  throw ((Error.of fault).locate scene.source span)

/-- What `action` does, by a function or a manager, its errors reported as those of a call
(`Error.ofCall`). -/
def calling {α : Type} (scene : Scene σ) (name : String) (span : Span) (action : Eval σ α) :
    Eval σ α :=
  action.adapt fun e => (Error.ofCall name e).locate scene.source span

def call (scene : Scene σ) (name : String) (f : FunctionRef) (args : List Value) (span : Span) :
    Eval σ Value :=
  scene.calling name span (scene.host.callRef f args)

def item (scene : Scene σ) (value key : Value) (span : Span) : Eval σ Value := do
  match ← Value.item scene.host value key with
  | some found => return found
  | none => scene.fail (.missingItem (← key.describe scene.host) value.kind) span

def lookup (scene : Scene σ) (name : Name) : Eval σ Value :=
  match scene.find? name.text with
  | some value => pure value
  | none => scene.fail (.unknownKey name.text) name.span

/-- The record of a model for a primary key or else a natural key. -/
def record (scene : Scene σ) (name : String) (manager : Manager σ) (key : Value) (span : Span) :
    Eval σ Value := do
  match ← scene.calling name span (manager.get "pk" key) with
  | some found => return found
  | none =>
    match ← scene.calling name span (manager.getByNaturalKey key) with
    | some found => return found
    | none => scene.fail (.noRecord name (← key.describe scene.host)) span

def recordBy (scene : Scene σ) (name : String) (manager : Manager σ) (field : String) (key : Value)
    (span : Span) : Eval σ Value := do
  match ← scene.calling name span (manager.get field key) with
  | some found => return found
  | none => scene.fail (.noRecordWith name field (← key.describe scene.host)) span

/-- What a root stands for that no manager answers: a function is called with the argument, and of
any other value the argument selects an item. -/
def root (scene : Scene σ) (name : String) (value : Value) (arg : Option Value) (span : Span) :
    Eval σ Value :=
  match value, arg with
  | .func f, arg => scene.call name f arg.toList span
  | value, some key => scene.item value key span
  | value, none => pure value

/-- What a name stands for by itself. A function is called without arguments, and an object stands
for itself, also one that gives access to records. -/
def evalName (scene : Scene σ) (name : Name) : Eval σ Value := do
  let value ← scene.lookup name
  match ← value.manager? scene.host with
  | none => scene.root name.text value none name.span
  | some _ => return value

/-- The member of a value: an item by the name as it is written, or else a member by the name in
lowercase. -/
def member? (scene : Scene σ) (current : Value) (name : String) : Eval σ (Option Value) := do
  match ← Value.item scene.host current (.str name) with
  | some found => return some found
  | none => Value.member scene.host current (lowerCase name)

/-- What a member (`member?`) stands for before a function that it turns out to be is called. -/
def select (scene : Scene σ) (current : Value) (name : Name) (arg : Option Value) (span : Span) :
    Eval σ Value := do
  match ← scene.member? current name.text with
  | some (.func f) => return .func f
  | some value =>
    match arg with
    | some key => scene.item value key span
    | none => return value
  | none =>
    match scene.find? name.text with
    | some (.func f) => scene.call name.text f (current :: arg.toList) span
    | _ => scene.fail (.missingMember name.text current.kind) name.span

/-- What a member stands for, given its argument. A function that `select` finds is called with the
argument, once. -/
def member (scene : Scene σ) (current : Value) (name : Name) (arg : Option Value) (span : Span) :
    Eval σ Value := do
  match ← scene.select current name arg span with
  | .func f => scene.call name.text f arg.toList span
  | value => return value

mutual

/-- What a sigil stands for. A root that gives access to records takes its argument as a key, or,
without one, the argument of the next node as the value of a field. -/
def evalSigil (scene : Scene σ) : Sigil → Eval σ Value
  | .mk (.mk name argument span) members _ => do
    let arg ← evalOption scene argument
    let value ← scene.lookup name
    match ← value.manager? scene.host with
    | none => do
      let value ← scene.root name.text value arg span
      evalMembers scene value members
    | some manager =>
      match arg with
      | some key => do
        let value ← scene.record name.text manager key span
        evalMembers scene value members
      | none =>
        match members with
        | .mk field (some argument) span' :: members => do
          let key ← evalArgument scene argument
          let value ← scene.recordBy name.text manager (lowerCase field.text) key (span.join span')
          evalMembers scene value members
        | members => evalMembers scene value members

/-- What a chain of members stands for, from `current` on. -/
def evalMembers (scene : Scene σ) (current : Value) : List Node → Eval σ Value
  | [] => pure current
  | .mk name argument span :: members => do
    let arg ← evalOption scene argument
    let value ← scene.member current name arg span
    evalMembers scene value members

def evalOption (scene : Scene σ) : Option Argument → Eval σ (Option Value)
  | none => pure none
  | some argument => some <$> evalArgument scene argument

def evalArgument (scene : Scene σ) : Argument → Eval σ Value
  | .sigil sigil => evalSigil scene sigil
  | .variable name => evalName scene name
  | .literal literal _ => pure literal.value

end

end Scene
end Interpolation
