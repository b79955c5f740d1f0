import Interpolation.Context.Overlay
import Interpolation.Splice.Sink

/-!
# Sessions

Operations on contexts that follow one another. A session has a main context and others by name, and
it keeps the handles of layers and overlays that are not pushed yet under names of their own. An
operation that fails answers its error, and the session goes on.
-/

namespace Interpolation

variable {σ : Type}

/-- An overlay as an operation names it: one that was kept, or a new one. -/
inductive OverlayRef (σ : Type) where
  | kept (name : String)
  | given (overlay : Overlay σ)

/-- How one text is spliced where it differs from the engine. -/
structure SpliceOptions where
  delimiters : Option Delimiters := none
  maxDepth : Option Nat := none
  onMiss : Option MissPolicy := none
  caching : Option Bool := none

def Engine.withOptions (e : Engine σ) (o : SpliceOptions) : Engine σ :=
  { e with
    delimiters := o.delimiters.getD e.delimiters
    maxDepth := o.maxDepth.getD e.maxDepth
    onMiss := o.onMiss.getD e.onMiss
    caching := o.caching.getD e.caching }

mutual

/-- An operation, and the name of the context it is for, if not for the one at hand. -/
inductive Step (σ : Type) where
  | mk (context : Option String) (action : Action σ)

inductive Action (σ : Type) where
  | new (name : String) (empty : Bool)
  | set (key : String) (value : Value)
  | setBase (key : String) (value : Value)
  | clearCache
  | get (key : String)
  | keep (name : String) (overlay : OverlayRef σ)
  | push (handle : String) (overlay : OverlayRef σ)
  | pop (handle : String)
  | scope (overlay : OverlayRef σ) (steps : List (Step σ))
  | resolve (sigil : String) (delimiters : Option Delimiters)
  | splice (text : String) (options : SpliceOptions)
  | spliceTo (out : Collector) (text : String) (options : SpliceOptions)

end

inductive Outcome where
  | depth (n : Nat)
  | found (value : Option Value)
  | skipped
  | value (v : Value)
  | text (s : String)
  | written (s : String) (error : Option Error)
  | scope (outcomes : List Outcome) (depth : Nat)
  | failed (error : Error)

structure Session (σ : Type) where
  main : Context
  others : List (String × Context)
  contexts : Nat
  handles : List (String × Handle)
  overlays : List (String × Overlay σ)
  host : σ

namespace Session

/-- A session with a main context alone, which has the builtin functions unless it is to be empty.
-/
def start (empty : Bool) (host : σ) : Session σ where
  main := if empty then .empty 0 else .new 0
  others := []
  contexts := 1
  handles := []
  overlays := []
  host

/-- The context of a name, the main one if there is no such name. -/
def context (s : Session σ) (name : Option String) : Context :=
  (name.bind fun name => s.others.lookup name).getD s.main

def update (s : Session σ) (name : Option String) (c : Context) : Session σ :=
  match name.filter fun name => (s.others.lookup name).isSome with
  | some name => { s with others := (name, c) :: s.others }
  | none => { s with main := c }

/-- Takes an overlay. A kept one is used up. -/
def take (s : Session σ) : OverlayRef σ → Overlay σ × Session σ
  | .given overlay => (overlay, s)
  | .kept name =>
    ((s.overlays.lookup name).getD [], { s with overlays := s.overlays.filter (·.1 != name) })

def letHost {α : Type} (s : Session σ) (x : StateM σ α) : α × Session σ :=
  let (a, host) := x s.host
  (a, { s with host })

/-- Changes a context by `f` and answers its depth. -/
def change (s : Session σ) (name : Option String) (f : Context → Context) : Outcome × Session σ :=
  let c := f (s.context name)
  (.depth c.depth, s.update name c)

/-- Pushes a layer (`Context.push`), and answers the handle or the error. -/
def pushLayer (s : Session σ) (name : Option String) (overlay : OverlayRef σ) :
    Except Error Handle × Session σ :=
  let (overlay, s) := s.take overlay
  let (r, s) := s.letHost ((s.context name).push overlay).run
  match r with
  | .ok (c, h) => (.ok h, s.update name c)
  | .error e => (.error e, s)

/-- Pops the layer of a handle (`Context.pop`), which is used up. -/
def popLayer (s : Session σ) (name : Option String) (handle : String) : Outcome × Session σ :=
  match s.handles.lookup handle with
  | none => (.skipped, s)
  | some h =>
    let s := { s with handles := s.handles.filter (·.1 != handle) }
    match (s.context name).pop h with
    | .ok c => (.depth c.depth, s.update name c)
    | .error e => (.failed e, s)

def splice (e : Engine σ) (s : Session σ) (name : Option String) (text : String) :
    Outcome × Session σ :=
  let ((r, c), s) := s.letHost (e.splice (s.context name) text)
  match r with
  | .ok text => (.text text, s.update name c)
  | .error e => (.failed e, s.update name c)

def spliceTo (e : Engine σ) (s : Session σ) (name : Option String)
    (out : Collector) (text : String) :
    Outcome × Session σ :=
  let ((r, out, c), s) := s.letHost (e.spliceTo Collector.sink (s.context name) text out)
  match r with
  | .ok () => (.written out.written none, s.update name c)
  | .error e => (.written out.written (some e), s.update name c)

mutual

/-- Runs an operation inside the scopes of a context, that of `here`. -/
def runStep (e : Engine σ) (here : Option String) (s : Session σ) : Step σ → Outcome × Session σ
  | .mk name action => runAction e here (name.or here) s action

def runAction (e : Engine σ) (here name : Option String) (s : Session σ) :
    Action σ → Outcome × Session σ
  | .new other empty =>
    let c := if empty then Context.empty s.contexts else Context.new s.contexts
    ({ s with others := (other, c) :: s.others, contexts := s.contexts + 1 }).change here id
  | .set key value => s.change name (·.set key value)
  | .setBase key value => s.change name (·.setBase key value)
  | .clearCache => s.change name (·.clearCache)
  | .get key => (.found ((s.context name).get? key), s)
  | .keep overlayName overlay =>
    let (overlay, s) := s.take overlay
    ({ s with overlays := (overlayName, overlay) :: s.overlays }).change name id
  | .push handle overlay =>
    match s.pushLayer name overlay with
    | (.ok h, s) => ({ s with handles := (handle, h) :: s.handles }).change name id
    | (.error err, s) => (.failed err, s)
  | .pop handle => s.popLayer name handle
  | .scope overlay steps =>
    match s.pushLayer name overlay with
    | (.error err, s) => (.failed err, s)
    | (.ok h, s) =>
      let (outcomes, s) := runSteps e name s steps
      let c := (s.context name).leave h.depth
      (.scope outcomes c.depth, s.update name c)
  | .resolve sigil delimiters =>
    let e := e.withOptions { delimiters }
    let (r, s) := s.letHost (e.resolve (s.context name).get? sigil).run
    match r with
    | .ok v => (.value v, s)
    | .error err => (.failed err, s)
  | .splice text options => s.splice (e.withOptions options) name text
  | .spliceTo out text options => s.spliceTo (e.withOptions options) name out text

def runSteps (e : Engine σ) (here : Option String) (s : Session σ) :
    List (Step σ) → List Outcome × Session σ
  | [] => ([], s)
  | step :: steps =>
    let (outcome, s) := runStep e here s step
    let (outcomes, s) := runSteps e here s steps
    (outcome :: outcomes, s)

end

/-- The answers of operations run in turn on the main context. -/
def run (e : Engine σ) (s : Session σ) (steps : List (Step σ)) : List Outcome × Session σ :=
  runSteps e none s steps

end Session
end Interpolation
