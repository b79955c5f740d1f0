import Interpolation.Context
import Interpolation.Extraction
import Interpolation.Resolution
import Interpolation.Sigil.Parser

/-!
# Putting the values of sigils into a text

Each distinct sigil of a text is resolved once, in order of first appearance; its value is written
as text and, while some depth is left, that text is spliced in turn. A text is handed out in chunks,
the plain pieces and the replacements between them.
-/

namespace Interpolation

open Text

variable {σ : Type}

/-- What stands in place of a sigil that cannot be resolved. -/
inductive MissPolicy where
  /-- Nothing does, the text is refused. -/
  | raise
  /-- The sigil as it is written. -/
  | keep
  | drop
  | text (s : String)
  deriving DecidableEq

/-- How texts are interpolated, and for which host. -/
structure Engine (σ : Type) where
  host : Host σ
  delimiters : Delimiters
  format : Value → Eval σ String
  /-- How many times the text of a value is spliced in turn. -/
  maxDepth : Nat
  onMiss : MissPolicy
  /-- The context keeps the values of sigils. -/
  caching : Bool

/-- An engine with square brackets, the common form of values, and six levels of splicing. -/
def Engine.new (host : Host σ) : Engine σ where
  host := host
  delimiters := .square
  format v := v.format host
  maxDepth := 6
  onMiss := .raise
  caching := true

/-- What a sigil stands for where names stand for what `find?` says. -/
def Engine.resolve (e : Engine σ) (find? : String → Option Value) (source : String) :
    Eval σ Value :=
  match e.delimiters.parse source with
  | .ok sigil => Scene.evalSigil ⟨e.host, find?, source⟩ sigil
  | .error err => throw err

/-- What splicing works on: the values kept of sigils, and the state of the host. -/
structure Work (σ : Type) where
  cache : Table
  host : σ

abbrev Splice (σ : Type) := ExceptT Error (StateM (Work σ))

/-- A computation of the host as one of splicing. -/
def Splice.ofHost {α : Type} (x : Eval σ α) : Splice σ α :=
  ExceptT.mk fun w => let (r, host) := x.run w.host; (r, { w with host })

/-- The text in place of a sigil that failed with `miss`. -/
def MissPolicy.answer (policy : MissPolicy) (sigil : String) (miss : Error) : Splice σ String :=
  match policy with
  | .raise => throw miss
  | .keep => return sigil
  | .drop => return ""
  | .text s => return s

namespace Engine

variable (e : Engine σ) (find? : String → Option Value)

/-- The value of a sigil, the one in the cache if there is one and values are kept. -/
def value (sigil : String) : Splice σ Value := do
  let cache := (← get).cache
  match if e.caching then cache.get? sigil else none with
  | some v => return v
  | none =>
    let v ← Splice.ofHost (e.resolve find? sigil)
    if e.caching then modify fun w => { w with cache := w.cache.insert sigil v }
    return v

/-- The text of a sigil, spliced by `again` if some depth is left. -/
def text (again : Option (String → Splice σ (List String))) (sigil : String) : Splice σ String := do
  let whole : Span := ⟨0, byteLength sigil.toList⟩
  let v ← e.value find? sigil
  if v.isNone then throw ((Error.of .resolvedToNone).locate sigil whole)
  let text ← Splice.ofHost ((e.format v).adapt (·.locate sigil whole))
  match again with
  | some again => if e.delimiters.mayHoldSigil text then String.join <$> again text else return text
  | none => return text

/-- The text in place of a sigil: its own, or that of the policy (`MissPolicy.answer`) if it is a
miss (`Error.isMiss`). -/
def replacement (again : Option (String → Splice σ (List String))) (sigil : String) :
    Splice σ String :=
  tryCatch (e.text find? again sigil) fun err =>
    if err.isMiss then e.onMiss.answer sigil err else throw err

/-- The texts in place of sigils, each resolved once, added to those in `known`. -/
def replacements (again : Option (String → Splice σ (List String)))
    (known : List (String × String)) : List String → Splice σ (List (String × String))
  | [] => pure known
  | sigil :: sigils =>
    if (known.lookup sigil).isSome then replacements again known sigils
    else do
      let text ← e.replacement find? again sigil
      replacements again ((sigil, text) :: known) sigils

/-- The chunks of one level of splicing, where `again` splices the texts of values. -/
def level (again : Option (String → Splice σ (List String))) (text : String) :
    Splice σ (List String) := do
  let extraction := e.delimiters.extract text
  let known ← e.replacements find? again [] extraction.sigils
  return extraction.fill fun sigil => (known.lookup sigil).getD sigil

/-- The chunks of a spliced text, for a depth that is left: one `level` in another. -/
def chunks : Nat → String → Splice σ (List String)
  | 0 => e.level find? none
  | depth + 1 => e.level find? (some (chunks depth))

end Engine

/-- Runs a computation of splicing on the `cache` of a context. -/
def Context.splicing {α : Type} (c : Context) (x : Splice σ α) :
    StateM σ (Except Error α × Context) :=
  fun host => let (r, w) := x.run ⟨c.cache, host⟩; ((r, { c with cache := w.cache }), w.host)

/-- The text with the values of its sigils in their place. -/
def Engine.splice (e : Engine σ) (c : Context) (text : String) :
    StateM σ (Except Error String × Context) :=
  c.splicing (String.join <$> e.chunks c.get? e.maxDepth text)

end Interpolation
