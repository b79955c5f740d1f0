import Interpolation.Kind
import Interpolation.Token

/-!
# Errors

What can go wrong. A fault is a cause with its data; its message and its category are functions of
it. An error is a fault with the place in the source of a sigil that it is reported at, if any.
-/

namespace Interpolation

/-- The category of an error. -/
inductive ErrorKind where
  /-- The sigil is not in the grammar. -/
  | parse
  /-- The context has no such key, or a model has no such record. -/
  | keyNotFound
  /-- A value has no such item or member. -/
  | fieldNotFound
  /-- A function or a record manager failed. -/
  | callable
  /-- A value has the wrong kind. -/
  | typeMismatch
  /-- A sigil resolved to none. -/
  | noneValue
  /-- A layer was popped out of order. -/
  | cacheInconsistency
  /-- Data cannot become a value. -/
  | serialize
  | output
  deriving DecidableEq

inductive Fault where
  | unexpectedCharacter
  | undelimitedString
  | unexpected (expected : Expectation) (found : Option TokenKind)
  | integerLiteralRange
  | unknownKey (name : String)
  | noRecord (model key : String)
  | noRecordWith (model field key : String)
  | missingItem (key : String) (container : Kind)
  | missingMember (name : String) (container : Kind)
  | custom (message : String)
  | callFailed (name message : String)
  | argumentType (position : Nat) (expected : String) (found : Kind)
  | unformattable (kind : Kind)
  | unsupported (function : String) (kind : Kind)
  | overflow (function : String)
  | divisionByZero (function : String)
  | incomparable (left right : Kind)
  | overlayNotMap (found : Kind)
  | resolvedToNone
  | foreignLayer (depth : Nat)
  | notInnermost (depth innermost : Nat)
  | integerRange (value : Int)
  | unsupportedInteger (type : String)
  | keyNotText (found : Kind)
  | valueBeforeKey
  | customData (message : String)
  | format
  | sink (message : String)
  deriving DecidableEq

def Fault.kind : Fault → ErrorKind
  | .unexpectedCharacter | .undelimitedString | .unexpected .. | .integerLiteralRange => .parse
  | .unknownKey _ | .noRecord .. | .noRecordWith .. => .keyNotFound
  | .missingItem .. | .missingMember .. => .fieldNotFound
  | .custom _ | .callFailed .. => .callable
  | .argumentType .. | .unformattable _ | .unsupported .. | .overflow _ | .divisionByZero _
  | .incomparable .. | .overlayNotMap _ => .typeMismatch
  | .resolvedToNone => .noneValue
  | .foreignLayer _ | .notInnermost .. => .cacheInconsistency
  | .integerRange _ | .unsupportedInteger _ | .keyNotText _ | .valueBeforeKey | .customData _ =>
    .serialize
  | .format | .sink _ => .output

def Fault.message : Fault → String
  | .unexpectedCharacter => "unexpected character"
  | .undelimitedString => "undelimited string"
  | .unexpected expected found =>
    "expected " ++ expected.name ++ ", found " ++ (found.map TokenKind.name).getD "EOF"
  | .integerLiteralRange => "integer literal out of range for 64-bit integer"
  | .unknownKey name => "`" ++ name ++ "` not found in context"
  | .noRecord model key => "no `" ++ model ++ "` record found for " ++ key
  | .noRecordWith model field key => "no `" ++ model ++ "` record with " ++ field ++ " " ++ key
  | .missingItem key container => key ++ " not found in " ++ container.name
  | .missingMember name container => "`" ++ name ++ "` not found in " ++ container.name
  | .custom message => message
  | .callFailed name message => "function `" ++ name ++ "` failed: " ++ message
  | .argumentType position expected found =>
    "function argument " ++ toString position ++ ": expected " ++ expected ++
      ", found " ++ found.name
  | .unformattable kind => "sigil evaluated to unformattable type " ++ kind.name
  | .unsupported function kind => function ++ ": unsupported value " ++ kind.name
  | .overflow function => function ++ ": integer overflow"
  | .divisionByZero function => function ++ ": division by zero"
  | .incomparable left right => "cannot compare " ++ left.name ++ " with " ++ right.name
  | .overlayNotMap found => "context overlay must be a map, found " ++ found.name
  | .resolvedToNone => "sigil resolved to none"
  | .foreignLayer depth => "cannot pop layer " ++ toString depth ++ " pushed onto another context"
  | .notInnermost depth innermost =>
    "cannot pop layer " ++ toString depth ++ " while layer " ++
      toString innermost ++ " is innermost"
  | .integerRange value => "integer `" ++ toString value ++ "` does not fit in an i64"
  | .unsupportedInteger type => type ++ " is not supported"
  | .keyNotText found => "map key must be a string, found " ++ found.name
  | .valueBeforeKey => "map value serialized before its key"
  | .customData message => message
  | .format => "failed to format value"
  | .sink message => "io error: " ++ message

/-- A region of the source of a sigil. -/
structure Location where
  source : String
  span : Span
  deriving DecidableEq

/-- A fault, where it is reported, and the short texts of the errors it came from, outermost first.
-/
structure Error where
  fault : Fault
  location : Option Location
  causes : List String
  deriving DecidableEq

namespace Error

/-- An error that is reported nowhere yet. -/
def of (fault : Fault) : Error := ⟨fault, none, []⟩

/-- The error by which a function says that it fails. -/
def custom (message : String) : Error := of (.custom message)

def kind (e : Error) : ErrorKind := e.fault.kind

def message (e : Error) : String := e.fault.message

/-- Reports the error at a place, unless it has one. An empty source has no place to point at. -/
def locate (source : String) (span : Span) (e : Error) : Error :=
  if e.location.isNone ∧ source ≠ "" then { e with location := some ⟨source, span⟩ } else e

def short (e : Error) : String :=
  match e.location with
  | some l => e.message ++ " in sigil `" ++ l.source ++ "`"
  | none => e.message

/-- The error of a call that failed with `e`. A type mismatch stays as it is; any other error
becomes the cause of a failed call. -/
def ofCall (name : String) (e : Error) : Error :=
  if e.kind = .typeMismatch then e
  else ⟨.callFailed name e.message, none, e.short :: e.causes⟩

/-- The sigil could not be resolved, which a `MissPolicy` may answer. -/
def isMiss (e : Error) : Bool :=
  match e.kind with
  | .keyNotFound | .fieldNotFound | .callable | .typeMismatch | .noneValue => true
  | _ => false

end Error
end Interpolation
