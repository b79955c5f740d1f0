import Interpolation.Host
import Interpolation.Number.Integer

/-!
# Structured data

The data of a program in the shapes that it comes in, the values that it becomes, and the data that
a value is told as.
-/

namespace Interpolation

mutual

/-- Data of any shape. A map is given by its keys and values as they come. -/
inductive Data where
  | null
  | bool (b : Bool)
  | integer (n : Int)
  /-- An integer of a type too wide to be taken. -/
  | wideInteger (type : String)
  | float (x : Float)
  | single (x : Float32)
  | text (s : String)
  | bytes (octets : List UInt8)
  | list (items : List Data)
  | map (events : List MapEvent)
  | record (fields : List (String × Data))
  /-- One of several forms, by its name. -/
  | variant (name : String) (payload : Data)
  /-- Data that says it cannot be taken. -/
  | failing (message : String)

inductive MapEvent where
  | key (d : Data)
  | value (d : Data)

end

/-- The text of a value as the key of a map. -/
def Value.asKey : Value → Except Error String
  | .str s => .ok s
  | .int n => .ok (Number.writeInt64 n)
  | .bool b => .ok (if b then "true" else "false")
  | v => .error (.of (.keyNotText v.kind))

namespace Data

mutual

/-- The value that data becomes. A form becomes a map with one entry, under its name. -/
def toValue : Data → Except Error Value
  | .null => .ok .none
  | .bool b => .ok (.bool b)
  | .integer n =>
    match Number.toInt64? n with
    | some n => .ok (.int n)
    | none => .error (.of (.integerRange n))
  | .wideInteger type => .error (.of (.unsupportedInteger type))
  | .float x => .ok (.float x)
  | .single x => .ok (.float x.toFloat)
  | .text s => .ok (.str s)
  | .bytes octets => .ok (.bytes octets)
  | .list items => return .list (← itemValues items)
  | .map events => return .map (← eventEntries none .nil events)
  | .record fields => return .map (← fieldEntries .nil fields)
  | .variant name payload => return .map (.ofPairs [(name, ← toValue payload)])
  | .failing message => .error (.of (.customData message))

def itemValues : List Data → Except Error (List Value)
  | [] => .ok []
  | d :: ds => do
    let v ← toValue d
    return v :: (← itemValues ds)

/-- The entries of a map from `key`, which waits for its value, and the entries so far. -/
def eventEntries (key : Option String) (entries : Entries none) :
    List MapEvent → Except Error (Entries none)
  | [] => .ok entries
  | .key d :: events => do
    let key ← (← toValue d).asKey
    eventEntries (some key) entries events
  | .value d :: events =>
    match key with
    | some key => do
      let v ← toValue d
      eventEntries none (entries.insert key v) events
    | none => .error (.of .valueBeforeKey)

def fieldEntries (entries : Entries none) :
    List (String × Data) → Except Error (Entries none)
  | [] => .ok entries
  | (name, d) :: fields => do
    let v ← toValue d
    fieldEntries (entries.insert name v) fields

end

end Data

namespace Value

variable {σ : Type}

mutual

/-- A value as data. Objects are asked for their texts. Functions, and objects without a text, are
null. -/
def toData (host : Host σ) : Value → StateM σ Data
  | .none | .func _ => return .null
  | .bool b => return .bool b
  | .int n => return .integer n.toInt
  | .float x => return .float x
  | .str s => return .text s
  | .bytes octets => return .bytes octets
  | .list items => return .list (← itemsToData host items)
  | .map entries => return .map (← entriesToData host entries)
  | .object o => return ((← host.textOf o).map Data.text).getD .null

def itemsToData (host : Host σ) : List Value → StateM σ (List Data)
  | [] => return []
  | v :: vs => do
    let d ← toData host v
    let ds ← itemsToData host vs
    return d :: ds

def entriesToData (host : Host σ) {after : Option String} :
    Entries after → StateM σ (List MapEvent)
  | .nil => return []
  | .cons key _ v rest => do
    let d ← toData host v
    let events ← entriesToData host rest
    return .key (.text key) :: .value d :: events

end

end Value
end Interpolation
