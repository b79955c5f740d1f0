import Interpolation.Context
import Interpolation.Data
import Interpolation.Host

/-!
# Overlays

What goes into a layer that is pushed. The parts of an overlay are applied in order, later ones
winning, and those that ask for their entries do so when the layer is pushed, not before.
-/

namespace Interpolation

open Text

variable {σ : Type}

inductive Overlay.Part (σ : Type) where
  | set (key : String) (value : Value)
  /-- The entries of a map, or the error met where it was made. -/
  | merge (map : Except Error Value)
  /-- The entries of a map that is asked for. -/
  | source (ask : Eval σ Value)

abbrev Overlay (σ : Type) := List (Overlay.Part σ)

namespace Overlay

/-- The fields of structured data, which becomes a value where the overlay is made. -/
def Part.mergeData (d : Data) : Part σ := .merge d.toValue

def ofValue (map : Value) : Overlay σ := [.merge (.ok map)]

def ofPairs (pairs : List (String × Value)) :
    Overlay σ := pairs.map fun (key, value) => .set key value

/-- The layer with the entries of a map. Anything but a map is refused. -/
def extend (layer : Table) (map : Value) : Except Error Table :=
  match map with
  | .map entries =>
    .ok (layer.insertAll (entries.toList.map fun (key, value) => (upperCase key, value)))
  | v => .error (.of (.overlayNotMap v.kind))

def Part.apply (layer : Table) : Part σ → Eval σ Table
  | .set key value => return layer.insert (upperCase key) value
  | .merge map => ExceptT.mk (pure (map.bind (extend layer)))
  | .source ask => do
    let map ← ask
    ExceptT.mk (pure (extend layer map))

/-- The layer that the parts make, each by `Part.apply`. The first part that fails ends it. -/
def layer (overlay : Overlay σ) : Eval σ Table := overlay.foldlM Part.apply ∅

end Overlay

/-- Adds the layer that an overlay makes (`Overlay.layer`). If it fails, the context stays as it
was. -/
def Context.push (c : Context) (overlay : Overlay σ) : Eval σ (Context × Handle) :=
  c.pushLayer <$> overlay.layer

end Interpolation
