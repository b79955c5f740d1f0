import Interpolation.Splice

/-!
# Splicing into a sink

Splicing into a sink, which may refuse to take more. Nothing is written before all sigils of the
text are resolved.
-/

namespace Interpolation

variable {σ ω : Type}

/-- A way to write to an output `ω`. A write that is refused says why. -/
structure Sink (ω : Type) where
  write : String → ω → Except String Unit × ω

/-- Writes chunks in turn, the empty ones too, up to the first that is refused. -/
def Sink.writeAll (sink : Sink ω) : List String → ω → Except Error Unit × ω
  | [], out => (.ok (), out)
  | chunk :: chunks, out =>
    match sink.write chunk out with
    | (.ok (), out) => writeAll sink chunks out
    | (.error reason, out) => (.error ⟨.sink reason, none, [reason]⟩, out)

def Engine.spliceTo (e : Engine σ) (sink : Sink ω) (c : Context) (text : String) (out : ω) :
    StateM σ (Except Error Unit × ω × Context) := do
  let (r, c) ← c.splicing (e.chunks c.get? e.maxDepth text)
  match r with
  | .error err => return (.error err, out, c)
  | .ok chunks =>
    let (r, out) := sink.writeAll chunks out
    return (r, out, c)

/-- An output that collects what is written, for a limited number of writes or without a limit. An
empty chunk is no write. -/
structure Collector where
  written : String
  writesLeft : Option Nat
  refusal : String

def Collector.sink : Sink Collector where
  write chunk out :=
    if chunk = "" then (.ok (), out)
    else
      match out.writesLeft with
      | some 0 => (.error out.refusal, out)
      | some (n + 1) => (.ok (), { out with written := out.written ++ chunk, writesLeft := some n })
      | none => (.ok (), { out with written := out.written ++ chunk })

end Interpolation
