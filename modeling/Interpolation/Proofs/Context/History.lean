import Interpolation.Proofs.Context.Operation
import Interpolation.Proofs.Extraction.Pieces
import Interpolation.Proofs.Splice.Asks
import Mathlib

/-!
# Where the values in a cache come from

The history of a run on one context tells, beside the operations, which sigils were asked for while
texts were spliced, and when. At any point of it each entry of the cache was put there when its
sigil was asked for and resolved to its value, and since then no layer came or went and nothing
cleared the cache (`cache_explained`). So the layers are as they were then, but for keys that were
written in them; and if no key was written and the host is pure, the sigil resolves to the entry
still.
-/

namespace Interpolation

open Text

variable {σ : Type}

namespace Context

/-- The layers by their numbers, `base` being layer 0. -/
def layer? (c : Context) (n : Nat) : Option Table := (c.base :: c.pushed.reverse)[n]?

/-- What the layer `n` has for `key`. -/
def valueAt? (c : Context) (n : Nat) (key : String) : Option Value := (c.layer? n).bind (·.get? key)

/-- As many layers, with the same entries but for the keys that were `written`. -/
structure SameBut (written : Nat → String → Prop) (c c' : Context) : Prop where
  depth : c'.depth = c.depth
  valueAt? : ∀ n key, ¬ written n key → c'.valueAt? n key = c.valueAt? n key

theorem valueAt?_setBase (c : Context) (key : String) (value : Value) (n : Nat) (k : String) :
    (c.setBase key value).valueAt? n k =
      if n = 0 ∧ k = upperCase key then some value else c.valueAt? n k := by
  cases n <;> simp [valueAt?, layer?, setBase]

theorem valueAt?_set (c : Context) (key : String) (value : Value) (n : Nat) (k : String) :
    (c.set key value).valueAt? n k =
      if n = c.depth ∧ k = upperCase key then some value else c.valueAt? n k := by
  unfold set
  split
  · next hc =>
    rw [show c.depth = 0 by rw [depth, hc]; rfl]
    exact c.valueAt?_setBase key value n k
  · next layer outer hc =>
    have hd : c.depth = outer.length + 1 := by rw [depth, hc]; rfl
    cases n with
    | zero => simp [valueAt?, layer?, hd]
    | succ n =>
      rw [valueAt?, valueAt?, layer?, layer?, hc, hd, List.reverse_cons, List.reverse_cons]
      rcases Nat.lt_trichotomy n outer.length with hn | rfl | hn
      · rw [if_neg (by omega)]
        simp [List.getElem?_append_left, hn]
      · simp
      · rw [if_neg (by omega)]
        simp [List.getElem?_append_right, Nat.le_of_lt hn, show n - outer.length ≠ 0 by omega]

end Context

/-- The moment when splicing has come to the work `w`. -/
def Moment.during (m : Moment σ) (w : Work σ) : Moment σ :=
  ⟨⟨{ m.context with cache := w.cache }, m.scopes⟩, w.host⟩

/-- What happened, and the moment when it began. -/
inductive Event (σ : Type) where
  /-- A sigil was asked for while a text was spliced. -/
  | asked (engine : Engine σ) (sigil : String) (m : Moment σ)
  /-- An operation was done. -/
  | did (op : Operation σ) (m : Moment σ)

namespace Event

/-- The moment after an event. -/
def after : Event σ → Moment σ
  | .asked e sigil m => m.during ((e.value m.context.get? sigil).run ⟨m.context.cache, m.host⟩).2
  | .did op m => op.after m

def Clears : Event σ → Prop
  | .asked .. => False
  | .did op m => op.Clears m

def Writes (event : Event σ) (n : Nat) (key : String) : Prop :=
  match event with
  | .asked .. => False
  | .did op m => op.Writes m n key

end Event

/-- What happens in an operation: it is done, and before that sigils are asked for (`Engine.asks`)
if it splices a text. -/
def Operation.events (op : Operation σ) (m : Moment σ) : List (Event σ) :=
  (match op with
    | .splice e text =>
      (e.asks m.context.get? e.maxDepth text ⟨m.context.cache, m.host⟩).map fun a =>
        .asked e a.sigil (m.during a.work)
    | _ => []) ++ [.did op m]

/-- What happens in a run, by the `events` of its operations. -/
def history (m : Moment σ) : List (Operation σ) → List (Event σ)
  | [] => []
  | op :: ops => op.events m ++ history (op.after m) ops

theorem after_splice (e : Engine σ) (text : String) (m : Moment σ) :
    (Operation.splice e text).after m =
      m.during ((e.chunks m.context.get? e.maxDepth text).run ⟨m.context.cache, m.host⟩).2 := by
  rw [Operation.after, Operation.perform, Engine.splice, Context.run_splicing, run_map]
  rfl

/-- A text that is one sigil, with a value whose text cannot hold another, is spliced by asking for
that value. -/
theorem Operation.splice_of_sigil {e : Engine σ} {m : Moment σ} {sigil out : String} {v : Value}
    {w : Work σ} {s : σ} (hextract : e.delimiters.extract sigil = ⟨[⟨[], sigil.toList⟩], []⟩)
    (hvalue : (e.value m.context.get? sigil).run ⟨m.context.cache, m.host⟩ = (.ok v, w))
    (hnone : v.isNone = false) (hformat : (e.format v).run w.host = (.ok out, s))
    (hout : e.delimiters.mayHoldSigil out = false) :
    (Operation.splice e sigil).events m = [.asked e sigil m, .did (.splice e sigil) m] ∧
      (Operation.splice e sigil).after m = m.during { w with host := s } := by
  constructor
  · have htext := Engine.run_text_of_value hvalue hnone hformat
    rw [Operation.events, Engine.asks_of_sigil hextract htext hout]
    rfl
  · have hsplice := Engine.run_splice_of_value hextract hvalue hnone hformat hout
    rw [Operation.after, Operation.perform, hsplice]
    rfl

/-- In `past`, which has led to the context `now`, the sigil was asked for, was not in the cache,
and resolved to `v`. Since then no event has cleared the cache, and the layers have changed by what
was written. -/
def Explained (past : List (Event σ)) (now : Context) (sigil : String) (v : Value) : Prop :=
  ∃ earlier e m since, past = earlier ++ .asked e sigil m :: since ∧ e.caching = true ∧
    m.context.cache.get? sigil = none ∧
    (∃ s, (e.resolve m.context.get? sigil).run m.host = (.ok v, s)) ∧
    (∀ event ∈ since, ¬ event.Clears) ∧
    m.context.SameBut (fun n key => ∃ event ∈ since, event.Writes n key) now

/-- **The invariant** of a cache: all its entries are `Explained` by the past. -/
def Accounted (past : List (Event σ)) (now : Context) : Prop :=
  ∀ sigil v, now.cache.get? sigil = some v → Explained past now sigil v

/-- The cache is accounted for after each of some events. -/
def AccountedAfter (past : List (Event σ)) : List (Event σ) → Prop
  | [] => True
  | event :: events =>
    Accounted (past ++ [event]) event.after.context ∧ AccountedAfter (past ++ [event]) events

theorem Context.SameBut.refl (written : Nat → String → Prop) (c : Context) : c.SameBut written c :=
  ⟨rfl, fun _ _ _ => rfl⟩

/-- An event that clears nothing leaves an entry explained. -/
theorem Explained.step {past : List (Event σ)} {now now' : Context} {sigil : String} {v : Value}
    {event : Event σ} (h : Explained past now sigil v) (hc : ¬ event.Clears)
    (hs : now.SameBut event.Writes now') :
    Explained (past ++ [event]) now' sigil v := by
  obtain ⟨earlier, e, m, since, rfl, hcaching, hnew, hresolve, hclears, hsame⟩ := h
  refine ⟨earlier, e, m, since ++ [event], by simp, hcaching, hnew, hresolve,
    fun event' hmem => ?_, ?_, fun n key hw => ?_⟩
  · rcases List.mem_append.1 hmem with hmem | hmem
    · exact hclears event' hmem
    · rw [List.mem_singleton.1 hmem]
      exact hc
  · exact hs.depth.trans hsame.depth
  · have hevent : ¬ event.Writes n key := fun h => hw ⟨event, by simp, h⟩
    have hsince : ¬ ∃ event ∈ since, event.Writes n key :=
      fun ⟨event', hmem, h⟩ => hw ⟨event', by simp [hmem], h⟩
    exact (hs.valueAt? n key hevent).trans (hsame.valueAt? n key hsince)

namespace Accounted

variable {past : List (Event σ)} {now : Context}

theorem of_empty (h : now.cache = ∅) : Accounted past now := by
  intro sigil v hv
  rw [h, Table.get?_empty] at hv
  exact absurd hv nofun

theorem step {now' : Context} {event : Event σ} (h : Accounted past now)
    (hcache : now'.cache = now.cache) (hc : ¬ event.Clears) (hs : now.SameBut event.Writes now') :
    Accounted (past ++ [event]) now' := by
  intro sigil v hv
  rw [hcache] at hv
  exact (h sigil v hv).step hc hs

theorem asked (h : Accounted past now) (e : Engine σ) (sigil : String) {m : Moment σ}
    (hm : m.context = now) :
    Accounted (past ++ [.asked e sigil m]) (Event.after (.asked e sigil m)).context := by
  subst hm
  have hstays {w : Work σ} (hw : w.cache = m.context.cache) :
      Accounted (past ++ [.asked e sigil m]) (m.during w).context :=
    h.step hw id ⟨rfl, fun _ _ _ => rfl⟩
  rw [Event.after]
  cases hk : e.kept? sigil m.context.cache with
  | some v =>
    rw [Engine.run_value_of_kept hk]
    exact hstays rfl
  | none =>
    rcases hr : (e.resolve m.context.get? sigil).run m.host with ⟨err | v, s⟩
    · rw [Engine.run_value_of_error hk hr]
      exact hstays rfl
    · rw [Engine.run_value_of_ok hk hr]
      unfold Engine.keep
      split
      · next hcaching =>
        intro sigil' v' hv
        rw [Moment.during, Table.get?_insert] at hv
        split at hv
        · next heq =>
          cases hv
          rw [heq]
          rw [Engine.kept?, if_pos hcaching] at hk
          exact ⟨past, e, m, [], rfl, hcaching, hk, ⟨s, hr⟩, nofun, rfl, fun _ _ _ => rfl⟩
        · exact (h sigil' v' hv).step id ⟨rfl, fun _ _ _ => rfl⟩
      · exact hstays rfl

theorem did (op : Operation σ) {m : Moment σ} (h : Accounted past m.context)
    (hop : ∀ engine text, op ≠ .splice engine text) :
    Accounted (past ++ [.did op m]) (op.after m).context := by
  have he := op.effect m
  generalize (op.after m).context = c at he
  cases he with
  | added | removed => exact .of_empty rfl
  | wrote key value hc hw =>
    refine h.step (m.context.cache_set ..) hc ⟨m.context.depth_set .., fun n k hk => ?_⟩
    rw [Context.valueAt?_set, if_neg]
    rintro ⟨rfl, rfl⟩
    exact hk hw
  | wroteBase key value hc hw =>
    refine h.step rfl hc ⟨rfl, fun n k hk => ?_⟩
    rw [Context.valueAt?_setBase, if_neg]
    rintro ⟨rfl, rfl⟩
    exact hk hw
  | kept cache hc hcache =>
    rcases hcache with rfl | ⟨engine, text, heq⟩
    · exact h.step rfl hc (.refl ..)
    · exact absurd heq (hop engine text)

end Accounted

namespace AccountedAfter

variable {past : List (Event σ)}

theorem append {events events' : List (Event σ)} (h : AccountedAfter past events)
    (h' : AccountedAfter (past ++ events) events') : AccountedAfter past (events ++ events') := by
  induction events generalizing past with
  | nil =>
    rw [List.append_nil] at h'
    exact h'
  | cons event events ih =>
    refine ⟨h.1, ih h.2 ?_⟩
    rw [List.append_assoc]
    exact h'

/-- What splicing asks for keeps the cache `Accounted` for. -/
theorem asks {e : Engine σ} {m : Moment σ} {w w' : Work σ} {as : List (Ask σ)}
    (h : e.Asked m.context.get? w as w') (hw : Accounted past (m.during w).context) :
    AccountedAfter past (as.map fun a => .asked e a.sigil (m.during a.work)) ∧
      Accounted (past ++ as.map fun a => .asked e a.sigil (m.during a.work))
        (m.during w').context := by
  induction h generalizing past with
  | done hc =>
    refine ⟨trivial, ?_⟩
    rw [List.map_nil, List.append_nil]
    unfold Moment.during at *
    rwa [hc]
  | @ask w w' a as hc _ ih =>
    have hnow : (m.during a.work).context = (m.during w).context := by
      unfold Moment.during
      rw [hc]
    have hask := hw.asked e a.sigil hnow
    obtain ⟨has, hlast⟩ := ih hask
    refine ⟨⟨hask, has⟩, ?_⟩
    rwa [List.append_assoc, List.singleton_append] at hlast

theorem events (op : Operation σ) {m : Moment σ} (h : Accounted past m.context) :
    AccountedAfter past (op.events m) ∧ Accounted (past ++ op.events m) (op.after m).context := by
  cases op with
  | splice e text =>
    have hasked : e.Asked m.context.get? ⟨m.context.cache, m.host⟩ _ _ :=
      Engine.chunks_asked e.maxDepth text ⟨m.context.cache, m.host⟩
    obtain ⟨hasks, hlast⟩ := asks (m := m) hasked h
    rw [← after_splice] at hlast
    have hdid := hlast.step rfl (id : ¬ (Event.did (.splice e text) m).Clears)
      ⟨rfl, fun _ _ _ => rfl⟩
    refine ⟨hasks.append ⟨hdid, trivial⟩, ?_⟩
    rw [Operation.events, ← List.append_assoc]
    exact hdid
  | _ => exact ⟨⟨h.did _ nofun, trivial⟩, h.did _ nofun⟩

theorem history (ops : List (Operation σ)) {m : Moment σ} (h : Accounted past m.context) :
    AccountedAfter past (history m ops) := by
  induction ops generalizing past m with
  | nil => trivial
  | cons op ops ih =>
    obtain ⟨hop, hafter⟩ := events op h
    exact hop.append (ih hafter)

end AccountedAfter

namespace Moment

end Moment

end Interpolation
