import Interpolation.Builtin.Call
import Interpolation.Context.Overlay
import Interpolation.Data
import Interpolation.Proofs.Run

/-!
# Failures without a place

How what knows no source fails: the builtin functions, the common form of values, structured data,
and the maps of overlays. Each of their errors is made of a fault alone and is reported nowhere yet;
what called them says where.

`Eval.FailsOnly` says what a computation can fail with. It holds of the steps and is kept when they
are put together.
-/

namespace Interpolation

variable {σ α β : Type}

/-- Whenever the computation fails, its error has the property `P`. -/
structure Eval.FailsOnly (P : Error → Prop) (x : Eval σ α) : Prop where
  of_error : ∀ {s : σ} {err : Error}, (x.run s).1 = .error err → P err

namespace Eval.FailsOnly

variable {P Q : Error → Prop} {x : Eval σ α}

theorem ret (a : α) : FailsOnly P (pure a : Eval σ α) := ⟨nofun⟩

theorem fail {err : Error} (h : P err) : FailsOnly P (throw err : Eval σ α) where
  of_error := by
    rintro s _ ⟨⟩
    exact h

/-- What comes after a failure does not matter. -/
theorem fail_bind {err : Error} {f : α → Eval σ β} (h : P err) : FailsOnly P (throw err >>= f) where
  of_error := by
    rintro s _ ⟨⟩
    exact h

theorem lift (x : StateM σ α) : FailsOnly P (liftM x : Eval σ α) := ⟨nofun⟩

theorem bind {f : α → Eval σ β} (hx : FailsOnly P x) (hf : ∀ a, FailsOnly P (f a)) :
    FailsOnly P (x >>= f) where
  of_error := by
    intro s err h
    rcases hr : x.run s with ⟨err' | a, t⟩
    · rw [run_bind_of_error hr] at h
      exact Except.error.inj h ▸ hx.of_error (congrArg Prod.fst hr)
    · rw [run_bind_of_ok hr] at h
      exact (hf a).of_error h

/-- Something is looked for, and it is found or not. -/
theorem bindOption {x : Eval σ (Option α)} {f : Option α → Eval σ β} (hx : FailsOnly P x)
    (hsome : ∀ a, FailsOnly P (f (some a))) (hnone : FailsOnly P (f none)) :
    FailsOnly P (x >>= f) := by
  refine hx.bind fun found => ?_
  cases found with
  | some a => exact hsome a
  | none => exact hnone

theorem map (hx : FailsOnly P x) (f : α → β) : FailsOnly P (f <$> x) := by
  rw [← bind_pure_comp]
  exact hx.bind fun _ => ret _

theorem tryCatch {k : Error → Eval σ α} (hx : FailsOnly P x)
    (hk : ∀ err, P err → FailsOnly Q (k err)) :
    FailsOnly Q (MonadExcept.tryCatch x k) where
  of_error := by
    intro s err h
    rcases hr : x.run s with ⟨err' | a, t⟩
    · rw [run_tryCatch_of_error hr] at h
      exact (hk err' (hx.of_error (congrArg Prod.fst hr))).of_error h
    · rw [run_tryCatch_of_ok hr] at h
      cases h

theorem mono (hx : FailsOnly P x) (h : ∀ err, P err → Q err) : FailsOnly Q x :=
  ⟨fun herr => h _ (hx.of_error herr)⟩

/-- What a computation fails with, reported as something else by `f`. -/
theorem adapt {f : Error → Error} (hx : FailsOnly P x) (hf : ∀ err, P err → Q (f err)) :
    FailsOnly Q (ExceptT.adapt f x) where
  of_error := by
    intro s err h
    change (x.run s).1.mapError f = .error err at h
    cases hr : (x.run s).1 with
    | ok a =>
      rw [hr] at h
      cases h
    | error err' =>
      rw [hr] at h
      exact Except.error.inj h ▸ hf err' (hx.of_error hr)

/-- A result that is there already. -/
theorem ofExcept {r : Except Error α} (hr : ∀ {err}, r = .error err → P err) :
    FailsOnly P (liftM r : Eval σ α) :=
  ⟨fun h => hr h⟩

/-- What the state gives is one of the values that it can give. -/
theorem lift_bind {x : StateM σ α} {f : α → Eval σ β} (hf : ∀ s, FailsOnly P (f (x.run s).1)) :
    FailsOnly P (liftM x >>= f) where
  of_error := by
    intro s err h
    have hrun : (liftM x : Eval σ α).run s = (.ok (x.run s).1, (x.run s).2) := run_liftM_of_run rfl
    rw [run_bind_of_ok hrun] at h
    exact (hf s).of_error h

end Eval.FailsOnly

/-! ## Faults without a place -/

/-- If there is no result, the error is reported nowhere. -/
structure FailsUnplaced (r : Except Error α) : Prop where
  of_error : ∀ {err : Error}, r = .error err → err.location = none

namespace FailsUnplaced

theorem ok (a : α) : FailsUnplaced (.ok a) := ⟨nofun⟩

theorem fault (fault : Fault) : FailsUnplaced (.error (.of fault) : Except Error α) where
  of_error := by
    rintro _ ⟨⟩
    rfl

theorem bind {r : Except Error α} {f : α → Except Error β} (hr : FailsUnplaced r)
    (hf : ∀ a, FailsUnplaced (f a)) : FailsUnplaced (r >>= f) := by
  cases r with
  | ok a => exact hf a
  | error err => exact ⟨fun h => hr.of_error (by rw [← Except.error.inj h])⟩

theorem lift {r : Except Error α} (hr : FailsUnplaced r) :
    Eval.FailsOnly (·.location = none) (liftM r : Eval σ α) :=
  .ofExcept hr.of_error

end FailsUnplaced

/-! ## Values and data -/

/-- Some value has no text. -/
def Error.Unformattable (err : Error) : Prop := ∃ kind, err = .of (.unformattable kind)

mutual

/-- **The text of a value is missing only where some value has none** (`Error.Unformattable`), which
is said nowhere in a source. -/
theorem Value.format_failsOnly (host : Host σ) (v : Value) :
    Eval.FailsOnly Error.Unformattable (v.format host) := by
  match v with
  | .none | .bool _ | .int _ | .float _ | .str _ | .bytes _ =>
    rw [Value.format]
    exact .ret _
  | .map _ | .func _ =>
    rw [Value.format]
    exact .fail ⟨_, rfl⟩
  | .object o =>
    rw [Value.format]
    refine .bind (.lift _) fun text => ?_
    split
    · exact .ret _
    · exact .fail ⟨_, rfl⟩
  | .list items =>
    rw [Value.format]
    exact (Value.formatAll_failsOnly host items).map _

theorem Value.formatAll_failsOnly (host : Host σ) (vs : List Value) :
    Eval.FailsOnly Error.Unformattable (Value.formatAll host vs) := by
  match vs with
  | [] =>
    rw [Value.formatAll]
    exact .ret _
  | v :: vs =>
    rw [Value.formatAll]
    exact .bind (Value.format_failsOnly host v) fun _ =>
      .bind (Value.formatAll_failsOnly host vs) fun _ => .ret _

end

theorem Error.Unformattable.location {err : Error} (h : err.Unformattable) :
    err.location = none := by
  obtain ⟨kind, rfl⟩ := h
  rfl

theorem Error.Unformattable.isMiss {err : Error} (h : err.Unformattable) : err.isMiss = true := by
  obtain ⟨kind, rfl⟩ := h
  rfl

theorem Value.asKey_failsUnplaced (v : Value) : FailsUnplaced v.asKey := by
  unfold Value.asKey
  split
  · exact .ok _
  · exact .ok _
  · exact .ok _
  · exact .fault _

namespace Data

mutual

/-- **Data that cannot become a value is at fault nowhere.** -/
theorem toValue_failsUnplaced (d : Data) : FailsUnplaced d.toValue := by
  match d with
  | .null | .bool _ | .float _ | .single _ | .text _ | .bytes _ =>
    rw [toValue]
    exact .ok _
  | .wideInteger _ | .failing _ =>
    rw [toValue]
    exact .fault _
  | .integer n =>
    rw [toValue]
    split
    · exact .ok _
    · exact .fault _
  | .list items =>
    rw [toValue]
    exact .bind (itemValues_failsUnplaced items) fun _ => .ok _
  | .map events =>
    rw [toValue]
    exact .bind (eventEntries_failsUnplaced none .nil events) fun _ => .ok _
  | .record fields =>
    rw [toValue]
    exact .bind (fieldEntries_failsUnplaced .nil fields) fun _ => .ok _
  | .variant name payload =>
    rw [toValue]
    exact .bind (toValue_failsUnplaced payload) fun _ => .ok _

theorem itemValues_failsUnplaced (items : List Data) : FailsUnplaced (itemValues items) := by
  match items with
  | [] =>
    rw [itemValues]
    exact .ok _
  | d :: ds =>
    rw [itemValues]
    exact .bind (toValue_failsUnplaced d) fun _ =>
      .bind (itemValues_failsUnplaced ds) fun _ => .ok _

theorem eventEntries_failsUnplaced (key : Option String) (entries : Entries none)
    (events : List MapEvent) :
    FailsUnplaced (eventEntries key entries events) := by
  match events with
  | [] =>
    rw [eventEntries]
    exact .ok _
  | .key d :: events =>
    rw [eventEntries]
    exact .bind (toValue_failsUnplaced d) fun v => .bind v.asKey_failsUnplaced fun key =>
      eventEntries_failsUnplaced (some key) entries events
  | .value d :: events =>
    cases key with
    | some key =>
      exact .bind (toValue_failsUnplaced d) fun v => eventEntries_failsUnplaced none _ events
    | none => exact .fault _

theorem fieldEntries_failsUnplaced (entries : Entries none) (fields : List (String × Data)) :
    FailsUnplaced (fieldEntries entries fields) := by
  match fields with
  | [] =>
    rw [fieldEntries]
    exact .ok _
  | (name, d) :: fields =>
    rw [fieldEntries]
    exact .bind (toValue_failsUnplaced d) fun v => fieldEntries_failsUnplaced _ fields

end

end Data

theorem Overlay.extend_failsUnplaced (layer : Table) (map : Value) :
    FailsUnplaced (Overlay.extend layer map) := by
  unfold extend
  split
  · exact .ok _
  · exact .fault _

/-! ## Builtin functions -/

theorem readArgument_failsUnplaced (α : Type) [FromValue α] (args : List Value) (position : Nat) :
    FailsUnplaced (readArgument α args position) := by
  unfold readArgument
  dsimp only
  split
  · exact .ok _
  · exact .fault _

namespace Builtin

theorem numeral_failsUnplaced (function : String) (v : Value) :
    FailsUnplaced (numeral function v) := by
  unfold numeral
  split
  · exact .ok _
  · exact .fault _

theorem arithmetic_failsUnplaced (function : String) (exact : Int → Int → Option Int)
    (rounded : Float → Float → Float) (a b : Value) :
    FailsUnplaced (arithmetic function exact rounded a b) := by
  refine .bind (numeral_failsUnplaced function a) fun x =>
    .bind (numeral_failsUnplaced function b) fun y => ?_
  split
  · split
    · exact .ok _
    · exact .fault _
  · exact .ok _

theorem refuseZero_failsUnplaced (function : String) (b : Value) :
    FailsUnplaced (refuseZero function b) := by
  refine .bind (numeral_failsUnplaced function b) fun y => ?_
  split
  · exact .fault _
  · exact .ok _

theorem sum_failsUnplaced (a b : Value) : FailsUnplaced (sum a b) := by
  unfold sum
  dsimp only
  split
  · split
    · exact arithmetic_failsUnplaced ..
    · exact .ok _
  · exact arithmetic_failsUnplaced ..

theorem order_failsUnplaced (a b : Value) : FailsUnplaced (order a b) := by
  unfold order
  extract_lets found
  clear_value found
  split
  · exact .ok _
  · exact .fault _

theorem toInteger_failsUnplaced (v : Value) : FailsUnplaced (toInteger v) := by
  unfold toInteger
  split
  · exact .ok _
  · refine .bind (numeral_failsUnplaced "INT" _) fun x => ?_
    split <;> exact .ok _

theorem size_failsUnplaced (v : Value) : FailsUnplaced (size v) := by
  unfold size
  split
  · exact .ok _
  · exact .ok _
  · exact .ok _
  · exact .ok _
  · exact .fault _

theorem reversed_failsUnplaced (v : Value) : FailsUnplaced (reversed v) := by
  unfold reversed
  split
  · exact .ok _
  · exact .ok _
  · exact .fault _

/-- **What is wrong with the arguments of a builtin function is wrong nowhere in a source.** -/
theorem call_failsOnly (host : Host σ) (b : Builtin) (args : List Value) :
    Eval.FailsOnly (·.location = none) (b.call host args) := by
  have hread (α : Type) [FromValue α] (position : Nat) :
      Eval.FailsOnly (·.location = none) (liftM (readArgument α args position) : Eval σ α) :=
    (readArgument_failsUnplaced α args position).lift
  refine .bind (hread ..) fun v => .bind (hread ..) fun w => ?_
  cases b with
  | upper | lower | trim | first | last => exact .bind (hread ..) fun _ => .ret _
  | split | word | mask => exact .bind (hread ..) fun _ => .bind (hread ..) fun _ => .ret _
  | join =>
    have hitems (items : List Value) :=
      (Value.formatAll_failsOnly host items).mono fun _ => Error.Unformattable.location
    exact .bind (hread ..) fun _ => .bind (hread ..) fun _ =>
      .bind (.bind (hitems _) fun _ => .ret _) fun _ => .ret _
  | item => exact .bind (.lift _) fun _ => .ret _
  | «if» | null | not | eq | ne => exact .ret _
  | len => exact .bind (size_failsUnplaced v).lift fun _ => .ret _
  | reverse => exact (reversed_failsUnplaced v).lift
  | add => exact (sum_failsUnplaced v w).lift
  | sub | mul => exact (arithmetic_failsUnplaced ..).lift
  | div | mod =>
    exact FailsUnplaced.lift (.bind (refuseZero_failsUnplaced ..) fun _ =>
      arithmetic_failsUnplaced ..)
  | lt | le | gt | ge => exact .bind (order_failsUnplaced v w).lift fun _ => .ret _
  | str =>
    exact .bind ((v.format_failsOnly host).mono fun _ =>
      Error.Unformattable.location) fun _ => .ret _
  | int => exact .bind (toInteger_failsUnplaced v).lift fun _ => .ret _
  | float =>
    exact .bind (FailsUnplaced.lift (.bind (numeral_failsUnplaced "FLOAT" v) fun _ =>
      .ok _)) fun _ => .ret _

end Builtin
end Interpolation
