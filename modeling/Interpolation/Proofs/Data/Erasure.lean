import Interpolation.Proofs.Context.Entries
import Interpolation.Proofs.Purity

/-!
# Values as data

A value is told as data, and the data becomes a value again (`toValue_toData`). Of the first value
everything is there again that data can hold. What data cannot hold is erased (`Value.erase`), at
any depth: a function is none, and an object is the text that it gives, or none if it has no text.

The entries of a map are told one by one and inserted one by one. Since their keys come in order,
the map that they make is the one they are told of (`Entries.ofPairs_toList`).
-/

namespace Interpolation

variable {σ : Type} {host : Host σ}

namespace Value

/-- The values that a list or a map is made of. -/
def parts : Value → List Value
  | .list items => items
  | .map entries => entries.toList.map (·.2)
  | _ => []

/-- `P` holds of a value and of all that is in it, at any depth. -/
inductive Throughout (P : Value → Prop) : Value → Prop where
  | mk {v : Value} (h : P v) (hparts : ∀ part ∈ v.parts, Throughout P part) : Throughout P v

/-- The value is neither an object nor a function. -/
def IsData : Value → Prop
  | .object _ | .func _ => False
  | _ => True

mutual

/-- What data holds of a value. Objects are asked for their texts. -/
def erase (host : Host σ) : Value → StateM σ Value
  | .none | .func _ => return .none
  | .bool b => return .bool b
  | .int n => return .int n
  | .float x => return .float x
  | .str s => return .str s
  | .bytes octets => return .bytes octets
  | .list items => return .list (← eraseItems host items)
  | .map entries => return .map (← eraseEntries host entries)
  | .object o => return ((← host.textOf o).map Value.str).getD .none

def eraseItems (host : Host σ) : List Value → StateM σ (List Value)
  | [] => return []
  | v :: vs => do
    let v ← erase host v
    let vs ← eraseItems host vs
    return v :: vs

def eraseEntries (host : Host σ) {after : Option String} : Entries after → StateM σ (Entries after)
  | .nil => return .nil
  | .cons key h v rest => do
    let v ← erase host v
    let rest ← eraseEntries host rest
    return .cons key h v rest

end

namespace Throughout

variable {P : Value → Prop} {v : Value}

/-- There is nothing in the value. -/
theorem leaf (h : P v) (hparts : v.parts = []) : v.Throughout P :=
  .mk h (hparts ▸ List.forall_mem_nil _)

theorem list_iff {items : List Value} :
    (Value.list items).Throughout P ↔ P (.list items) ∧ ∀ v ∈ items, v.Throughout P :=
  ⟨fun ⟨h, hparts⟩ => ⟨h, hparts⟩, fun ⟨h, hparts⟩ => ⟨h, hparts⟩⟩

theorem map_iff {entries : Entries Option.none} :
    (Value.map entries).Throughout P ↔
      P (.map entries) ∧ ∀ entry ∈ entries.toList, entry.2.Throughout P :=
  ⟨fun ⟨h, hparts⟩ => ⟨h, List.forall_mem_map.1 hparts⟩,
    fun ⟨h, hparts⟩ => ⟨h, List.forall_mem_map.2 hparts⟩⟩

end Throughout

theorem eraseItems_eq_pure {items : List Value} (h : ∀ v ∈ items, v.erase host = pure v) :
    eraseItems host items = pure items := by
  induction items with
  | nil => rfl
  | cons v vs ih =>
    obtain ⟨hv, hvs⟩ := List.forall_mem_cons.1 h
    rw [eraseItems, hv, ih hvs]
    rfl

theorem eraseEntries_eq_pure {after : Option String} {entries : Entries after}
    (h : ∀ entry ∈ entries.toList, entry.2.erase host = pure entry.2) :
    eraseEntries host entries = pure entries := by
  induction entries with
  | nil => rfl
  | cons key hkey v rest ih =>
    obtain ⟨hv, hrest⟩ := List.forall_mem_cons.1 h
    rw [eraseEntries, hv, ih hrest]
    rfl

/-- Where there are no objects and no functions, nothing is erased. -/
theorem erase_of_isData {v : Value} (h : v.Throughout IsData) : v.erase host = pure v := by
  induction h with
  | @mk v h _ ih =>
    cases v with
    | list items =>
      have hitems : eraseItems host items = pure items := eraseItems_eq_pure ih
      rw [erase, hitems]
      rfl
    | map entries =>
      rw [erase, eraseEntries_eq_pure (List.forall_mem_map.1 ih)]
      rfl
    | object | func => exact h.elim
    | none | bool | int | float | str | bytes => rfl

end Value

/-! ## Data of a value -/

/-- What goes on from results alone goes on alike after computations with the same results. -/
theorem bind_eq_bind_of_map_eq_map {m : Type → Type} [Monad m] [LawfulMonad m] {α β γ δ : Type}
    {x : m α} {y : m β} {f : α → γ} {g : β → γ} (h : f <$> x = g <$> y) (k : γ → m δ) :
    (x >>= fun a => k (f a)) = (y >>= fun b => k (g b)) := by
  rw [← bind_map_left f x, h, bind_map_left]

namespace Data

open Value

mutual

/-- **A value that is told as data becomes the value again, but for what `erase` takes away.** -/
theorem toValue_toData_erase (v : Value) :
    toValue <$> v.toData host = Except.ok <$> v.erase host := by
  match v with
  | .list items =>
    rw [toData, erase, map_bind, map_bind]
    exact bind_eq_bind_of_map_eq_map (itemValues_itemsToData items) fun vs =>
      pure (vs.map Value.list)
  | .map entries =>
    rw [toData, erase, map_bind, map_bind]
    have hentries := bind_eq_bind_of_map_eq_map (eventEntries_entriesToData .nil entries) fun es =>
      pure (es.map Value.map)
    refine hentries.trans (congrArg _ (funext fun es => ?_))
    exact congrArg (fun es => pure (Except.ok (Value.map es))) es.ofPairs_toList
  | .int n =>
    have hn : Number.toInt64? n.toInt = some n := Number.toInt64?_eq_some.2 rfl
    rw [toData, erase, map_pure, toValue, hn]
    rfl
  | .object o =>
    rw [toData, erase, map_bind, map_bind]
    refine congrArg _ (funext fun text => ?_)
    cases text <;> rfl
  | .none | .bool _ | .float _ | .str _ | .bytes _ | .func _ => rfl

theorem itemValues_itemsToData (items : List Value) :
    itemValues <$> itemsToData host items = Except.ok <$> eraseItems host items := by
  match items with
  | [] => rfl
  | v :: vs =>
    rw [itemsToData, eraseItems, map_bind, map_bind]
    have hv := bind_eq_bind_of_map_eq_map (toValue_toData_erase v) fun v => do
      let ds ← itemsToData host vs
      return do return (← v) :: (← itemValues ds)
    have hvs (v : Value) := bind_eq_bind_of_map_eq_map (itemValues_itemsToData vs) fun vs =>
      pure (vs.map (v :: ·))
    exact hv.trans (congrArg _ (funext hvs))

/-- The entries of a map are inserted in `before`. -/
theorem eventEntries_entriesToData (before : Entries Option.none) {after : Option String}
    (entries : Entries after) :
    eventEntries none before <$> entriesToData host entries =
      (fun es : Entries after => Except.ok (es.toList.foldl
        (fun es (key, v) => es.insert key v) before)) <$>
        eraseEntries host entries := by
  match entries with
  | .nil => rfl
  | .cons key _ v rest =>
    rw [entriesToData, eraseEntries, map_bind, map_bind]
    have hv := bind_eq_bind_of_map_eq_map (toValue_toData_erase v) fun v => do
      let events ← entriesToData host rest
      return do eventEntries none (before.insert key (← v)) events
    have hrest (v : Value) := bind_eq_bind_of_map_eq_map
      (eventEntries_entriesToData (before.insert key v) rest) pure
    exact hv.trans (congrArg _ (funext hrest))

end

/-! ## Values that come of data -/

mutual

/-- **What data becomes is data throughout (`IsData`).** -/
theorem throughout_of_toValue {d : Data} {v : Value} (h : d.toValue = .ok v) :
    v.Throughout IsData := by
  match d with
  | .null | .bool _ | .float _ | .single _ | .text _ | .bytes _ =>
    rw [toValue] at h
    cases h
    exact .mk trivial (List.forall_mem_nil _)
  | .integer n =>
    rw [toValue] at h
    split at h <;> cases h
    exact .mk trivial (List.forall_mem_nil _)
  | .wideInteger _ | .failing _ =>
    rw [toValue] at h
    cases h
  | .list items =>
    rw [toValue] at h
    obtain ⟨vs, hvs, h⟩ := exists_of_bind_eq_ok h
    cases h
    exact Throughout.list_iff.2 ⟨trivial, throughout_of_itemValues hvs⟩
  | .map events =>
    rw [toValue] at h
    obtain ⟨es, hes, h⟩ := exists_of_bind_eq_ok h
    cases h
    exact Throughout.map_iff.2 ⟨trivial, throughout_of_eventEntries hes (List.forall_mem_nil _)⟩
  | .record fields =>
    rw [toValue] at h
    obtain ⟨es, hes, h⟩ := exists_of_bind_eq_ok h
    cases h
    exact Throughout.map_iff.2 ⟨trivial, throughout_of_fieldEntries hes (List.forall_mem_nil _)⟩
  | .variant name payload =>
    rw [toValue] at h
    obtain ⟨v, hv, h⟩ := exists_of_bind_eq_ok h
    cases h
    exact Throughout.map_iff.2 ⟨trivial, List.forall_mem_singleton.2 (throughout_of_toValue hv)⟩

theorem throughout_of_itemValues {items : List Data} {vs : List Value}
    (h : itemValues items = .ok vs) :
    ∀ v ∈ vs, v.Throughout IsData := by
  match items with
  | [] =>
    rw [itemValues] at h
    cases h
    exact List.forall_mem_nil _
  | d :: ds =>
    rw [itemValues] at h
    obtain ⟨v, hv, h⟩ := exists_of_bind_eq_ok h
    obtain ⟨vs, hvs, h⟩ := exists_of_bind_eq_ok h
    cases h
    exact List.forall_mem_cons.2 ⟨throughout_of_toValue hv, throughout_of_itemValues hvs⟩

theorem throughout_of_eventEntries {key : Option String} {entries es : Entries Option.none}
    {events : List MapEvent} (h : eventEntries key entries events = .ok es)
    (he : ∀ entry ∈ entries.toList, entry.2.Throughout IsData) :
    ∀ entry ∈ es.toList, entry.2.Throughout IsData := by
  match events with
  | [] =>
    rw [eventEntries] at h
    cases h
    exact he
  | .key d :: events =>
    rw [eventEntries] at h
    obtain ⟨v, -, h⟩ := exists_of_bind_eq_ok h
    obtain ⟨key', -, h⟩ := exists_of_bind_eq_ok h
    exact throughout_of_eventEntries h he
  | .value d :: events =>
    cases key with
    | none =>
      rw [eventEntries] at h
      cases h
    | some key =>
      rw [eventEntries] at h
      obtain ⟨v, hv, h⟩ := exists_of_bind_eq_ok h
      refine throughout_of_eventEntries h fun entry hentry => ?_
      rcases Entries.mem_toList_insert hentry with rfl | hentry
      · exact throughout_of_toValue hv
      · exact he entry hentry

theorem throughout_of_fieldEntries {entries es : Entries Option.none}
    {fields : List (String × Data)} (h : fieldEntries entries fields = .ok es)
    (he : ∀ entry ∈ entries.toList, entry.2.Throughout IsData) :
    ∀ entry ∈ es.toList, entry.2.Throughout IsData := by
  match fields with
  | [] =>
    rw [fieldEntries] at h
    cases h
    exact he
  | (name, d) :: fields =>
    rw [fieldEntries] at h
    obtain ⟨v, hv, h⟩ := exists_of_bind_eq_ok h
    refine throughout_of_fieldEntries h fun entry hentry => ?_
    rcases Entries.mem_toList_insert hentry with rfl | hentry
    · exact throughout_of_toValue hv
    · exact he entry hentry

end

end Data

open Value in
/-- **Values are told as data, and come back, exactly up to `erase`.** They never fail to. Hence
what data becomes, once told as data, becomes itself again, and so does every value without objects
and functions. A part of an overlay that is made of the data of a value does just what the map of
the erased value does, or fails as that does. -/
theorem toValue_toData (host : Host σ) :
    (∀ v : Value, Data.toValue <$> v.toData host = Except.ok <$> v.erase host) ∧
    (∀ (d : Data) (v : Value), d.toValue = .ok v → Data.toValue <$> v.toData host = pure (.ok v)) ∧
    (∀ v : Value, v.Throughout IsData → Data.toValue <$> v.toData host = pure (.ok v)) ∧
    ∀ (v : Value) (before after : Overlay σ),
      (fun d => (before ++ .mergeData d :: after).layer) <$> v.toData host =
        (fun v => (before ++ .merge (.ok v) :: after).layer) <$> v.erase host := by
  have herase (v : Value) : Data.toValue <$> v.toData host = Except.ok <$> v.erase host :=
    Data.toValue_toData_erase v
  have hdata {v : Value} (hv : v.Throughout IsData) :
      Data.toValue <$> v.toData host = pure (.ok v) := by
    rw [herase, erase_of_isData hv, map_pure]
  refine ⟨herase, fun d v h => hdata (Data.throughout_of_toValue h), fun v => hdata,
    fun v before after => ?_⟩
  have hlayer := congrArg (Functor.map fun map => (before ++ .merge map :: after).layer) (herase v)
  rw [Functor.map_map, Functor.map_map] at hlayer
  exact hlayer

/-- A map with a list that repeats a number, with a function, and with objects of which one has a
text, a longer one each time. -/
theorem toValue_toData_nested :
    let text (id asked : Nat) :=
      (if id = 0 then some (String.ofList (.replicate asked 'T')) else none, asked + 1)
    let host : Host Nat := { Host.echoing Nat with text }
    let v (a b c d : Value) : Value :=
      .map (.ofPairs
        [("b", .map (.ofPairs [("c", .bytes [255])])), ("A", .list [a, b, c, d, .int 1, .int 1])])
    let o : Value := .object (.host 0)
    let instances := v (.func (.builtin .upper)) o (.object .process) o
    let erased := v .none (.str "T") .none (.str "TT")
    (Data.toValue <$> instances.toData host).run 1 = (.ok erased, 3) ∧
      erased.Throughout Value.IsData ∧ Data.toValue <$> erased.toData host = pure (.ok erased) ∧
      ((fun d => Overlay.layer [.set "a" .none, .mergeData d]) <$> instances.toData host).run 1 =
        ((Overlay.layer [.set "a" .none, .merge (.ok erased)] : Eval Nat Table), 3) := by
  intro text host v o instances erased
  obtain ⟨herase, -, hsame, hoverlay⟩ := toValue_toData host
  have herased : (instances.erase host).run 1 = (erased, 3) := rfl
  have htold : (Data.toValue <$> instances.toData host).run 1 = (.ok erased, 3) := by
    rw [herase, StateT.run_map, herased]
    rfl
  have hdata : ((instances.toData host).run 1).1.toValue = .ok erased := congrArg Prod.fst htold
  have hthroughout : erased.Throughout Value.IsData := Data.throughout_of_toValue hdata
  have hlayers := congrArg (·.run 1) (hoverlay instances [.set "a" .none] [])
  refine ⟨htold, hthroughout, hsame erased hthroughout, hlayers.trans ?_⟩
  rw [StateT.run_map, herased]
  rfl

end Interpolation
