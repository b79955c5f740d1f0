import Interpolation.Proofs.Failure
import Interpolation.Proofs.Sigil.Chains

/-!
# Indices

An index stands behind a root as a member, where it is a name, or as the argument of the root, where
it is an integer. The two are the same item: what an integer is written as is a key of a map and the
name of a field, and it is read as the position in a list (`Value.item_str`). So they resolve to the
same (`resolve_index`). A list has the items from its beginning under the positions from zero on,
and from its end under the negative ones (`Value.index?_eq`).
-/

namespace Interpolation

open Text

variable {σ α : Type}

/-! ## Texts of integers -/

/-- Digits have no lowercase but themselves. -/
theorem Text.lower_of_isDigit {cs : List Char} (h : ∀ c ∈ cs, c.isDigit = true) :
    lower cs = cs := by
  have hall : ∀ code < 0x80, (Char.ofNat code).isDigit = true →
      Char.ofNat code ≠ 'Σ' ∧ lowerChar (Char.ofNat code) = [Char.ofNat code] := by
    decide
  have hafter (before : List Char) : lowerAfter before cs = cs := by
    induction cs generalizing before with
    | nil => rfl
    | cons c cs ih =>
      obtain ⟨hc, hcs⟩ := List.forall_mem_cons.1 h
      have hascii : c.toNat < 0x80 := Nat.lt_of_le_of_lt (Char.isDigit_iff_toNat.1 hc).2 (by decide)
      have hchar := hall c.toNat hascii
      rw [Char.ofNat_toNat] at hchar
      obtain ⟨hne, hlower⟩ := hchar hc
      rw [lowerAfter, if_neg hne, hlower, ih hcs]
      rfl
  exact hafter []

namespace Number

theorem writeInteger_eq (i : Int) : writeInteger i = (toString i).toList := by
  cases i with
  | ofNat k => exact Nat.toList_repr.symm
  | negSucc k =>
    rw [writeInteger, if_pos (Int.negSucc_lt_zero k)]
    change _ = ("-" ++ Nat.repr (k + 1)).toList
    rw [String.toList_append, Nat.toList_repr]
    rfl

theorem writeInt64_eq (n : Int64) : writeInt64 n = toString n.toInt := by
  rw [writeInt64, writeInteger_eq, String.ofList_toList]

end Number

theorem lowerCase_toString (k : Nat) : lowerCase (toString k) = toString k := by
  have hdigits : ∀ c ∈ Nat.toDigits 10 k, c.isDigit = true := fun c hc =>
    Nat.isDigit_of_mem_toDigits (by decide) (by decide) hc
  rw [lowerCase, Nat.toString_eq_repr, Nat.toList_repr, lower_of_isDigit hdigits, ← Nat.toList_repr,
    String.ofList_toList]

/-! ## Items -/

/-- The object lacks the field when it is asked for it, and has it when it is asked once more. -/
def Host.ComesToHave (host : Host σ) (o : ObjectRef) (name : String) (t : σ) : Prop :=
  ∃ t', (host.fieldOf o name).run t = (none, t') ∧ ((host.fieldOf o name).run t').1 ≠ none

namespace Value

/-- **A text of an integer is the same key as the integer.** -/
theorem item_str (host : Host σ) (v : Value) (n : Int64) :
    item host v (.str (toString n.toInt)) = item host v (.int n) := by
  have hkey : keyText? (.str (toString n.toInt)) = keyText? (.int n) := by
    rw [keyText?, keyText?, Number.writeInt64_eq]
  have hposition : position? (.str (toString n.toInt)) = position? (.int n) := by
    rw [position?, position?, ← Number.writeInteger_eq, Number.readInt64?_writeInteger]
  unfold item
  rw [hkey, hposition]

/-- A position from the beginning or from the end of a list. -/
theorem index?_eq {items : List α} {position : Int64} {n : Nat} (hn : n < items.length)
    (h : position.toInt = n ∨ position.toInt = n - items.length) :
    index? items position = some items[n] := by
  have hposition : (if position.toInt < 0 then items.length + position.toInt
      else position.toInt) = (n : Int) := by
    split <;> omega
  rw [index?, hposition, if_pos (Int.natCast_nonneg n), Int.toNat_natCast,
    List.getElem?_eq_getElem hn]

theorem index?_eq_none {items : List α} {position : Int64}
    (h : position.toInt < -items.length ∨ items.length ≤ position.toInt) :
    index? items position = Option.none := by
  unfold index?
  dsimp only
  split
  · split
    · omega
    · rfl
  · next hpositive =>
    have hout : items.length ≤ position.toInt := h.resolve_left (by omega)
    rw [if_pos (by omega), List.getElem?_eq_none (by omega)]

/-- What is no item of a value is no member either, unless an object comes to have it. -/
theorem member_of_item_none {host : Host σ} {v : Value} {name : String}
    (hname : lowerCase name = name) {t t' : σ}
    (hlasts : ∀ o, v = .object o → ¬ host.ComesToHave o name t)
    (hnone : (item host v (.str name)).run t = (Option.none, t')) :
    ((member host v (lowerCase name)).run t').1 = Option.none := by
  cases v with
  | object o =>
    have hfield : (host.fieldOf o (lowerCase name)).run t = (Option.none, t') := hnone
    rw [hname] at hfield
    change ((host.fieldOf o (lowerCase name)).run t').1 = _
    rw [hname]
    exact Decidable.byContradiction fun hsome => hlasts o rfl ⟨t', hfield, hsome⟩
  | map entries =>
    rw [hname]
    exact congrArg Prod.fst hnone
  | none | bool | int | float | str | bytes | list | func => rfl

end Value

/-! ## Two notations -/

namespace Delimiters

/-- An index behind a root, with `mark` between them. -/
def indexed (d : Delimiters) (root : String) (mark : Char) (index : String) : String :=
  String.ofList (d.opening ++ (root.toList ++ (mark :: (index.toList ++ d.closing))))

variable {d : Delimiters}

section
variable {x : String} (hd : d.Clean) (hx : IsIdentifier x)
include hd hx

theorem parse_indexed_member (k : Nat) :
    ∃ (n m : Name) (span : Span), n.text = x ∧ m.text = toString k ∧
    d.parse (d.indexed x '.' (toString k)) = .ok (.mk (.bare n) [.bare m] span) := by
  let root : Token := ⟨.identifier, 0 + byteLength d.opening, x.toList⟩
  let dot : Token := ⟨.dot, root.span.stop, ['.']⟩
  let index : Token := ⟨.number, dot.span.stop, (toString k).toList⟩
  let closing : Token := ⟨.closing, index.span.stop, d.closing⟩
  have hsigil := @ReadsSigil.mk ⟨.opening, 0, d.opening⟩ closing [root] _ _ _ rfl (.bare (.inl rfl))
    (.cons (show dot.kind = .dot from rfl) (.bare (t := index) (.inr ⟨rfl, rfl⟩)) .nil) rfl
  refine ⟨root.name, index.name, _, String.ofList_toList, String.ofList_toList,
    parse_of_renders hd ⟨_, ?_, hsigil⟩⟩
  have hdigits : Spelling d .number (toString k).toList := by
    rw [Nat.toString_eq_repr, Nat.toList_repr]
    exact spelling_toDigits d k
  rw [indexed, String.toList_ofList]
  exact .token .opening (.token hx.spelling (.token .dot (.token hdigits (.single .closing))))

theorem parse_indexed_argument (i : Int64) : ∃ (n : Name) (place span : Span), n.text = x ∧
    d.parse (d.indexed x '=' (toString i.toInt)) =
      .ok (.mk (.withArgument n (.literal (.integer i) place)) [] span) := by
  let root : Token := ⟨.identifier, 0 + byteLength d.opening, x.toList⟩
  let equals : Token := ⟨.equals, root.span.stop, ['=']⟩
  obtain ⟨ts, place, hts, hread⟩ := exists_integer d i equals.span.stop
  rw [Number.writeInteger_eq] at hts
  let closing : Token := ⟨.closing,
    equals.span.stop + byteLength (toString i.toInt).toList, d.closing⟩
  have hsigil := @ReadsSigil.mk ⟨.opening, 0, d.opening⟩ closing (root :: equals :: ts) [] _ _ rfl
    (.withArgument (.inl rfl) rfl hread) .nil rfl
  refine ⟨root.name, place, _, String.ofList_toList, parse_of_renders hd ⟨_, ?_, hsigil⟩⟩
  rw [indexed, String.toList_ofList, List.append_nil]
  exact .token .opening (.token hx.spelling (.token .equals (hts.append (.single .closing))))

end

end Delimiters

/-- From the state `t`, both computations give the same value, or both fail with errors of
`kind`. -/
inductive Eval.Agree (kind : ErrorKind) (x y : Eval σ α) (t : σ) : Prop where
  | ok {a : α} (hx : (x.run t).1 = .ok a) (hy : (y.run t).1 = .ok a)
  | error {e e' : Error} (hx : (x.run t).1 = .error e) (hy : (y.run t).1 = .error e')
    (hkind : e.kind = kind) (hkind' : e'.kind = kind)

/-- Computations agree if they go on as ones that do. -/
theorem Eval.Agree.of_run {kind : ErrorKind} {x y x' y' : Eval σ α} {t t' : σ}
    (h : Agree kind x y t') (hx : x'.run t = x.run t') (hy : y'.run t = y.run t') :
    Agree kind x' y' t := by
  cases h with
  | ok hx' hy' => exact .ok (hx ▸ hx') (hy ▸ hy')
  | error hx' hy' hkind hkind' => exact .error (hx ▸ hx') (hy ▸ hy') hkind hkind'

namespace Scene

variable {scene : Scene σ} {v key : Value} {name : Name} {place : Span} {t t' : σ}

theorem run_item_of_some {found : Value}
    (h : (Value.item scene.host v key).run t = (some found, t')) :
    (scene.item v key place).run t = (.ok found, t') := by
  rw [item, run_bind_of_ok (run_liftM_of_run h)]
  rfl

/-- An item that is missing is an error of this kind. -/
theorem run_item_of_none {n : Int64}
    (h : (Value.item scene.host v (.int n)).run t = (none, t')) : ∃ err : Error,
      (scene.item v (.int n) place).run t = (.error err, t') ∧ err.kind = .fieldNotFound := by
  rw [item, run_bind_of_ok (run_liftM_of_run h)]
  exact ⟨_, rfl, Error.kind_locate ..⟩

/-- An item that is no function is what the member stands for. -/
theorem run_member_of_item {found : Value}
    (h : (Value.item scene.host v (.str name.text)).run t = (some found, t'))
    (hcall : ∀ f, found ≠ .func f) : (scene.member v name none place).run t = (.ok found, t') := by
  have hmember : (scene.member? v name.text).run t = (.ok (some found), t') := by
    rw [member?, run_bind_of_ok (run_liftM_of_run h)]
    rfl
  have hselect : (scene.select v name none place).run t = (.ok found, t') := by
    rw [select, run_bind_of_ok hmember]
    cases found with
    | func f => exact absurd rfl (hcall f)
    | none | bool | int | float | str | bytes | list | map | object => rfl
  rw [member, run_bind_of_ok hselect]
  cases found with
  | func f => exact absurd rfl (hcall f)
  | none | bool | int | float | str | bytes | list | map | object => rfl

/-- A member that is neither an item nor a field nor a function of the context is missing. -/
theorem run_member_of_none (h : (Value.item scene.host v (.str name.text)).run t = (none, t'))
    (hmember : ((Value.member scene.host v (lowerCase name.text)).run t').1 = none)
    (hfind : ∀ f, scene.find? name.text ≠ some (.func f)) : ∃ err : Error,
      ((scene.member v name none place).run t).1 = .error err ∧ err.kind = .fieldNotFound := by
  obtain ⟨t'', hfield⟩ :
      ∃ t'', (Value.member scene.host v (lowerCase name.text)).run t' = (none, t'') :=
    ⟨_, Prod.ext hmember rfl⟩
  have hmember : (scene.member? v name.text).run t = (.ok none, t'') := by
    rw [member?, run_bind_of_ok (run_liftM_of_run h)]
    exact run_liftM_of_run hfield
  have hselect : ∃ err : Error, (scene.select v name none place).run t = (.error err, t'') ∧
      err.kind = .fieldNotFound := by
    rw [select, run_bind_of_ok hmember]
    dsimp only
    split
    · exact absurd ‹_› (hfind _)
    · exact ⟨_, rfl, Error.kind_locate ..⟩
  obtain ⟨err, hselect, hkind⟩ := hselect
  refine ⟨err, ?_, hkind⟩
  rw [member, run_bind_of_error hselect]

/-- **A member by the text of an integer is the item for the integer**, unless an object comes to
have the field. -/
theorem member_agrees_item {i : Int64} (hname : name.text = toString i.toInt)
    (hlower : lowerCase name.text = name.text)
    (hlasts : ∀ o, v = .object o → ¬ scene.host.ComesToHave o name.text t)
    (hfind : ∀ f, scene.find? name.text ≠ some (.func f))
    (hcall : ∀ f, ((Value.item scene.host v (.int i)).run t).1 ≠ some (.func f)) (source : String)
    (place' : Span) :
    Eval.Agree .fieldNotFound (scene.member v name none place)
      (item ⟨scene.host, scene.find?, source⟩ v (.int i) place') t := by
  have hstr : Value.item scene.host v (.str name.text) = Value.item scene.host v (.int i) := by
    rw [hname, Value.item_str]
  rcases hitem : (Value.item scene.host v (.int i)).run t with ⟨_ | found, t'⟩
  · obtain ⟨err, herr, hkind⟩ :=
      @run_item_of_none _ ⟨scene.host, scene.find?, source⟩ v place' _ _ i hitem
    rw [← hstr] at hitem
    -- an object is asked for the field once more, in the state that asking for the item has left
    have hnone := Value.member_of_item_none hlower hlasts hitem
    obtain ⟨err', herr', hkind'⟩ := @run_member_of_none _ scene v name place _ _ hitem hnone hfind
    exact .error herr' (congrArg Prod.fst herr) hkind' hkind
  · rw [hitem] at hcall
    have hfound : ∀ f, found ≠ .func f := fun f hf => hcall f (congrArg some hf)
    have hkey :=
      @run_item_of_some _ ⟨scene.host, scene.find?, source⟩ v _ place' _ _ _ hitem
    rw [← hstr] at hitem
    exact .ok (congrArg Prod.fst (run_member_of_item hitem hfound)) (congrArg Prod.fst hkey)

theorem evalMembers_bare (v : Value) (name : Name) :
    scene.evalMembers v [.bare name] = scene.member v name none name.span := by
  rw [Node.bare, evalMembers, evalOption, pure_bind]
  simp only [evalMembers, bind_pure]

/-- A literal behind a name that is bound to `v` selects an item of `v`. -/
theorem run_evalSigil_of_literal (hbound : scene.find? name.text = some v)
    (hcall : ∀ f, v ≠ .func f) (hv : (v.manager? scene.host).run t = (none, t')) (l : Literal)
    (place span : Span) :
    (scene.evalSigil (.mk (.withArgument name (.literal l place)) [] span)).run t =
      (scene.item v l.value (name.span.join place)).run t' := by
  have hroot (place : Span) :
      scene.root name.text v (some l.value) place = scene.item v l.value place := by
    unfold root
    split
    · exact absurd rfl (hcall _)
    · next h =>
      cases h
      rfl
    · contradiction
  rw [Node.withArgument, evalSigil, evalOption, evalArgument, map_pure, pure_bind, lookup, hbound]
  dsimp only
  rw [pure_bind, run_bind_of_ok (run_liftM_of_run hv)]
  dsimp only
  rw [hroot]
  simp only [evalMembers, bind_pure]
  rfl

end Scene

/-- A length and a negative position have a sum that a word holds. -/
theorem toInt_add_of_neg {length position : Int64} (hlength : 0 ≤ length.toInt)
    (hposition : position.toInt < 0) :
    (length + position).toInt = length.toInt + position.toInt := by
  have hgreatest := length.toInt_lt
  have hleast := position.le_toInt
  rw [Int64.toInt_add]
  exact Int.bmod_eq_of_le (by omega) (by omega)

section
variable {e : Engine σ} {c : Context} {x : String} (hd : e.delimiters.Clean) (hx : IsIdentifier x)
include hd hx

section
variable {v : Value} {t t' : σ} (hbound : c.get? x = some v) (hcall : ∀ f, v ≠ .func f)
  (hmanager : (v.manager? e.host).run t = (none, t'))
include hbound hcall hmanager

/-- The argument selects an item of the value. -/
theorem run_indexed_argument (i : Int64) : ∃ (source : String) (place : Span),
    (e.resolve c.get? (e.delimiters.indexed x '=' (toString i.toInt))).run t =
      (Scene.item ⟨e.host, c.get?, source⟩ v (.int i) place).run t' := by
  obtain ⟨n, place, span, rfl, hparse⟩ := Delimiters.parse_indexed_argument hd hx i
  refine ⟨e.delimiters.indexed n.text '=' (toString i.toInt), n.span.join place, ?_⟩
  rw [resolve_of_parse hparse]
  exact Scene.run_evalSigil_of_literal hbound hcall hmanager (.integer i) place span

/-- The member of the value is looked for. -/
theorem run_indexed_member (k : Nat) : ∃ (source : String) (m : Name), m.text = toString k ∧
    (e.resolve c.get? (e.delimiters.indexed x '.' (toString k))).run t =
      (Scene.member ⟨e.host, c.get?, source⟩ v m none m.span).run t' := by
  obtain ⟨n, m, span, rfl, hm, hparse⟩ := Delimiters.parse_indexed_member hd hx k
  refine ⟨e.delimiters.indexed n.text '.' (toString k), m, hm, ?_⟩
  rw [resolve_of_parse hparse, ← Scene.evalMembers_bare]
  exact Scene.run_evalSigil_of_bound hbound hcall hmanager n.span [.bare m] span

/-- **An index resolves to the same as a member and as an argument**, or it is missing as both. -/
theorem indexed_agrees {k : Nat} (hk : k < 2 ^ 63)
    (hfind : ∀ f, c.get? (toString k) ≠ some (.func f))
    (hitem : ∀ f, ((Value.item e.host v (.int (Int64.ofNat k))).run t').1 ≠ some (.func f))
    (hlasts : ∀ o, v = .object o → ¬ e.host.ComesToHave o (toString k) t') :
    Eval.Agree .fieldNotFound (e.resolve c.get? (e.delimiters.indexed x '.' (toString k)))
      (e.resolve c.get? (e.delimiters.indexed x '=' (toString k))) t := by
  generalize hi : Int64.ofNat k = i at hitem
  have hword : toString k = toString i.toInt := by
    rw [← hi, Int64.toInt_ofNat_of_lt hk]
    rfl
  obtain ⟨source, place, hargument⟩ := run_indexed_argument hd hx hbound hcall hmanager i
  obtain ⟨source', m, hm, hmember⟩ := run_indexed_member hd hx hbound hcall hmanager k
  rw [← hm] at hfind hlasts
  have hagree := @Scene.member_agrees_item _ ⟨e.host, c.get?, source'⟩ v m m.span t' i
    (hm.trans hword) (by rw [hm, lowerCase_toString]) hlasts hfind hitem source place
  refine hagree.of_run hmember ?_
  rw [hword]
  exact hargument

end

section
variable {items : List Value} (hbound : c.get? x = some (.list items)) {i : Int64}
include hbound

theorem run_indexed_list (t : σ) : ∃ (source : String) (place : Span),
    (e.resolve c.get? (e.delimiters.indexed x '=' (toString i.toInt))).run t =
      (Scene.item ⟨e.host, c.get?, source⟩ (.list items) (.int i) place).run t :=
  run_indexed_argument hd hx hbound (fun _ h => Value.noConfusion h) rfl i

theorem run_indexed_of_lt {n : Nat} (hn : n < items.length)
    (hi : i.toInt = n ∨ i.toInt = n - items.length) (t : σ) :
    (e.resolve c.get? (e.delimiters.indexed x '=' (toString i.toInt))).run t =
      (.ok items[n], t) := by
  obtain ⟨source, place, hargument⟩ := run_indexed_list hd hx hbound (i := i) t
  rw [hargument]
  refine Scene.run_item_of_some ?_
  change (Value.index? items i, t) = _
  rw [Value.index?_eq hn hi]

theorem run_indexed_of_out (hi : i.toInt < -items.length ∨ items.length ≤ i.toInt) (t : σ) :
    ∃ err : Error, (e.resolve c.get? (e.delimiters.indexed x '=' (toString i.toInt))).run t =
      (.error err, t) ∧ err.kind = .fieldNotFound := by
  obtain ⟨source, place, hargument⟩ := run_indexed_list hd hx hbound (i := i) t
  rw [hargument]
  refine Scene.run_item_of_none ?_
  change (Value.index? items i, t) = _
  rw [Value.index?_eq_none hi]

end

end

/-- **An index is the same as a member and as an argument.** In any context, take a root that is
bound to a value which is neither a function nor an object with records, and an index that a word
holds. If the item is no function and the context has none under the index, then the index resolves
to the same in both notations, or it is missing in both; unless the value is an object that lacks
the field when it is asked for it and has it when it is asked once more (`Host.ComesToHave`), as it
is for a member alone. From a list, any integer as an argument selects the item at that position
from the beginning, or from the end if it is negative, where the sum with the length is exact; or
the item is missing. -/
theorem resolve_index (e : Engine σ) (hd : e.delimiters.Clean) (c : Context) {x : String}
    (hx : IsIdentifier x) :
    (∀ (v : Value) (k : Nat) (t t' : σ), c.get? x = some v → (∀ f, v ≠ .func f) →
      (v.manager? e.host).run t = (none, t') → k ≤ 2 ^ 63 - 1 →
      (∀ f, c.get? (toString k) ≠ some (.func f)) →
      (∀ f, ((Value.item e.host v (.int (Int64.ofNat k))).run t').1 ≠ some (.func f)) →
      (∀ o, v = .object o → ¬ e.host.ComesToHave o (toString k) t') →
      Eval.Agree .fieldNotFound (e.resolve c.get? (e.delimiters.indexed x '.' (toString k)))
        (e.resolve c.get? (e.delimiters.indexed x '=' (toString k))) t) ∧
    ∀ (items : List Value) (i : Int64) (t : σ), c.get? x = some (.list items) →
      let indexed := (e.resolve c.get? (e.delimiters.indexed x '=' (toString i.toInt))).run t
      (∀ n (h : n < items.length), i.toInt = n ∨ i.toInt = n - items.length →
        indexed = (.ok items[n], t)) ∧
      (i.toInt < -items.length ∨ items.length ≤ i.toInt →
        ∃ err : Error, indexed = (.error err, t) ∧ err.kind = .fieldNotFound) ∧
      ∀ length : Int64, length.toInt = items.length → i.toInt < 0 →
        (length + i).toInt = length.toInt + i.toInt :=
  ⟨fun _ _ _ _ hbound hcall hmanager hk hfind hitem hlasts =>
      indexed_agrees hd hx hbound hcall hmanager (by omega) hfind hitem hlasts,
    fun _ i t hbound =>
      ⟨fun _ hn hi => run_indexed_of_lt hd hx hbound hn hi t,
        fun hi => run_indexed_of_out hd hx hbound hi t,
        fun _ hlength hi => toInt_add_of_neg (hlength ▸ Int.natCast_nonneg _) hi⟩⟩

/-- An index of a list in both notations, and a position from its end. -/
theorem resolve_index_last :
    let e := Engine.new Host.echo
    let c := (Moment.run ⟨⟨.empty 0, []⟩, ()⟩ [.set "xs" (.list [.str "a", .str "b"])]).context
    Eval.Agree .fieldNotFound (e.resolve c.get? "[xs.1]") (e.resolve c.get? "[xs=1]") () ∧
      (e.resolve c.get? "[xs=-1]").run () = (.ok (.str "b"), ()) ∧
      ∃ err : Error, (e.resolve c.get? "[xs=2]").run () = (.error err, ()) ∧
        err.kind = .fieldNotFound := by
  intro e c
  have hbound : c.get? "xs" = some (.list [.str "a", .str "b"]) := by cbv
  have hidentifier : IsIdentifier "xs" :=
    ⟨'x', ['s'], rfl, by decide, List.forall_mem_singleton.2 (by decide)⟩
  obtain ⟨hagree, hlist⟩ := resolve_index e Delimiters.square_clean c hidentifier
  have hcall : ∀ f, Value.list [.str "a", .str "b"] ≠ .func f := fun _ h => Value.noConfusion h
  have hlasts : ∀ o, Value.list [.str "a", .str "b"] = .object o →
      ¬ e.host.ComesToHave o (toString 1) () := fun _ h => Value.noConfusion h
  have hnone : c.get? (toString 1) = none := by cbv
  have hword : 1 ≤ 2 ^ 63 - 1 := by norm_num
  refine ⟨hagree _ 1 () () hbound hcall rfl hword (fun f h => ?_) (fun f h => ?_) hlasts, ?_, ?_⟩
  · cases hnone.symm.trans h
  · cases h
  · exact (hlist _ (-1) () hbound).1 1 (by decide) (.inr rfl)
  · exact (hlist _ 2 () hbound).2.1 (.inr (by decide))

/-- A host whose objects come to have their fields when they are asked for the first one. -/
def Host.late : Host Bool :=
  { Host.echoing Bool with field _ _ := fun asked => (if asked then some (.int 1) else none, true) }

/-- **The notations do not agree on every object, nor under every key.** An object that comes to
have a field gives it to a member, which asks for it twice, and not to an argument. A key that is no
identifier may be bound, but a sigil in which it stands for a root is refused in both notations. -/
theorem not_resolve_index :
    (¬ ∀ (e : Engine Bool) (c : Context) (x : String) (v : Value) (k : Nat) (t t' : Bool),
      e.delimiters.Clean → IsIdentifier x → c.get? x = some v → (∀ f, v ≠ .func f) →
      (v.manager? e.host).run t = (none, t') → k ≤ 2 ^ 63 - 1 →
      (∀ f, c.get? (toString k) ≠ some (.func f)) →
      (∀ f, ((Value.item e.host v (.int (Int64.ofNat k))).run t').1 ≠ some (.func f)) →
      Eval.Agree .fieldNotFound (e.resolve c.get? (e.delimiters.indexed x '.' (toString k)))
        (e.resolve c.get? (e.delimiters.indexed x '=' (toString k))) t) ∧
    let e := Engine.new Host.echo
    let c := (Context.empty 0).set "my-list" (.list [.int 7])
    c.get? "my-list" = some (.list [.int 7]) ∧
      ¬ Eval.Agree .fieldNotFound (e.resolve c.get? "[my-list.0]")
        (e.resolve c.get? "[my-list=0]") () := by
  constructor
  · intro h
    let e := Engine.new Host.late
    let c := (Context.empty 0).set "x" (.object (.host 0))
    have hbound : c.get? "x" = some (.object (.host 0)) := by cbv
    have hidentifier : IsIdentifier "x" := ⟨'x', [], rfl, by decide, List.forall_mem_nil _⟩
    have hnone : c.get? (toString 0) = none := by cbv
    have hmember : ((e.resolve c.get? "[x.0]").run false).1 = .ok (.int 1) := by cbv
    obtain ⟨err, hargument⟩ : ∃ err, ((e.resolve c.get? "[x=0]").run false).1 = .error err :=
      ⟨_, by cbv⟩
    have hagree : Eval.Agree .fieldNotFound (e.resolve c.get? "[x.0]")
        (e.resolve c.get? "[x=0]") false :=
      h e c "x" (.object (.host 0)) 0 false false Delimiters.square_clean hidentifier hbound
        (fun _ hf => Value.noConfusion hf) rfl (Nat.zero_le _)
        (fun f hf => by cases hnone.symm.trans hf) (fun f hf => by cases hf)
    cases hagree with
    | ok hx hy => cases hargument.symm.trans hy
    | error hx hy => cases hmember.symm.trans hx
  · intro e c
    obtain ⟨err, herr, hkind⟩ : ∃ err,
        ((e.resolve c.get? "[my-list.0]").run ()).1 = .error err ∧ err.kind = .parse :=
      ⟨_, by cbv, rfl⟩
    refine ⟨by cbv, fun hagree => ?_⟩
    cases hagree with
    | ok hx hy => cases herr.symm.trans hx
    | error hx hy hmissing =>
      cases herr.symm.trans hx
      cases hkind.symm.trans hmissing

end Interpolation
