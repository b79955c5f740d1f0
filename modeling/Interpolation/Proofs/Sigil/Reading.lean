import Interpolation.Proofs.Number.Digits
import Interpolation.Proofs.Sigil.Grammar
import Interpolation.Proofs.Token.Separation

/-!
# The reader of sigils and the grammar

What one token does to the reader is said once (`Moves`). What the grammar reads, the reader reads
to the end (`run_sigil`), and what the reader has read at any time is what its state says
(`ReadsReading`): the invariant relates the tokens read so far to the stack of sigils that wait for
an argument, the complete nodes of the innermost one, and the node at hand.

Tokens that the reader accepts one after the other do not run together (`isChain_of_run`).
-/

namespace Interpolation.Reading

/-! ## One token -/

/-- What is read when a sigil is closed inside others. -/
def closed : List (Opened × Name) → Sigil → Reading
  | [], s => .done s
  | (parent, name) :: outer, s => .inside outer parent (.complete (.withArgument name (.sigil s)))

/-- A sigil may begin here. -/
inductive Opens : Reading → List (Opened × Name) → Prop where
  | start : Opens .start []
  | assigned {outer : List (Opened × Name)} {sigil : Opened} {name : Name} :
    Opens (.inside outer sigil (.assigned name)) ((sigil, name) :: outer)

/-- A node begins, the first one of its sigil or a later one. -/
inductive Begins : (first : Bool) → Progress → Prop where
  | root : Begins true .root
  | member : Begins false .member

/-- A node has been read. It may still get an argument if it has none. -/
inductive Holds : Reading → List (Opened × Name) → Opened → Node → Prop where
  | bare {outer : List (Opened × Name)} {sigil : Opened} {name : Name} :
    Holds (.inside outer sigil (.named name)) outer sigil (.bare name)
  | complete {outer : List (Opened × Name)} {sigil : Opened} {node : Node} :
    Holds (.inside outer sigil (.complete node)) outer sigil node

/-- What a token does to what has been read, if it is not refused. -/
inductive Moves : Reading → Token → Reading → Prop where
  | opening {r : Reading} {outer : List (Opened × Name)} {t : Token} (hr : Opens r outer)
    (ht : t.kind = .opening) :
    Moves r t (.inside outer ⟨t.span, []⟩ .root)
  | name {first : Bool} {outer : List (Opened × Name)} {sigil : Opened} {progress : Progress}
    {t : Token} (hb : Begins first progress) (ht : t.NamesNode first) :
    Moves (.inside outer sigil progress) t (.inside outer sigil (.named t.name))
  | equals {outer : List (Opened × Name)} {sigil : Opened} {name : Name} {t : Token}
    (ht : t.kind = .equals) :
    Moves (.inside outer sigil (.named name)) t (.inside outer sigil (.assigned name))
  | dot {r : Reading} {outer : List (Opened × Name)} {sigil : Opened} {node : Node} {t : Token}
    (hr : Holds r outer sigil node) (ht : t.kind = .dot) :
    Moves r t (.inside outer ⟨sigil.opening, node :: sigil.nodes⟩ .member)
  | closing {r : Reading} {outer : List (Opened × Name)} {sigil : Opened} {node : Node} {t : Token}
    (hr : Holds r outer sigil node) (ht : t.kind = .closing) :
    Moves r t (closed outer (sigil.close node t.span))
  | argument {outer : List (Opened × Name)} {sigil : Opened} {name : Name} {t : Token}
    {a : Argument} (ha : ReadsArgument [t] a) :
    Moves (.inside outer sigil (.assigned name)) t
      (.inside outer sigil (.complete (.withArgument name a)))
  | minus {outer : List (Opened × Name)} {sigil : Opened} {name : Name} {t : Token}
    (ht : t.kind = .minus) :
    Moves (.inside outer sigil (.assigned name)) t (.inside outer sigil (.negated name t.span))
  | negative {outer : List (Opened × Name)} {sigil : Opened} {name : Name} {minus : Span}
    {t : Token} {n : Int64} (ht : t.kind = .number) (hn : n.toInt = -digitsValue t.text) :
    Moves (.inside outer sigil (.negated name minus)) t
      (.inside outer sigil (.complete (.withArgument name
        (.literal (.integer n) (minus.join t.span)))))

theorem Begins.unique {first first' : Bool} {progress : Progress} (h : Begins first progress)
    (h' : Begins first' progress) : first = first' := by
  cases h <;> cases h' <;> rfl

theorem Begins.progress_eq {first : Bool} {progress : Progress} (h : Begins first progress) :
    progress = .root ∨ progress = .member := by
  cases h with
  | root => exact .inl rfl
  | member => exact .inr rfl

theorem readLiteral_eq_ok {negative : Bool} {digits : List Char} {span : Span} {a : Argument} :
    readLiteral negative digits span = .ok a ↔
      ∃ n : Int64, n.toInt = (if negative then -digitsValue digits else digitsValue digits) ∧
        a = .literal (.integer n) span := by
  unfold readLiteral
  split
  · next n hn =>
    rw [Number.readDigits?_eq_some] at hn
    constructor
    · rintro ⟨⟩
      exact ⟨n, hn, rfl⟩
    · rintro ⟨n', hn', rfl⟩
      rw [Int64.toInt_inj.1 (hn'.trans hn.symm)]
  · next hn =>
    refine iff_of_false nofun ?_
    rintro ⟨n, hn', -⟩
    rw [Number.readDigits?_eq_some.2 hn'] at hn
    cases hn

theorem eq_of_map_readLiteral {negative : Bool} {digits : List Char} {span : Span}
    {f : Argument → Reading} {r : Reading} (h : (readLiteral negative digits span).map f = .ok r) :
    ∃ n : Int64, n.toInt = (if negative then -digitsValue digits else digitsValue digits) ∧
      r = f (.literal (.integer n) span) := by
  cases hl : readLiteral negative digits span with
  | error e =>
    rw [hl] at h
    cases h
  | ok a =>
    rw [hl] at h
    cases h
    obtain ⟨n, hn, rfl⟩ := readLiteral_eq_ok.1 hl
    exact ⟨n, hn, rfl⟩

theorem Holds.step {r : Reading} {outer : List (Opened × Name)} {sigil : Opened} {node : Node}
    {t : Token} (h : Holds r outer sigil node) (ht : t.kind ≠ .equals) :
    r.step t = afterNode outer sigil node t := by
  cases h with
  | bare => exact if_neg ht
  | complete => rfl

theorem moves_of_afterNode {r r' : Reading} {outer : List (Opened × Name)} {sigil : Opened}
    {node : Node} {t : Token} (hr : Holds r outer sigil node)
    (h : afterNode outer sigil node t = .ok r') : Moves r t r' := by
  unfold afterNode at h
  split at h
  · next ht =>
    cases h
    exact .dot hr ht
  · next ht =>
    have hclosing := Moves.closing hr ht
    split at h <;> cases h <;> exact hclosing
  · cases h

theorem moves_of_argument {outer : List (Opened × Name)} {sigil : Opened} {name : Name} {t : Token}
    {r : Reading} (hq : t.Quoted) (h : argument outer sigil name t = .ok r) :
    Moves (.inside outer sigil (.assigned name)) t r := by
  unfold argument at h
  dsimp only at h
  split at h
  · next ht =>
    cases h
    exact .opening .assigned ht
  · next ht =>
    cases h
    obtain ⟨quote, body, htext⟩ := hq ht
    have hunquote : unquote t.text = String.ofList body := by
      simp [unquote, htext]
    rw [hunquote]
    exact .argument (.string ht htext)
  · next ht =>
    obtain ⟨n, hn, rfl⟩ := eq_of_map_readLiteral h
    exact .argument (.number ht hn)
  · next ht =>
    cases h
    exact .minus ht
  · next ht =>
    split at h
    · next hk =>
      cases h
      exact .argument (.keyword ht (keyword?_eq_some.1 hk))
    · next hk =>
      cases h
      refine .argument (.variable ht fun l hl => ?_)
      rw [keyword?_eq_some.2 hl] at hk
      cases hk
  · cases h

/-- A token that is not refused makes one of the `Moves`. -/
theorem moves_of_step {r r' : Reading} {t : Token} (hq : t.Quoted) (h : r.step t = .ok r') :
    Moves r t r' := by
  cases r with
  | start =>
    rw [step] at h
    split at h
    · next ht =>
      cases h
      exact .opening .start ht
    · cases h
  | done => cases h
  | inside outer sigil progress =>
    cases progress with
    | root =>
      rw [step] at h
      split at h
      · next ht =>
        cases h
        exact .name .root (.inl ht)
      · cases h
    | member =>
      rw [step] at h
      split at h
      · next ht =>
        cases h
        exact .name .member (ht.imp_right fun ht => ⟨rfl, ht⟩)
      · cases h
    | named name =>
      rw [step] at h
      split at h
      · next ht =>
        cases h
        exact .equals ht
      · exact moves_of_afterNode .bare h
    | assigned name => exact moves_of_argument hq h
    | negated name minus =>
      rw [step] at h
      split at h
      · next ht =>
        obtain ⟨n, hn, rfl⟩ := eq_of_map_readLiteral h
        exact .negative ht hn
      · cases h
    | complete node => exact moves_of_afterNode .complete h

theorem not_readsSigil_singleton {t : Token} {s : Sigil} : ¬ ReadsSigil [t] s := by
  intro h
  generalize hts : [t] = ts at h
  cases h
  simp at hts

theorem step_argument {outer : List (Opened × Name)} {sigil : Opened} {name : Name} {t : Token}
    {a : Argument} (h : ReadsArgument [t] a) : (inside outer sigil (.assigned name)).step t =
      .ok (.inside outer sigil (.complete (.withArgument name a))) := by
  rw [step, argument]
  cases h with
  | sigil hs => exact absurd hs not_readsSigil_singleton
  | «variable» ht hv =>
    have hkeyword : keyword? t.name.text = none :=
      Option.eq_none_iff_forall_ne_some.2 fun l hl => hv l (keyword?_eq_some.1 hl)
    rw [ht]
    dsimp only
    rw [hkeyword]
  | keyword ht hl =>
    rw [ht]
    dsimp only
    rw [keyword?_eq_some.2 hl]
  | @string _ quote body ht hs =>
    have hunquote : unquote t.text = String.ofList body := by
      simp [unquote, hs]
    rw [ht]
    dsimp only
    rw [hunquote]
  | number ht hn =>
    rw [ht]
    dsimp only
    rw [readLiteral_eq_ok.2 ⟨_, hn, rfl⟩]
    rfl

/-- Each of the moves is what the token does. -/
theorem Moves.step {r r' : Reading} {t : Token} (h : Moves r t r') : r.step t = .ok r' := by
  cases h with
  | opening hr ht =>
    cases hr with
    | start => exact if_pos ht
    | assigned => rw [Reading.step, Reading.argument, ht]
  | name hb ht =>
    cases hb with
    | root => exact if_pos (ht.resolve_right nofun)
    | member => exact if_pos (ht.imp_right And.right)
  | equals ht => exact if_pos ht
  | dot hr ht => rw [hr.step (by simp [ht]), afterNode, ht]
  | @closing _ outer _ _ _ hr ht =>
    rw [hr.step (by simp [ht]), afterNode, ht]
    cases outer <;> rfl
  | argument ha => exact step_argument ha
  | minus ht => rw [Reading.step, Reading.argument, ht]
  | negative ht hn =>
    rw [Reading.step, if_pos ht, readLiteral_eq_ok.2 ⟨_, hn, rfl⟩]
    rfl

/-! ## What the grammar reads -/

theorem run_cons {r r' : Reading} {t : Token} {ts : List Token} (h : Moves r t r') :
    (t :: ts).foldlM step r = ts.foldlM step r' := by
  rw [List.foldlM_cons, h.step]
  rfl

theorem run_append {r r' : Reading} {ts us : List Token} (h : ts.foldlM step r = .ok r') :
    (ts ++ us).foldlM step r = us.foldlM step r' := by
  rw [List.foldlM_append, h]
  rfl

mutual

/-- **What the grammar reads as a sigil (`ReadsSigil`), the reader reads as that sigil.** -/
theorem run_sigil {ts : List Token} {s : Sigil} (h : ReadsSigil ts s) (r : Reading)
    (outer : List (Opened × Name)) (hr : Opens r outer) :
    ts.foldlM step r = .ok (closed outer s) := by
  match h with
  | @ReadsSigil.mk opening closing ts us root members ho hroot hmembers hc =>
    obtain ⟨r₁, hr₁, hholds⟩ := run_node hroot outer ⟨opening.span, []⟩ .root .root
    obtain ⟨r₂, earlier, last, hr₂, hholds, hchain⟩ := run_members hmembers r₁ outer _ _ hholds
    rw [run_cons (.opening hr ho), List.append_assoc]
    refine (run_append hr₁).trans ?_
    rw [run_append hr₂, run_cons (.closing hholds hc), Opened.close, hchain]
    rfl

/-- The reader holds the last member then, and the others are complete. -/
theorem run_members {ts : List Token} {nodes : List Node} (h : ReadsMembers ts nodes) (r : Reading)
    (outer : List (Opened × Name)) (sigil : Opened) (node : Node) (hr : Holds r outer sigil node) :
    ∃ r' earlier last, ts.foldlM step r = .ok r' ∧ Holds r' outer ⟨sigil.opening, earlier⟩ last ∧
      ∀ span, chain last [] earlier span = chain node nodes sigil.nodes span := by
  match h with
  | .nil => exact ⟨r, sigil.nodes, node, rfl, hr, fun _ => rfl⟩
  | @ReadsMembers.cons dot ts us node' nodes hd hnode hmembers =>
    obtain ⟨r₁, hr₁, hholds⟩ := run_node hnode outer
      ⟨sigil.opening, node :: sigil.nodes⟩ .member .member
    obtain ⟨r₂, earlier, last, hr₂, hholds, hchain⟩ := run_members hmembers r₁ outer _ _ hholds
    refine ⟨r₂, earlier, last, ?_, hholds, hchain⟩
    rw [run_cons (.dot hr hd)]
    exact (run_append hr₁).trans hr₂

theorem run_node {first : Bool} {ts : List Token} {node : Node} (h : ReadsNode first ts node)
    (outer : List (Opened × Name)) (sigil : Opened) (progress : Progress)
    (hb : Begins first progress) :
    ∃ r, ts.foldlM step (.inside outer sigil progress) = .ok r ∧ Holds r outer sigil node := by
  match h with
  | .bare ht =>
    refine ⟨_, ?_, .bare⟩
    rw [run_cons (.name hb ht)]
    rfl
  | .withArgument ht he ha =>
    refine ⟨_, ?_, .complete⟩
    rw [run_cons (.name hb ht), run_cons (.equals he)]
    exact run_argument ha outer sigil _

theorem run_argument {ts : List Token} {a : Argument} (h : ReadsArgument ts a)
    (outer : List (Opened × Name)) (sigil : Opened) (name : Name) :
    ts.foldlM step (.inside outer sigil (.assigned name)) =
      .ok (.inside outer sigil (.complete (.withArgument name a))) := by
  match h with
  | .sigil hs => exact run_sigil hs _ _ .assigned
  | .variable ht hv => exact run_cons (.argument (.variable ht hv))
  | .keyword ht hl => exact run_cons (.argument (.keyword ht hl))
  | .string ht hs => exact run_cons (.argument (.string ht hs))
  | .number ht hn => exact run_cons (.argument (.number ht hn))
  | .negative hm ht hn =>
    rw [run_cons (.minus hm)]
    exact run_cons (.negative ht hn)

end

/-! ## What the reader has read -/

/-- The tokens of a sigil up to where one of its nodes begins. -/
inductive ReadsOpened : List Token → Opened → Prop where
  | opening {t : Token} (ht : t.kind = .opening) : ReadsOpened [t] ⟨t.span, []⟩
  | node {ts us : List Token} {dot : Token} {sigil : Opened} {node : Node}
    (h : ReadsOpened ts sigil) (hnode : ReadsNode sigil.nodes.isEmpty us node)
    (hd : dot.kind = .dot) :
    ReadsOpened (ts ++ us ++ [dot]) ⟨sigil.opening, node :: sigil.nodes⟩

/-- The tokens of the sigils that wait for an argument, up to the argument operator of the innermost
one. -/
inductive ReadsOuter : List Token → List (Opened × Name) → Prop where
  | nil : ReadsOuter [] []
  | cons {ts us : List Token} {t equals : Token} {outer : List (Opened × Name)} {parent : Opened}
    (h : ReadsOuter ts outer) (hparent : ReadsOpened us parent)
    (ht : t.NamesNode parent.nodes.isEmpty) (he : equals.kind = .equals) :
    ReadsOuter (ts ++ us ++ [t, equals]) ((parent, t.name) :: outer)

/-- The tokens of the node at hand. -/
inductive ReadsProgress : (first : Bool) → List Token → Progress → Prop where
  | begins {first : Bool} {progress : Progress} (h : Begins first progress) :
    ReadsProgress first [] progress
  | named {first : Bool} {t : Token} (ht : t.NamesNode first) :
    ReadsProgress first [t] (.named t.name)
  | assigned {first : Bool} {t equals : Token} (ht : t.NamesNode first)
    (he : equals.kind = .equals) :
    ReadsProgress first [t, equals] (.assigned t.name)
  | negated {first : Bool} {t equals minus : Token} (ht : t.NamesNode first)
    (he : equals.kind = .equals) (hm : minus.kind = .minus) :
    ReadsProgress first [t, equals, minus] (.negated t.name minus.span)
  | complete {first : Bool} {ts : List Token} {node : Node} (h : ReadsNode first ts node) :
    ReadsProgress first ts (.complete node)

/-- **The invariant** of the reader: its state says what the tokens read so far are. -/
inductive ReadsReading : List Token → Reading → Prop where
  | start : ReadsReading [] .start
  | inside {ts us vs : List Token} {outer : List (Opened × Name)} {sigil : Opened}
    {progress : Progress} (houter : ReadsOuter ts outer) (hsigil : ReadsOpened us sigil)
    (hprogress : ReadsProgress sigil.nodes.isEmpty vs progress) :
    ReadsReading (ts ++ us ++ vs) (.inside outer sigil progress)
  | done {ts : List Token} {s : Sigil} (h : ReadsSigil ts s) : ReadsReading ts (.done s)

/-- A closing delimiter makes a sigil of what was read of it, with the members after. -/
theorem ReadsOpened.close {ts us vs : List Token} {sigil : Opened} {node : Node}
    {members : List Node} {closing : Token} (h : ReadsOpened ts sigil)
    (hnode : ReadsNode sigil.nodes.isEmpty us node) (hmembers : ReadsMembers vs members)
    (hc : closing.kind = .closing) :
    ReadsSigil (ts ++ us ++ vs ++ [closing])
      (chain node members sigil.nodes (sigil.opening.join closing.span)) := by
  induction h generalizing us vs node members with
  | opening ht => exact .mk ht hnode hmembers hc
  | node h hnode' hd ih =>
    have := ih hnode' (.cons hd hnode hmembers)
    simpa [chain] using this

theorem Holds.reads {ts : List Token} {r : Reading} {outer : List (Opened × Name)} {sigil : Opened}
    {node : Node} (h : Holds r outer sigil node) (hr : ReadsReading ts r) :
    ∃ us vs ws, ts = us ++ vs ++ ws ∧ ReadsOuter us outer ∧ ReadsOpened vs sigil ∧
      ReadsNode sigil.nodes.isEmpty ws node := by
  cases h with
  | bare =>
    cases hr with
    | inside houter hsigil hprogress =>
      cases hprogress with
      | begins hb => exact absurd hb.progress_eq (by simp)
      | named ht => exact ⟨_, _, _, rfl, houter, hsigil, .bare ht⟩
  | complete =>
    cases hr with
    | inside houter hsigil hprogress =>
      cases hprogress with
      | begins hb => exact absurd hb.progress_eq (by simp)
      | complete hnode => exact ⟨_, _, _, rfl, houter, hsigil, hnode⟩

theorem ReadsReading.closed {ts us : List Token} {outer : List (Opened × Name)} {s : Sigil}
    (houter : ReadsOuter ts outer) (hs : ReadsSigil us s) :
    ReadsReading (ts ++ us) (closed outer s) := by
  cases houter with
  | nil => exact .done hs
  | cons houter hparent ht he =>
    have := ReadsReading.inside houter hparent (.complete (.withArgument ht he (.sigil hs)))
    simpa [Reading.closed] using this

/-- More of the node at hand. -/
theorem ReadsReading.more {ts us vs ws : List Token} {outer : List (Opened × Name)} {sigil : Opened}
    {progress : Progress} (houter : ReadsOuter ts outer) (hsigil : ReadsOpened us sigil)
    (hprogress : ReadsProgress sigil.nodes.isEmpty (vs ++ ws) progress) :
    ReadsReading (ts ++ us ++ vs ++ ws) (.inside outer sigil progress) := by
  have := ReadsReading.inside houter hsigil hprogress
  rwa [← List.append_assoc] at this

/-- One token keeps `ReadsReading`. -/
theorem ReadsReading.step {ts : List Token} {r r' : Reading} {t : Token} (hr : ReadsReading ts r)
    (h : Moves r t r') :
    ReadsReading (ts ++ [t]) r' := by
  cases h with
  | opening ho ht =>
    cases ho with
    | start =>
      cases hr
      have := ReadsReading.inside .nil (.opening ht) (.begins .root)
      simpa using this
    | assigned =>
      cases hr with
      | inside houter hsigil hprogress =>
        cases hprogress with
        | begins hb => exact absurd hb.progress_eq (by simp)
        | assigned hname he =>
          have := ReadsReading.inside (houter.cons hsigil hname he) (.opening ht) (.begins .root)
          simpa using this
  | name hb ht =>
    cases hr with
    | inside houter hsigil hprogress =>
      cases hprogress with
      | begins hb' => exact .more houter hsigil (.named (hb'.unique hb ▸ ht))
      | named | assigned | negated | complete => cases hb
  | equals ht =>
    cases hr with
    | inside houter hsigil hprogress =>
      cases hprogress with
      | begins hb => exact absurd hb.progress_eq (by simp)
      | named hname => exact .more houter hsigil (.assigned hname ht)
  | dot hholds ht =>
    obtain ⟨us, vs, ws, rfl, houter, hsigil, hnode⟩ := hholds.reads hr
    have := ReadsReading.inside houter (hsigil.node hnode ht) (.begins .member)
    simpa using this
  | closing hholds ht =>
    obtain ⟨us, vs, ws, rfl, houter, hsigil, hnode⟩ := hholds.reads hr
    have := ReadsReading.closed houter (hsigil.close hnode .nil ht)
    simpa [Opened.close] using this
  | argument ha =>
    cases hr with
    | inside houter hsigil hprogress =>
      cases hprogress with
      | begins hb => exact absurd hb.progress_eq (by simp)
      | assigned hname he => exact .more houter hsigil (.complete (.withArgument hname he ha))
  | minus ht =>
    cases hr with
    | inside houter hsigil hprogress =>
      cases hprogress with
      | begins hb => exact absurd hb.progress_eq (by simp)
      | assigned hname he => exact .more houter hsigil (.negated hname he ht)
  | negative ht hn =>
    cases hr with
    | inside houter hsigil hprogress =>
      cases hprogress with
      | begins hb => exact absurd hb.progress_eq (by simp)
      | negated hname he hm =>
        exact .more houter hsigil (.complete (.withArgument hname he (.negative hm ht hn)))

theorem exists_step_of_run {r r' : Reading} {t : Token} {ts : List Token}
    (h : (t :: ts).foldlM step r = .ok r') :
    ∃ r₁, r.step t = .ok r₁ ∧ ts.foldlM step r₁ = .ok r' := by
  rw [List.foldlM_cons] at h
  cases hs : r.step t with
  | error e =>
    rw [hs] at h
    cases h
  | ok r₁ =>
    rw [hs] at h
    exact ⟨r₁, rfl, h⟩

/-- **Any run of the reader keeps `ReadsReading`.** -/
theorem ReadsReading.run {ts us : List Token} {r r' : Reading} (hr : ReadsReading ts r)
    (hq : ∀ t ∈ us, t.Quoted) (h : us.foldlM Reading.step r = .ok r') :
    ReadsReading (ts ++ us) r' := by
  induction us generalizing ts r with
  | nil =>
    cases h
    rwa [List.append_nil]
  | cons t us ih =>
    obtain ⟨r₁, hs, h⟩ := exists_step_of_run h
    obtain ⟨ht, hus⟩ := List.forall_mem_cons.1 hq
    have := ih (hr.step (moves_of_step ht hs)) hus h
    rwa [List.append_assoc] at this

/-! ## Tokens side by side -/

theorem kind_of_readsArgument {t : Token} {a : Argument} (h : ReadsArgument [t] a) :
    t.kind ∈ [.identifier, .string, .number] := by
  cases h with
  | sigil hs => exact absurd hs not_readsSigil_singleton
  | «variable» ht | keyword ht | string ht | number ht => simp [ht]

/-- After an identifier or a number the reader holds a node. -/
theorem Moves.holds {r r' : Reading} {t : Token} (h : Moves r t r')
    (ht : t.kind = .identifier ∨ t.kind = .number) :
    ∃ outer sigil node, Holds r' outer sigil node := by
  cases h with
  | name => exact ⟨_, _, _, .bare⟩
  | argument | negative => exact ⟨_, _, _, .complete⟩
  | opening _ hk | equals hk | dot _ hk | closing _ hk | minus hk => simp [hk] at ht

/-- After a closing delimiter the reader is done, or holds a node with its argument. -/
theorem Moves.closed {r r' : Reading} {t : Token} (h : Moves r t r') (ht : t.kind = .closing) :
    ∃ outer s, r' = closed outer s := by
  cases h with
  | closing => exact ⟨_, _, rfl⟩
  | argument ha =>
    have := kind_of_readsArgument ha
    simp [ht] at this
  | name _ hk => simp [Token.NamesNode, ht] at hk
  | opening _ hk | equals hk | dot _ hk | minus hk | negative hk => simp [hk] at ht

theorem Holds.kind {r r' : Reading} {outer : List (Opened × Name)} {sigil : Opened} {node : Node}
    {t : Token} (hr : Holds r outer sigil node) (h : Moves r t r') :
    t.kind ∈ [.dot, .equals, .closing] := by
  cases h with
  | opening ho => cases ho <;> cases hr
  | name hb => cases hb <;> cases hr
  | equals ht | dot _ ht | closing _ ht => simp [ht]
  | argument | minus | negative => cases hr

theorem kind_of_closed {r : Reading} {outer : List (Opened × Name)} {s : Sigil} {t : Token}
    (h : Moves (closed outer s) t r) : t.kind ∈ [.dot, .closing] := by
  cases outer with
  | nil =>
    cases h with
    | opening ho => cases ho
    | dot hr | closing hr => cases hr
  | cons =>
    cases h with
    | opening ho => cases ho
    | name hb => cases hb
    | dot _ ht | closing _ ht => simp [ht]

/-- **Tokens that are read one after the other do not run together** (`Token.MayPrecede`). -/
theorem isChain_of_run {ts : List Token} {r r' : Reading} (hq : ∀ t ∈ ts, t.Quoted)
    (h : ts.foldlM step r = .ok r') : List.IsChain Token.MayPrecede ts := by
  induction ts generalizing r with
  | nil => exact .nil
  | cons t ts ih =>
    obtain ⟨r₁, hs, h⟩ := exists_step_of_run h
    obtain ⟨ht, hts⟩ := List.forall_mem_cons.1 hq
    cases ts with
    | nil => exact .singleton t
    | cons t' ts =>
      obtain ⟨r₂, hs', -⟩ := exists_step_of_run h
      have hm := moves_of_step ht hs
      have hm' := moves_of_step (List.forall_mem_cons.1 hts).1 hs'
      refine .cons_cons ⟨fun hk => ?_, fun hk => ?_⟩ (ih hts h)
      · obtain ⟨outer, sigil, node, hholds⟩ := hm.holds hk
        exact hholds.kind hm'
      · obtain ⟨outer, s, rfl⟩ := hm.closed hk
        exact kind_of_closed hm'

end Interpolation.Reading
