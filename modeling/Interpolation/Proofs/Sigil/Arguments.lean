import Interpolation.Proofs.Sigil.Correspondence
import Interpolation.Proofs.Sigil.Grammar
import Interpolation.Proofs.Token.Cutting

/-!
# The arguments in a sigil, at any depth

Each is read from tokens of its own among those of the sigil, and where tokens of another argument
stand in place of these, a sigil is read that corresponds to the first one
(`replaceable_of_readsSigil`). Where tokens stand in a source is of no importance to what is read
(`exists_sigil_of_moved`).
-/

namespace Interpolation

open Text

/-! ## Arguments of a tree -/

mutual

/-- The arguments of the nodes, and those within them. -/
def Sigil.arguments : Sigil → List Argument
  | .mk root members _ => root.arguments ++ membersArguments members

def membersArguments : List Node → List Argument
  | [] => []
  | node :: nodes => node.arguments ++ membersArguments nodes

def Node.arguments : Node → List Argument
  | .mk _ argument _ => optionArguments argument

def optionArguments : Option Argument → List Argument
  | none => []
  | some argument => argument :: argument.arguments

def Argument.arguments : Argument → List Argument
  | .sigil s => s.arguments
  | .variable _ | .literal .. => []

end

/-- Names with the same text, anywhere, and the arguments that are given. -/
def Correspondence.texts (argument : Argument → Argument → Prop) : Correspondence where
  name n n' := n'.text = n.text
  place _ _ := True
  argument := argument
  text_eq := id
  span _ := trivial
  join _ _ := trivial

/-- Trees that are the same but that `a'` may stand in place of `a`. -/
def Correspondence.replacing (a a' : Argument) :
    Correspondence := .texts fun x x' => x = a ∧ x' = a'

/-! ## Tokens that are moved -/

/-- The same tokens in other places. -/
def Moved (ts ts' : List Token) : Prop := ts'.map Token.erase = ts.map Token.erase

theorem Moved.cons {t : Token} {ts us : List Token} (h : Moved (t :: ts) us) :
    ∃ t' ts', us = t' :: ts' ∧ t'.kind = t.kind ∧ t'.text = t.text ∧ Moved ts ts' := by
  obtain ⟨t', ts', rfl, ht, hts⟩ := List.map_eq_cons_iff.1 h
  obtain ⟨hkind, htext⟩ := Token.erase_eq_erase ht
  exact ⟨t', ts', rfl, hkind, htext, hts⟩

theorem Moved.append {ts us vs : List Token} (h : Moved (ts ++ us) vs) :
    ∃ ts' us', vs = ts' ++ us' ∧ Moved ts ts' ∧ Moved us us' := by
  rw [Moved, List.map_append] at h
  exact List.map_eq_append_iff.1 h

theorem Moved.nil {us : List Token} (h : Moved [] us) : us = [] := List.map_eq_nil_iff.1 h

theorem Moved.single {t : Token} {us : List Token} (h : Moved [t] us) :
    ∃ t', us = [t'] ∧ t'.kind = t.kind ∧ t'.text = t.text := by
  obtain ⟨t', ts', rfl, hkind, htext, hts⟩ := h.cons
  cases hts.nil
  exact ⟨t', rfl, hkind, htext⟩

theorem Token.NamesNode.congr {first : Bool} {t t' : Token} (ht : t.NamesNode first)
    (hkind : t'.kind = t.kind) :
    t'.NamesNode first := by
  rwa [NamesNode, hkind]

theorem Token.name_text {t t' : Token} (htext : t'.text = t.text) : t'.name.text = t.name.text :=
  congrArg String.ofList htext

section
variable {r : Argument → Argument → Prop}

mutual

/-- **Tokens that are moved are read as a corresponding tree.** -/
theorem exists_sigil_of_moved {ts us : List Token} {s : Sigil} (h : ReadsSigil ts s)
    (hm : Moved ts us) :
    ∃ s', ReadsSigil us s' ∧ (Correspondence.texts r).Sigils s s' := by
  match h with
  | .mk ho hroot hmembers hc =>
    obtain ⟨opening', _, rfl, hopening, -, hm⟩ := hm.cons
    obtain ⟨_, _, rfl, hm, hclosing⟩ := hm.append
    obtain ⟨ts', us', rfl, hts, hus⟩ := hm.append
    obtain ⟨closing', rfl, hclosing, -⟩ := hclosing.single
    obtain ⟨root', hroot', hk⟩ := exists_node_of_moved hroot hts
    obtain ⟨members', hmembers', hks⟩ := exists_members_of_moved hmembers hus
    exact ⟨_, .mk (hopening.trans ho) hroot' hmembers' (hclosing.trans hc), .mk hk hks⟩

theorem exists_members_of_moved {ts us : List Token} {nodes : List Node} (h : ReadsMembers ts nodes)
    (hm : Moved ts us) :
    ∃ nodes', ReadsMembers us nodes' ∧ (Correspondence.texts r).Members nodes nodes' := by
  match h with
  | .nil =>
    cases hm.nil
    exact ⟨[], .nil, .nil⟩
  | .cons hd hnode hmembers =>
    obtain ⟨dot', _, rfl, hdot, -, hm⟩ := hm.cons
    obtain ⟨ts', us', rfl, hts, hus⟩ := hm.append
    obtain ⟨node', hnode', hk⟩ := exists_node_of_moved hnode hts
    obtain ⟨nodes', hmembers', hks⟩ := exists_members_of_moved hmembers hus
    exact ⟨_, .cons (hdot.trans hd) hnode' hmembers', .cons hk hks⟩

theorem exists_node_of_moved {first : Bool} {ts us : List Token} {node : Node}
    (h : ReadsNode first ts node) (hm : Moved ts us) :
    ∃ node', ReadsNode first us node' ∧ (Correspondence.texts r).Nodes node node' := by
  match h with
  | .bare ht =>
    obtain ⟨t', rfl, hkind, htext⟩ := hm.single
    exact ⟨_, .bare (ht.congr hkind), .mk (Token.name_text htext) .none trivial⟩
  | .withArgument ht he ha =>
    obtain ⟨t', _, rfl, hkind, htext, hm⟩ := hm.cons
    obtain ⟨equals', ts', rfl, hequals, -, hm⟩ := hm.cons
    obtain ⟨a', ha', hk⟩ := exists_argument_of_moved ha hm
    exact ⟨_, .withArgument (ht.congr hkind) (hequals.trans he) ha',
      .mk (Token.name_text htext) (.some hk) trivial⟩

theorem exists_argument_of_moved {ts us : List Token} {a : Argument} (h : ReadsArgument ts a)
    (hm : Moved ts us) :
    ∃ a', ReadsArgument us a' ∧ (Correspondence.texts r).Arguments a a' := by
  match h with
  | .sigil hs =>
    obtain ⟨s', hs', hk⟩ := exists_sigil_of_moved hs hm
    exact ⟨_, .sigil hs', .sigil hk⟩
  | .variable ht hv =>
    obtain ⟨t', rfl, hkind, htext⟩ := hm.single
    rw [← Token.name_text htext] at hv
    exact ⟨_, .variable (hkind.trans ht) hv, .variable (Token.name_text htext)⟩
  | .keyword ht hl =>
    obtain ⟨t', rfl, hkind, htext⟩ := hm.single
    rw [← Token.name_text htext] at hl
    exact ⟨_, .keyword (hkind.trans ht) hl, .literal⟩
  | .string ht hs =>
    obtain ⟨t', rfl, hkind, htext⟩ := hm.single
    exact ⟨_, .string (hkind.trans ht) (htext.trans hs), .literal⟩
  | .number ht hn =>
    obtain ⟨t', rfl, hkind, htext⟩ := hm.single
    exact ⟨_, .number (hkind.trans ht) (htext ▸ hn), .literal⟩
  | .negative hminus ht hn =>
    obtain ⟨minus', _, rfl, hminus', -, hm⟩ := hm.cons
    obtain ⟨t', rfl, hkind, htext⟩ := hm.single
    exact ⟨_, .negative (hminus'.trans hminus) (hkind.trans ht) (htext ▸ hn), .literal⟩

end

end

/-! ## Arguments that are replaced -/

/-- The argument `a` is read from some of the tokens, and another one may be read in its place. The
rest stays, wherever its tokens are moved. -/
def Replaceable {α : Type} (a : Argument) (Reads : List Token → α → Prop)
    (Related : Correspondence → α → α → Prop) (ts : List Token) (x : α) : Prop :=
  ∃ us as vs, ts = us ++ as ++ vs ∧ ReadsArgument as a ∧ ∀ us' as' vs' a', Moved us us' →
  ReadsArgument as' a' →
    Moved vs vs' → ∃ x', Reads (us' ++ as' ++ vs') x' ∧ Related (.replacing a a') x x'

/-- The argument is replaced within a part, and the tokens on both sides of the part are moved. -/
theorem Replaceable.within {α β : Type} {a : Argument} {Reads : List Token → α → Prop}
    {Reads' : List Token → β → Prop} {Related : Correspondence → α → α → Prop}
    {Related' : Correspondence → β → β → Prop} {ts us : List Token} {x : α} {y : β}
    (h : Replaceable a Reads Related ts x) (left right : List Token)
    (hus : us = left ++ ts ++ right)
    (hy : ∀ left' ts' right' x' a', Moved left left' → Moved right right' → Reads ts' x' →
      Related (.replacing a a') x x' → ∃ us' y', us' = left' ++ ts' ++ right' ∧ Reads' us' y' ∧
      Related' (.replacing a a') y y') :
    Replaceable a Reads' Related' us y := by
  obtain ⟨before, as, after, rfl, has, hfill⟩ := h
  refine ⟨left ++ before, as, after ++ right, by simp [hus], has,
    fun us' as' vs' a' hbefore has' hafter => ?_⟩
  obtain ⟨left', before', rfl, hleft, hbefore⟩ := hbefore.append
  obtain ⟨after', right', rfl, hafter, hright⟩ := hafter.append
  obtain ⟨x', hx', hrelated⟩ := hfill before' as' after' a' hbefore has' hafter
  obtain ⟨us', y', rfl, hy', hrelated'⟩ := hy left' _ right' x' a' hleft hright hx' hrelated
  exact ⟨y', by simpa using hy', hrelated'⟩

section
variable {a : Argument}

mutual

/-- **Every argument of a tree is `Replaceable`.** -/
theorem replaceable_of_readsSigil {ts : List Token} {s : Sigil} (h : ReadsSigil ts s)
    (ha : a ∈ s.arguments) :
    Replaceable a ReadsSigil Correspondence.Sigils ts s := by
  match h with
  | @ReadsSigil.mk opening closing ts us root members ho hroot hmembers hc =>
    rw [Sigil.arguments, List.mem_append] at ha
    rcases ha with ha | ha
    · refine (replaceable_of_readsNode hroot ha).within [opening] (us ++ [closing]) (by simp) ?_
      intro left' ts' right' root' a' hleft hright hroot' hk
      obtain ⟨opening', rfl, hopening, -⟩ := hleft.single
      obtain ⟨us', _, rfl, hus, hclosing⟩ := hright.append
      obtain ⟨closing', rfl, hclosing, -⟩ := hclosing.single
      obtain ⟨members', hmembers', hks⟩ := exists_members_of_moved hmembers hus
      exact ⟨_, _, by simp, .mk (hopening.trans ho) hroot' hmembers'
        (hclosing.trans hc), .mk hk hks⟩
    · refine (replaceable_of_readsMembers hmembers ha).within (opening :: ts) [closing] (by simp) ?_
      intro left' us' right' members' a' hleft hright hmembers' hks
      obtain ⟨opening', ts', rfl, hopening, -, hts⟩ := hleft.cons
      obtain ⟨closing', rfl, hclosing, -⟩ := hright.single
      obtain ⟨root', hroot', hk⟩ := exists_node_of_moved hroot hts
      exact ⟨_, _, by simp, .mk (hopening.trans ho) hroot' hmembers'
        (hclosing.trans hc), .mk hk hks⟩

theorem replaceable_of_readsMembers {ts : List Token} {nodes : List Node}
    (h : ReadsMembers ts nodes) (ha : a ∈ membersArguments nodes) :
    Replaceable a ReadsMembers Correspondence.Members ts nodes := by
  match h with
  | .nil => cases ha
  | @ReadsMembers.cons dot ts us node nodes hd hnode hmembers =>
    rw [membersArguments, List.mem_append] at ha
    rcases ha with ha | ha
    · refine (replaceable_of_readsNode hnode ha).within [dot] us (by simp) ?_
      intro left' ts' us' node' a' hleft hus hnode' hk
      obtain ⟨dot', rfl, hdot, -⟩ := hleft.single
      obtain ⟨nodes', hmembers', hks⟩ := exists_members_of_moved hmembers hus
      exact ⟨_, _, by simp, .cons (hdot.trans hd) hnode' hmembers', .cons hk hks⟩
    · refine (replaceable_of_readsMembers hmembers ha).within (dot :: ts) [] (by simp) ?_
      intro left' us' right' nodes' a' hleft hright hmembers' hks
      obtain ⟨dot', ts', rfl, hdot, -, hts⟩ := hleft.cons
      cases hright.nil
      obtain ⟨node', hnode', hk⟩ := exists_node_of_moved hnode hts
      exact ⟨_, _, by simp, .cons (hdot.trans hd) hnode' hmembers', .cons hk hks⟩

theorem replaceable_of_readsNode {first : Bool} {ts : List Token} {node : Node}
    (h : ReadsNode first ts node) (ha : a ∈ node.arguments) :
    Replaceable a (ReadsNode first) Correspondence.Nodes ts node := by
  match h with
  | .bare ht => cases ha
  | @ReadsNode.withArgument _ t equals ts b ht he hb =>
    refine (replaceable_of_readsArgument hb (List.mem_cons.1 ha)).within [t, equals] [] (by simp) ?_
    intro left' ts' right' b' a' hleft hright hb' hk
    obtain ⟨t', _, rfl, hkind, htext, hleft⟩ := hleft.cons
    obtain ⟨equals', rfl, hequals, -⟩ := hleft.single
    cases hright.nil
    exact ⟨_, _, by simp, .withArgument (ht.congr hkind) (hequals.trans he) hb',
      .mk (Token.name_text htext) (.some hk) trivial⟩

theorem replaceable_of_readsArgument {ts : List Token} {b : Argument} (h : ReadsArgument ts b)
    (ha : a = b ∨ a ∈ b.arguments) : Replaceable a ReadsArgument Correspondence.Arguments ts b := by
  rcases ha with rfl | ha
  · refine ⟨[], ts, [], by simp, h, fun us' as' vs' a' hus has' hvs => ?_⟩
    cases hus.nil
    cases hvs.nil
    exact ⟨a', by simpa using has', .given ⟨rfl, rfl⟩⟩
  · match h with
    | .sigil hs =>
      refine (replaceable_of_readsSigil hs ha).within [] [] (by simp) ?_
      intro left' ts' right' s' a' hleft hright hs' hk
      cases hleft.nil
      cases hright.nil
      exact ⟨_, _, by simp, .sigil hs', .sigil hk⟩
    | .variable .. | .keyword .. | .string .. | .number .. | .negative .. => cases ha

end

end

end Interpolation
