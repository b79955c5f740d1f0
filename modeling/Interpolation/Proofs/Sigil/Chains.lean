import Interpolation.Proofs.Context.Keys
import Interpolation.Proofs.Sigil.Replacement
import Mathlib

/-!
# Chains are compositional

A chain is cut in front of any of its nodes; the nodes before the cut make a source, and so do those
after it behind a name that they do not mention (`exists_cut`). The whole chain resolves to what the
second source does where the name is bound to what the first one resolves to (`resolve_chain`).

A root is resolved in other ways than the nodes after it. The two agree on a value that is neither a
function, which a root would call, nor an object that gives access to records, which would take an
argument of the next node for a key.
-/

namespace Interpolation

open Text
open Eval (Matches)

variable {σ : Type}

/-! ## The names that a chain mentions -/

mutual

/-- The names that a tree mentions, of its nodes and in their arguments. -/
def Sigil.mentions : Sigil → List String
  | .mk root members _ => root.mentions ++ membersMentions members

def membersMentions : List Node → List String
  | [] => []
  | node :: nodes => node.mentions ++ membersMentions nodes

def Node.mentions : Node → List String
  | .mk name argument _ => name.text :: optionMentions argument

def optionMentions : Option Argument → List String
  | none => []
  | some argument => argument.mentions

def Argument.mentions : Argument → List String
  | .sigil s => s.mentions
  | .variable name => [name.text]
  | .literal .. => []

end

/-- Trees that are the same but for where their parts stand. -/
abbrev Correspondence.anywhere : Correspondence := .texts fun _ _ => False

/-- Trees that are the same but for where their parts stand, with names of which `P` holds. -/
def Correspondence.named (P : String → Prop) : Correspondence where
  name n n' := n'.text = n.text ∧ P n.text
  place _ _ := True
  argument _ _ := False
  text_eq h := h.1
  span _ := trivial
  join _ _ := trivial

section
variable {P : String → Prop}

mutual

theorem sigils_named {s s' : Sigil} (h : Correspondence.anywhere.Sigils s s')
    (hP : ∀ name ∈ s.mentions, P name) :
    (Correspondence.named P).Sigils s s' := by
  match h with
  | .mk hroot hmembers =>
    rw [Sigil.mentions, List.forall_mem_append] at hP
    exact .mk (nodes_named hroot hP.1) (members_named hmembers hP.2)

theorem members_named {nodes nodes' : List Node} (h : Correspondence.anywhere.Members nodes nodes')
    (hP : ∀ name ∈ membersMentions nodes, P name) :
    (Correspondence.named P).Members nodes nodes' := by
  match h with
  | .nil => exact .nil
  | .cons hnode hnodes =>
    rw [membersMentions, List.forall_mem_append] at hP
    exact .cons (nodes_named hnode hP.1) (members_named hnodes hP.2)

theorem nodes_named {node node' : Node} (h : Correspondence.anywhere.Nodes node node')
    (hP : ∀ name ∈ node.mentions, P name) : (Correspondence.named P).Nodes node node' := by
  match h with
  | .mk hname .none hspan =>
    rw [Node.mentions, List.forall_mem_cons] at hP
    exact .mk ⟨hname, hP.1⟩ .none hspan
  | .mk hname (.some ha) hspan =>
    rw [Node.mentions, List.forall_mem_cons] at hP
    exact .mk ⟨hname, hP.1⟩ (.some (arguments_named ha hP.2)) hspan

theorem arguments_named {a a' : Argument} (h : Correspondence.anywhere.Arguments a a')
    (hP : ∀ name ∈ a.mentions, P name) : (Correspondence.named P).Arguments a a' := by
  match h with
  | .given h => exact h.elim
  | .sigil h => exact .sigil (sigils_named h hP)
  | .variable h => exact .variable ⟨h, hP _ (List.mem_singleton_self _)⟩
  | .literal => exact .literal

end

end

/-! ## Chains in two parts -/

namespace Scene

variable {scene : Scene σ}

theorem evalMembers_append (current : Value) (before after : List Node) :
    scene.evalMembers current (before ++ after) =
      scene.evalMembers current before >>= fun v => scene.evalMembers v after := by
  induction before generalizing current with
  | nil =>
    rw [evalMembers, pure_bind]
    rfl
  | cons node before ih =>
    obtain ⟨name, argument, span⟩ := node
    rw [List.cons_append, evalMembers, evalMembers]
    simp only [ih, bind_assoc]

/-- A chain goes on from what a first part of it stands for, unless that gives access to records. -/
theorem run_evalSigil_append {root : Node} {before after : List Node} {span : Span} {v : Value}
    {s s' : σ} (h : (scene.evalSigil (.mk root before span)).run s = (.ok v, s'))
    (hv : v.manager? scene.host = pure none) (span' : Span) :
    (scene.evalSigil (.mk root (before ++ after) span')).run s =
      (scene.evalMembers v after).run s' := by
  obtain ⟨name, argument, place⟩ := root
  rw [evalSigil] at h ⊢
  obtain ⟨arg, s₁, harg, h⟩ := exists_run_of_bind_eq_ok h
  obtain ⟨value, s₂, hvalue, h⟩ := exists_run_of_bind_eq_ok h
  obtain ⟨found, s₃, hfound, h⟩ := exists_run_of_bind_eq_ok h
  rw [run_bind_of_ok harg, run_bind_of_ok hvalue, run_bind_of_ok hfound]
  -- the members go on in the same way from whatever the root stands for
  have hgoes {x : Eval σ Value} {nodes : List Node}
      (h : (x >>= fun value => scene.evalMembers value nodes).run s₃ = (.ok v, s')) :
      (x >>= fun value => scene.evalMembers value (nodes ++ after)).run s₃ =
        (scene.evalMembers v after).run s' := by
    obtain ⟨current, s₄, hx, h⟩ := exists_run_of_bind_eq_ok h
    rw [run_bind_of_ok hx, evalMembers_append, run_bind_of_ok h]
  cases found with
  | none => exact hgoes h
  | some manager =>
    cases arg with
    | some key => exact hgoes h
    | none =>
      match before with
      | [] =>
        -- the first part stands for the model itself
        cases h
        rw [hv] at hfound
        cases hfound
      | .mk field (some argument) span :: before =>
        obtain ⟨key, s₄, hkey, h⟩ := exists_run_of_bind_eq_ok h
        obtain ⟨record, s₅, hrecord, h⟩ := exists_run_of_bind_eq_ok h
        dsimp only [List.cons_append]
        rw [run_bind_of_ok hkey, run_bind_of_ok hrecord, evalMembers_append, run_bind_of_ok h]
      | .mk field none span :: before =>
        dsimp only [List.cons_append] at h ⊢
        rw [← List.cons_append, evalMembers_append, run_bind_of_ok h]

/-- A name that is bound to a value stands for the value, unless that is called or gives access to
records. -/
theorem run_evalSigil_of_bound {name : Name} {v : Value} {t t' : σ}
    (hfind : scene.find? name.text = some v) (hcall : ∀ f, v ≠ .func f)
    (hv : (v.manager? scene.host).run t = (none, t')) (place : Span) (members : List Node)
    (span : Span) :
    (scene.evalSigil (.mk (.mk name none place) members span)).run t =
      (scene.evalMembers v members).run t' := by
  have hroot : scene.root name.text v none place = pure v := by
    unfold root
    split
    · exact absurd rfl (hcall _)
    · contradiction
    · rfl
  rw [evalSigil, evalOption, pure_bind, lookup, hfind]
  dsimp only
  rw [pure_bind, run_bind_of_ok (run_liftM_of_run hv)]
  dsimp only
  rw [hroot, pure_bind]

end Scene

/-- Names of which `P` holds stand for the same. -/
theorem sound_named {host : Host σ} {find? find?' : String → Option Value} {source source' : String}
    {P : String → Prop} (hfind : ∀ name, P name → find?' name = find? name) :
    (Correspondence.named P).Sound Error.Alike (⟨host, find?, source⟩ : Scene σ)
      ⟨host, find?', source'⟩ where
  host := rfl
  find := by
    rintro n n' ⟨htext, hname⟩
    exact (congrArg find?' htext).trans (hfind _ hname)
  fault _ _ _ _ := Error.alike_locate ..
  call _ _ _ _ _ := Error.alike_locate ..
  argument := False.elim

/-- Sources of the two parts of a chain: one of the nodes before the cut, and one of those after it
behind a name. -/
structure Delimiters.Cut (d : Delimiters) (root : Node) (before after : List Node)
    (name front back : String) :
    Prop where
  front : ∃ root' before' span, d.parse front = .ok (.mk root' before' span) ∧
    Correspondence.anywhere.Nodes root root' ∧ Correspondence.anywhere.Members before before'
  back : ∃ n place after' span, d.parse back =
    .ok (.mk (.mk n none place) after' span) ∧ n.text = name ∧
    Correspondence.anywhere.Members after after'

section
variable {root : Node} {before after : List Node} {span : Span} {name front back source : String}

/-- A chain resolves to what the nodes after a `Cut` do from the value of those before it. -/
theorem resolve_of_cut {e : Engine σ} (hpure : e.host.Pure) {c : Context}
    (hviews : e.ViewsAlike c.get? front) (hc : c.Upper)
    (hs : e.delimiters.parse source = .ok (.mk root (before ++ after) span))
    (hcut : e.delimiters.Cut root before after name front back)
    (hname : ∀ other ∈ membersMentions after, upperCase name ≠ upperCase other) {v : Value} {t : σ}
    (hfront : ((e.resolve c.get? front).run t).1 = .ok v) (hcall : ∀ f, v ≠ .func f)
    (hmanager : v.manager? e.host = pure none) :
    Matches Error.Alike (e.resolve c.get? source)
      (e.resolve (c.pushLayer (Table.insert ∅ (upperCase name) v)).1.get? back) := by
  obtain ⟨root', before', _, hparse, hroot, hbefore⟩ := hcut.front
  obtain ⟨n, place, after', _, hparse', rfl, hafter⟩ := hcut.back
  have hvalue : Scene.evalSigil ⟨e.host, c.get?, source⟩ (.mk root before span) = pure v := by
    have hmatches : Matches Error.Alike (Scene.evalSigil ⟨e.host, c.get?, source⟩
        (.mk root before span))
        (e.resolve c.get? front) := by
      rw [resolve_of_parse hparse]
      exact Scene.evalSigil_matches sound_names (.mk hroot hbefore)
    rw [(Engine.resolve_pure hpure hviews).eq_of_run hfront] at hmatches
    exact hmatches.eq_pure
  have hwhole : Scene.evalSigil ⟨e.host, c.get?, source⟩ (.mk root (before ++ after) span) =
      Scene.evalMembers ⟨e.host, c.get?, source⟩ v after :=
    funext fun s => Scene.run_evalSigil_append (congrFun hvalue s) hmanager span
  have hback (find? : String → Option Value) (hfind : find? n.text = some v) :
      e.resolve find? back = Scene.evalMembers ⟨e.host, find?, back⟩ v after' := by
    rw [resolve_of_parse hparse']
    refine funext fun s => Scene.run_evalSigil_of_bound hfind hcall ?_ place after' _
    rw [hmanager]
    rfl
  rw [resolve_of_parse hs, hwhole, hback _ (hc.get?_pushLayer_insert n.text v)]
  refine Scene.evalMembers_matches (sound_named fun other hother => ?_) v
    (members_named hafter hname)
  refine c.get?_pushLayer fun key hkey => ?_
  have hne : key ≠ upperCase n.text := by
    rintro rfl
    rw [upperCase_upperCase] at hkey
    exact hother hkey
  rw [Table.get?_insert, if_neg hne, Table.get?_empty]

/-! ## Cutting a source -/

variable {d : Delimiters}

theorem exists_split_of_readsMembers {ts : List Token} (h : ReadsMembers ts (before ++ after)) :
    ∃ us vs, ts = us ++ vs ∧ ReadsMembers us before ∧ ReadsMembers vs after := by
  induction before generalizing ts with
  | nil => exact ⟨[], ts, rfl, .nil, h⟩
  | cons node before ih =>
    cases h with
    | @cons dot us ts node nodes hd hnode hmembers =>
      obtain ⟨vs, ws, rfl, hvs, hws⟩ := ih hmembers
      exact ⟨_, ws, by simp, .cons hd hnode hvs, hws⟩

/-- **A source is cut in front of any node.** With a closing delimiter behind it the first part is a
source of the nodes before the cut, and with an opening delimiter and a name in front of it the
second part is one of the nodes after it. -/
theorem exists_cut (hd : d.Clean) (h : Renders d source (.mk root (before ++ after) span))
    (hname : IsIdentifier name) :
    ∃ head tail, source.toList = head ++ tail ∧
      d.Cut root before after name (String.ofList (head ++ d.closing))
        (String.ofList (d.opening ++ name.toList ++ tail)) := by
  obtain ⟨ts, hlayout, hs⟩ := h
  generalize source.toList = cs at hlayout
  cases hs with
  | @mk opening closing ts us root members ho hroot hmembers hc =>
    obtain ⟨us, vs, rfl, hus, hvs⟩ := exists_split_of_readsMembers hmembers
    have htokens : opening :: (ts ++ (us ++ vs) ++ [closing]) =
        (opening :: (ts ++ us)) ++ (vs ++ [closing]) := by simp
    rw [htokens] at hlayout
    obtain ⟨head, tail, rfl, hhead, htail, -⟩ := hlayout.split
    refine ⟨head, tail, rfl, ?_, ?_⟩
    · obtain ⟨root', hroot', hk⟩ := exists_node_of_moved (r := fun _ _ => False) hroot rfl
      obtain ⟨before', hbefore, hks⟩ := exists_members_of_moved (r := fun _ _ => False) hus rfl
      have hsigil := @ReadsSigil.mk opening ⟨.closing, 0 + byteLength head, d.closing⟩ _ _ _ _ ho
        hroot' hbefore rfl
      refine ⟨root', before', _, parse_of_renders hd ⟨_, ?_, hsigil⟩, hk, hks⟩
      rw [String.toList_ofList]
      exact hhead.append (.single .closing)
    · obtain ⟨moved, hmoved, htail⟩ := htail.move (0 + byteLength (d.opening ++ name.toList))
      obtain ⟨vs', _, rfl, hvs', hclosing⟩ := Moved.append hmoved
      obtain ⟨closing', rfl, hclosing, -⟩ := hclosing.single
      obtain ⟨after', hafter, hks⟩ := exists_members_of_moved (r := fun _ _ => False) hvs hvs'
      let bound : Token := ⟨.identifier, 0 + byteLength d.opening, name.toList⟩
      have hsigil := @ReadsSigil.mk ⟨.opening, 0, d.opening⟩ closing' [bound] _ _ _ rfl
        (.bare (.inl rfl)) hafter
        (hclosing.trans hc)
      refine ⟨bound.name, bound.name.span, after', _, parse_of_renders hd ⟨_, ?_, hsigil⟩,
        String.ofList_toList, hks⟩
      rw [String.toList_ofList]
      exact ((Layout.single .opening).append (.single hname.spelling)).append htail

end

/-- **Chains are compositional.** In the context of any run and over a pure host, take a source that
is in the grammar and a cut of its chain (`Delimiters.Cut`), and a name that differs in uppercase
from all names after the cut. If what is before the cut resolves to a value that is neither a
function nor an object with records, then the source resolves to the same value as what is after the
cut does behind the name, in a further layer that binds the name to that value, or to errors that
differ in their places at most. What is before the cut must not tell views of the environment apart
(`Engine.ViewsAlike`), since it is resolved once in the one source and not at all in the other.
Between clean delimiters a source can be cut in front of any node. -/
theorem resolve_chain (e : Engine σ) (hpure : e.host.Pure) {c₀ : Context} {j : Journal}
    (hc : Starts c₀ j) (host : σ) (ops : List (Operation σ)) {source : String} {root : Node}
    {before after : List Node} {span : Span}
    (hs : e.delimiters.parse source = .ok (.mk root (before ++ after) span)) {name : String}
    (hname : ∀ other ∈ membersMentions after, upperCase name ≠ upperCase other) :
    let c := (Moment.run ⟨⟨c₀, []⟩, host⟩ ops).context
    (∀ front back v t, e.delimiters.Cut root before after name front back →
      e.ViewsAlike c.get? front → ((e.resolve c.get? front).run t).1 = .ok v →
      (∀ f, v ≠ .func f) → v.manager? e.host = pure none →
      Matches Error.Alike (e.resolve c.get? source)
        (e.resolve (c.pushLayer (Table.insert ∅ (upperCase name) v)).1.get? back)) ∧
    (e.delimiters.Clean → IsIdentifier name → ∃ head tail, source.toList = head ++ tail ∧
      e.delimiters.Cut root before after name (String.ofList (head ++ e.delimiters.closing))
        (String.ofList (e.delimiters.opening ++ name.toList ++ tail))) :=
  ⟨fun _ _ _ _ hcut hviews hfront hcall hmanager =>
      resolve_of_cut hpure hviews (upper_run hc.upper ops) hs hcut hname hfront hcall hmanager,
    fun hd hname => exists_cut hd (renders_of_parse hs) hname⟩

/-- A chain of three nodes that is cut in front of the last one. -/
theorem resolve_chain_last :
    let e := Engine.new Host.echo
    let inner := Value.map (.ofPairs [("c", .int 1)])
    let c := (Moment.run ⟨⟨.empty 0, []⟩, ()⟩ [.set "a" (.map (.ofPairs [("b", inner)]))]).context
    Matches Error.Alike (e.resolve c.get? "[A.b.c]")
      (e.resolve (c.pushLayer (Table.insert ∅ (upperCase "t") inner)).1.get? "[t.c]") ∧
      ∃ head tail, "[A.b.c]".toList = head ++ tail ∧
        e.delimiters.Cut (.bare ⟨"A", ⟨1, 2⟩⟩) [.bare ⟨"b", ⟨3, 4⟩⟩] [.bare ⟨"c", ⟨5, 6⟩⟩] "t"
          (String.ofList (head ++ [']'])) (String.ofList (['[', 't'] ++ tail)) := by
  intro e inner c
  have hparse : e.delimiters.parse "[A.b.c]" =
      .ok (.mk (.bare ⟨"A", ⟨1, 2⟩⟩)
        ([.bare ⟨"b", ⟨3, 4⟩⟩] ++ [.bare ⟨"c", ⟨5, 6⟩⟩]) ⟨0, 7⟩) := by cbv
  have hname : ∀ other ∈ membersMentions [.bare ⟨"c", ⟨5, 6⟩⟩],
      upperCase "t" ≠ upperCase other := by decide
  obtain ⟨hcut, hexists⟩ := resolve_chain e Host.echo_pure (.empty 0) ()
    [.set "a" (.map (.ofPairs [("b", inner)]))] hparse hname
  have hfront : e.delimiters.parse "[A.b]" =
      .ok (.mk (.bare ⟨"A", ⟨1, 2⟩⟩) [.bare ⟨"b", ⟨3, 4⟩⟩] ⟨0, 5⟩) := by cbv
  have hback : e.delimiters.parse "[t.c]" =
      .ok (.mk (.bare ⟨"t", ⟨1, 2⟩⟩) [.bare ⟨"c", ⟨3, 4⟩⟩] ⟨0, 5⟩) := by cbv
  have hvalue : ((e.resolve c.get? "[A.b]").run ()).1 = .ok inner := by cbv
  have hidentifier : IsIdentifier "t" := ⟨'t', [], rfl, by decide, List.forall_mem_nil _⟩
  have hcall : ∀ f, inner ≠ .func f := by
    intro f h
    cases (show Value.map (.ofPairs [("c", .int 1)]) = .func f from h)
  refine ⟨hcut "[A.b]" "[t.c]" inner () ⟨?_, ?_⟩ (.of_pure rfl) hvalue hcall rfl,
    hexists Delimiters.square_clean hidentifier⟩
  · exact ⟨_, _, _, hfront, .mk rfl .none trivial, .cons (.mk rfl .none trivial) .nil⟩
  · exact ⟨_, _, _, _, hback, rfl, .cons (.mk rfl .none trivial) .nil⟩

end Interpolation
