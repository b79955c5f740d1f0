import Interpolation.Proofs.Sigil.Regions
import Interpolation.Proofs.Token.Cutting

/-!
# The order of the parts of a sigil

The order of the parts of a sigil in its source. Tokens come one after the other, and the parts of a
tree are joined of the places of its tokens; so what is joined of tokens comes before what is joined
of the tokens after them (`Joined.before`). Hence the nodes of a sigil stand in order within it, and
so do in each node its name and its argument (`ordered_of_readsSigil`).
-/

namespace Interpolation

open Text

/-- `a` ends before `b` begins. -/
def Span.Before (a b : Span) : Prop := a.stop ≤ b.start

/-- `b` lies within `a`. -/
structure Span.Encloses (a b : Span) : Prop where
  start : a.start ≤ b.start
  stop : b.stop ≤ a.stop

/-- In a node its name comes first, and then its argument. -/
structure Node.Ordered (node : Node) : Prop where
  name : node.span.Encloses node.name.span
  argument : ∀ a ∈ node.argument, node.name.span.Before a.span ∧ node.span.Encloses a.span

/-- The nodes of a sigil stand within it, one after the other. -/
structure Sigil.Ordered (s : Sigil) : Prop where
  within : ∀ node ∈ s.nodes, s.span.Encloses node.span
  apart : s.nodes.Pairwise fun node node' => node.span.Before node'.span
  nodes : ∀ node ∈ s.nodes, node.Ordered

theorem Span.encloses_join_left (a b : Span) :
    (a.join b).Encloses a := ⟨Nat.min_le_left .., Nat.le_max_left ..⟩

theorem Span.encloses_join_right (a b : Span) :
    (a.join b).Encloses b := ⟨Nat.min_le_right .., Nat.le_max_right ..⟩

theorem Token.start_le_stop (t : Token) : t.span.start ≤ t.span.stop := Nat.le_add_right ..

/-! ## Places -/

theorem places_before (b : Span) : Places (·.Before b) := ⟨fun h h' => Nat.max_le.2 ⟨h, h'⟩⟩

theorem places_after (a : Span) : Places (a.Before ·) := ⟨fun h h' => Nat.le_min.2 ⟨h, h'⟩⟩

theorem places_within (a : Span) : Places (a.Encloses ·) :=
  ⟨fun h h' => ⟨Nat.le_min.2 ⟨h.start, h'.start⟩, Nat.max_le.2 ⟨h.stop, h'.stop⟩⟩⟩

/-- The regions are joined (`Span.join`) of those of the tokens. -/
def Joined (ts : List Token) (spans : List Span) : Prop :=
  ∀ {place : Span → Prop}, Places place → (∀ t ∈ ts, place t.span) → ∀ span ∈ spans, place span

/-- **What is joined of tokens comes before what is joined of the tokens after them.** -/
theorem Joined.before {ts us : List Token} {left right : List Span} (hleft : Joined ts left)
    (hright : Joined us right) (h : ∀ t ∈ ts, ∀ u ∈ us, t.span.Before u.span) :
    ∀ a ∈ left, ∀ b ∈ right, a.Before b := by
  intro a ha b hb
  exact hleft (places_before b) (fun t ht => hright (places_after t.span) (h t ht) b hb) a ha

theorem Node.span_mem_spans (node : Node) : node.span ∈ node.spans := by
  cases node
  exact List.mem_cons_self

theorem span_mem_membersSpans {nodes : List Node} {node : Node} (h : node ∈ nodes) :
    node.span ∈ membersSpans nodes := by
  induction nodes with
  | nil => cases h
  | cons first nodes ih =>
    rw [membersSpans]
    rcases List.mem_cons.1 h with rfl | h
    · exact List.mem_append_left _ node.span_mem_spans
    · exact List.mem_append_right _ (ih h)

/-! ## Trees -/

/-- Tokens that stand in a source come one after the other. -/
theorem Layout.pairwise [Text.IdentifierRule] {d : Delimiters} {offset : Nat} {ts : List Token}
    {cs : List Char} (h : Layout d offset ts cs) :
    ts.Pairwise fun t u => t.span.Before u.span := by
  induction h with
  | nil => exact .nil
  | blank _ _ ih => exact ih
  | token hs h ih => exact .cons (fun u hu => (h.bounds u hu).1) ih

theorem ordered_of_readsNode {first : Bool} {ts : List Token} {node : Node}
    (h : ReadsNode first ts node) (hts : ts.Pairwise fun t u => t.span.Before u.span) :
    node.Ordered := by
  cases h with
  | bare => exact ⟨⟨Nat.le_refl _, Nat.le_refl _⟩, nofun⟩
  | @withArgument _ t equals ts a ht he ha =>
    obtain ⟨hname, -⟩ := List.pairwise_cons.1 hts
    refine ⟨Span.encloses_join_left .., ?_⟩
    rintro _ ⟨⟩
    have harguments := spans_of_readsArgument (places_after t.span) ha fun u hu =>
      hname u (List.mem_cons_of_mem _ hu)
    exact ⟨harguments _ a.span_mem_spans, Span.encloses_join_right ..⟩

/-- A node of a chain is read from tokens of its own. -/
theorem nodes_of_readsMembers {ts : List Token} {nodes : List Node} (h : ReadsMembers ts nodes)
    {node : Node} (hmem : node ∈ nodes) : ∃ us, us.Sublist ts ∧ ReadsNode false us node := by
  match h with
  | .nil => cases hmem
  | @ReadsMembers.cons dot ts us first nodes hd hnode hmembers =>
    rcases List.mem_cons.1 hmem with rfl | hmem
    · exact ⟨ts, (List.sublist_append_left ts us).cons dot, hnode⟩
    · obtain ⟨vs, hvs, hread⟩ := nodes_of_readsMembers hmembers hmem
      exact ⟨vs, (hvs.trans (List.sublist_append_right ts us)).cons dot, hread⟩

theorem nodes_of_readsSigil {ts : List Token} {s : Sigil} (h : ReadsSigil ts s) {node : Node}
    (hmem : node ∈ s.nodes) :
    ∃ first us, us.Sublist ts ∧ ReadsNode first us node := by
  cases h with
  | @mk opening closing ts us root members ho hroot hmembers hc =>
    have hinner : (ts ++ us).Sublist (opening :: (ts ++ us ++ [closing])) :=
      (List.sublist_append_left (ts ++ us) [closing]).cons opening
    rcases List.mem_cons.1 hmem with rfl | hmem
    · exact ⟨true, ts, (List.sublist_append_left ts us).trans hinner, hroot⟩
    · obtain ⟨vs, hvs, hread⟩ := nodes_of_readsMembers hmembers hmem
      exact ⟨false, vs, (hvs.trans (List.sublist_append_right ts us)).trans hinner, hread⟩

/-- A node that is read before others comes before them. -/
theorem before_of_reads {first : Bool} {ts us : List Token} {node : Node} {nodes : List Node}
    (hnode : ReadsNode first ts node) (hnodes : ReadsMembers us nodes)
    (h : ∀ t ∈ ts, ∀ u ∈ us, t.span.Before u.span) :
    ∀ node' ∈ nodes, node.span.Before node'.span := by
  have hleft : Joined ts node.spans := fun hp => spans_of_readsNode hp hnode
  have hright : Joined us (membersSpans nodes) := fun hp => spans_of_readsMembers hp hnodes
  exact fun node' hmem => hleft.before hright h _ node.span_mem_spans _ (span_mem_membersSpans hmem)

theorem pairwise_of_readsMembers {ts : List Token} {nodes : List Node} (h : ReadsMembers ts nodes)
    (hts : ts.Pairwise fun t u => t.span.Before u.span) :
    nodes.Pairwise fun node node' => node.span.Before node'.span := by
  match h with
  | .nil => exact .nil
  | .cons hd hnode hmembers =>
    obtain ⟨-, hus, hbefore⟩ := List.pairwise_append.1 (List.pairwise_cons.1 hts).2
    exact .cons (before_of_reads hnode hmembers hbefore) (pairwise_of_readsMembers hmembers hus)

/-- **The nodes of a sigil stand in order within it, and in each its name and its argument do.** -/
theorem ordered_of_readsSigil {ts : List Token} {s : Sigil} (h : ReadsSigil ts s)
    (hts : ts.Pairwise fun t u => t.span.Before u.span) : s.Ordered where
  within node hnode := by
    cases h with
    | @mk opening closing ts us root members ho hroot hmembers hc =>
      obtain ⟨hopening, hts⟩ := List.pairwise_cons.1 hts
      obtain ⟨-, -, hclosing⟩ := List.pairwise_append.1 hts
      have hwithin : ∀ t ∈ ts ++ us,
          (opening.span.join closing.span).Encloses t.span := fun t ht => by
        have hstart : opening.span.stop ≤ t.span.start := hopening t (List.mem_append_left _ ht)
        have hstop : t.span.stop ≤ closing.span.start := hclosing t ht closing List.mem_cons_self
        exact ⟨(Span.encloses_join_left ..).start.trans (opening.start_le_stop.trans hstart),
          (hstop.trans closing.start_le_stop).trans (Span.encloses_join_right ..).stop⟩
      obtain ⟨hinroot, hinmembers⟩ := List.forall_mem_append.1 hwithin
      rcases List.mem_cons.1 hnode with rfl | hnode
      · exact spans_of_readsNode (places_within _) hroot hinroot _ node.span_mem_spans
      · exact spans_of_readsMembers (places_within _) hmembers hinmembers _
          (span_mem_membersSpans hnode)
  apart := by
    cases h with
    | mk ho hroot hmembers hc =>
      obtain ⟨hts, -, -⟩ := List.pairwise_append.1 (List.pairwise_cons.1 hts).2
      obtain ⟨-, hus, hbefore⟩ := List.pairwise_append.1 hts
      exact .cons (before_of_reads hroot hmembers hbefore) (pairwise_of_readsMembers hmembers hus)
  nodes node hnode := by
    obtain ⟨first, us, hus, hread⟩ := nodes_of_readsSigil h hnode
    exact ordered_of_readsNode hread (hts.sublist hus)

end Interpolation
