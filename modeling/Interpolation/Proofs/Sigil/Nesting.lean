import Interpolation.Proofs.Sigil.Arguments
import Interpolation.Proofs.Sigil.Order
import Interpolation.Proofs.Token.Locality
import Mathlib

/-!
# Sigils within sigils

Sigils within sigils, each in a part of the source. The words of that part are those of the source
there, whatever the delimiters are (`lex_words`), and words that are moved are read as the same tree
in another place (`readsSigil_moveBack`). So a sigil that is an argument of another, at any depth,
is what is parsed from the part of the source that it points at (`parse_nested`).
-/

namespace Interpolation

open Text

variable {d : Delimiters} {source : String} {k : Nat}

/-! ## Trees that are moved -/

theorem Span.moveBack_join (a b : Span) :
    (a.join b).moveBack k = (a.moveBack k).join (b.moveBack k) := by
  simp only [join, moveBack, Span.mk.injEq]
  omega

/-- The name as seen from a text in which it stands `offset` bytes earlier. -/
def Name.moveBack (offset : Nat) (name : Name) :
    Name := { name with span := name.span.moveBack offset }

mutual

/-- The tree as seen from a text in which all of it stands `offset` bytes earlier. -/
def Sigil.moveBack (offset : Nat) : Sigil → Sigil
  | .mk root members span =>
    .mk (root.moveBack offset) (membersMoveBack offset members) (span.moveBack offset)

def membersMoveBack (offset : Nat) : List Node → List Node
  | [] => []
  | node :: nodes => node.moveBack offset :: membersMoveBack offset nodes

def Node.moveBack (offset : Nat) : Node → Node
  | .mk name argument span =>
    .mk (name.moveBack offset) (optionMoveBack offset argument) (span.moveBack offset)

def optionMoveBack (offset : Nat) : Option Argument → Option Argument
  | none => none
  | some argument => some (argument.moveBack offset)

def Argument.moveBack (offset : Nat) : Argument → Argument
  | .sigil s => .sigil (s.moveBack offset)
  | .variable name => .variable (name.moveBack offset)
  | .literal value span => .literal value (span.moveBack offset)

end

theorem Argument.span_moveBack (a : Argument) : (a.moveBack k).span = a.span.moveBack k := by
  match a with
  | .sigil (.mk ..) | .variable _ | .literal .. => rfl

theorem Node.moveBack_withArgument (name : Name) (a : Argument) :
    (Node.withArgument name a).moveBack k = .withArgument (name.moveBack k) (a.moveBack k) := by
  rw [withArgument, withArgument, Node.moveBack, Span.moveBack_join, Argument.span_moveBack]
  rfl

theorem Token.span_moveBack {t : Token} (h : k ≤ t.start) :
    (t.moveBack k).span = t.span.moveBack k := by
  simp only [span, moveBack, Span.moveBack, Span.mk.injEq, true_and]
  omega

theorem Token.name_moveBack {t : Token} (h : k ≤ t.start) :
    (t.moveBack k).name = t.name.moveBack k := by
  rw [name, Token.span_moveBack h]
  rfl

mutual

/-- **Tokens that are moved are read as the same tree in another place** (`Sigil.moveBack`). -/
theorem readsSigil_moveBack {ts : List Token} {s : Sigil} (h : ReadsSigil ts s)
    (hts : ∀ t ∈ ts, k ≤ t.start) :
    ReadsSigil (ts.map (Token.moveBack k)) (s.moveBack k) := by
  match h with
  | @ReadsSigil.mk opening closing ts us root members ho hroot hmembers hc =>
    obtain ⟨hopening, hts⟩ := List.forall_mem_cons.1 hts
    obtain ⟨hts, hclosing⟩ := List.forall_mem_append.1 hts
    obtain ⟨hts, hus⟩ := List.forall_mem_append.1 hts
    have hclosing := hclosing closing List.mem_cons_self
    rw [Sigil.moveBack, Span.moveBack_join, ← Token.span_moveBack hopening,
      ← Token.span_moveBack hclosing,
      List.map_cons, List.map_append, List.map_append]
    exact .mk ho (readsNode_moveBack hroot hts) (readsMembers_moveBack hmembers hus) hc

theorem readsMembers_moveBack {ts : List Token} {nodes : List Node} (h : ReadsMembers ts nodes)
    (hts : ∀ t ∈ ts, k ≤ t.start) :
    ReadsMembers (ts.map (Token.moveBack k)) (membersMoveBack k nodes) := by
  match h with
  | .nil => exact .nil
  | .cons hd hnode hmembers =>
    obtain ⟨-, hts⟩ := List.forall_mem_cons.1 hts
    obtain ⟨hts, hus⟩ := List.forall_mem_append.1 hts
    rw [List.map_cons, List.map_append]
    exact .cons hd (readsNode_moveBack hnode hts) (readsMembers_moveBack hmembers hus)

theorem readsNode_moveBack {first : Bool} {ts : List Token} {node : Node}
    (h : ReadsNode first ts node) (hts : ∀ t ∈ ts, k ≤ t.start) :
    ReadsNode first (ts.map (Token.moveBack k)) (node.moveBack k) := by
  match h with
  | @ReadsNode.bare _ t ht =>
    have hnode : (Node.bare t.name).moveBack k = .bare (t.moveBack k).name := by
      rw [Token.name_moveBack (hts t List.mem_cons_self)]
      rfl
    rw [hnode]
    exact .bare ht
  | @ReadsNode.withArgument _ t equals ts a ht he ha =>
    obtain ⟨hname, hts⟩ := List.forall_mem_cons.1 hts
    rw [Node.moveBack_withArgument, ← Token.name_moveBack hname]
    exact .withArgument ht he (readsArgument_moveBack ha (List.forall_mem_cons.1 hts).2)

theorem readsArgument_moveBack {ts : List Token} {a : Argument} (h : ReadsArgument ts a)
    (hts : ∀ t ∈ ts, k ≤ t.start) : ReadsArgument (ts.map (Token.moveBack k)) (a.moveBack k) := by
  match h with
  | .sigil hs => exact .sigil (readsSigil_moveBack hs hts)
  | @ReadsArgument.variable t ht hv =>
    rw [Argument.moveBack, ← Token.name_moveBack (hts t List.mem_cons_self)]
    exact .variable ht hv
  | @ReadsArgument.keyword t l ht hl =>
    rw [Argument.moveBack, ← Token.span_moveBack (hts t List.mem_cons_self)]
    exact .keyword ht hl
  | @ReadsArgument.string t _ _ ht hs =>
    rw [Argument.moveBack, ← Token.span_moveBack (hts t List.mem_cons_self)]
    exact .string ht hs
  | @ReadsArgument.number t _ ht hn =>
    rw [Argument.moveBack, ← Token.span_moveBack (hts t List.mem_cons_self)]
    exact .number ht hn
  | @ReadsArgument.negative minus t _ hm ht hn =>
    obtain ⟨hminus, hts⟩ := List.forall_mem_cons.1 hts
    rw [Argument.moveBack, Span.moveBack_join, ← Token.span_moveBack hminus,
      ← Token.span_moveBack (hts t List.mem_cons_self)]
    exact .negative hm ht hn

end

/-! ## Parts of a source -/

/-- A node is named by a token. -/
theorem name_of_readsNode {first : Bool} {ts : List Token} {node : Node}
    (h : ReadsNode first ts node) :
    ∃ t ∈ ts, t.NamesNode first ∧ node.name = t.name := by
  cases h with
  | bare ht => exact ⟨_, List.mem_cons_self, ht, rfl⟩
  | withArgument ht he ha => exact ⟨_, List.mem_cons_self, ht, rfl⟩

section
variable [IdentifierRule]

/-- **A sigil that is read from some of the words of a source is parsed from the part of it that it
points at.** -/
theorem parse_part {us ts vs : List Token} {s : Sigil} (hs : ReadsSigil ts s)
    (hwords : (d.lex source).words = us ++ (ts ++ vs)) :
    (∀ span ∈ s.spans, s.span.Encloses span) ∧
    ∃ part, slice? s.span.start s.span.stop source.toList = some part ∧
      d.parse (String.ofList part) = .ok (s.moveBack s.span.start) := by
  obtain ⟨first, last, between, rfl, hspan⟩ : ∃ first last between,
      ts = first :: (between ++ [last]) ∧ s.span = first.span.join last.span := by
    cases hs with
    | @mk opening closing ts us => exact ⟨opening, closing, ts ++ us, rfl, rfl⟩
  obtain ⟨before, part, after, hsource, hlayout, hjoin, hmoved, hfault⟩ := lex_words hwords
  have hslice := slice?_append before part after
  rw [byteLength_append, List.append_assoc, ← hsource] at hslice
  have hread := readsSigil_moveBack hs fun t ht => (hlayout.bounds t ht).1
  have hparse : d.parse (String.ofList part) = .ok (s.moveBack (byteLength before)) :=
    parse_eq_ok.2 ⟨hmoved ▸ Reading.run_sigil hread _ _ .start, hfault⟩
  rw [hspan, hjoin]
  exact ⟨spans_of_readsSigil (places_within _) hs fun t ht =>
    ⟨(hlayout.bounds t ht).1, (hlayout.bounds t ht).2⟩,
    part, hslice, hparse⟩

/-- **A name is a slice of the source**, and alone it is a single identifier or number. -/
theorem name_slice {ts : List Token} {s : Sigil} (hs : ReadsSigil ts s)
    (hts : ∀ t ∈ ts, t ∈ (d.lex source).tokens) {node : Node} (hnode : node ∈ s.nodes) :
    slice? node.name.span.start node.name.span.stop source.toList = some node.name.text.toList ∧
      ∃ kind, (kind = .identifier ∨ kind = .number) ∧
        d.lex node.name.text = ⟨[⟨kind, 0, node.name.text.toList⟩], none⟩ := by
  obtain ⟨first, us, hus, hread⟩ := nodes_of_readsSigil hs hnode
  obtain ⟨t, ht, hnames, hname⟩ := name_of_readsNode hread
  obtain ⟨hslice, hlex⟩ := lex_token (hts t (hus.subset ht))
  rw [hname, Token.name, String.toList_ofList]
  exact ⟨hslice, t.kind, hnames.imp_right And.right, hlex⟩

/-- **A sigil that is an argument of another is what its part of the source is parsed as.** Between
any delimiters, and at any depth, a nested sigil stands in a slice of the source with all of its
parts, and parsed alone the slice gives the same tree, moved to where it is there
(`Sigil.moveBack`). All that a tree points at is a region of the source. The nodes of each sigil
stand in order within it, in each of them its name and its argument do, and the name is a slice that
is a single identifier or number. -/
theorem parse_nested {d : Delimiters} {source : String} {a : Sigil} (h : d.parse source = .ok a) :
    (∀ s, .sigil s ∈ a.arguments → (∀ span ∈ s.spans, s.span.Encloses span) ∧
      ∃ part, slice? s.span.start s.span.stop source.toList = some part ∧
        d.parse (String.ofList part) = .ok (s.moveBack s.span.start)) ∧
    (∀ span ∈ a.spans, span.IsRegion source.toList) ∧
    ∀ s, s = a ∨ .sigil s ∈ a.arguments → s.Ordered ∧
      ∀ node ∈ s.nodes, slice? node.name.span.start node.name.span.stop source.toList =
        some node.name.text.toList ∧
        ∃ kind, (kind = .identifier ∨ kind = .number) ∧
          d.lex node.name.text = ⟨[⟨kind, 0, node.name.text.toList⟩], none⟩ := by
  obtain ⟨hlayout, hread⟩ := reads_of_parse h
  have hnested {s : Sigil} (hs : .sigil s ∈ a.arguments) :
      ∃ us ts vs, (d.lex source).words = us ++ (ts ++ vs) ∧ ReadsSigil ts s := by
    obtain ⟨us, ts, vs, hwords, hts, -⟩ := replaceable_of_readsSigil hread hs
    cases hts with
    | sigil hts => exact ⟨us, ts, vs, by rw [hwords, List.append_assoc], hts⟩
  refine ⟨fun s hs => ?_, isRegion_of_parse h, fun s hs => ?_⟩
  · obtain ⟨us, ts, vs, hwords, hts⟩ := hnested hs
    exact parse_part hts hwords
  · obtain ⟨ts, hts, hsublist⟩ : ∃ ts, ReadsSigil ts s ∧ ts.Sublist (d.lex source).words := by
      rcases hs with rfl | hs
      · exact ⟨_, hread, .refl _⟩
      · obtain ⟨us, ts, vs, hwords, hts⟩ := hnested hs
        rw [hwords]
        exact ⟨ts, hts, (List.sublist_append_left ts vs).trans (List.sublist_append_right us _)⟩
    refine ⟨ordered_of_readsSigil hts (hlayout.pairwise.sublist hsublist), fun node hnode => ?_⟩
    exact name_slice hts (fun t ht => (List.mem_filter.1 (hsublist.subset ht)).1) hnode

end

/-- A sigil within a sigil within a sigil, after a letter of two bytes. -/
theorem parse_nested_twice :
    let inner : Sigil := .mk (.bare ⟨"C", ⟨8, 9⟩⟩) [.bare ⟨"0", ⟨10, 11⟩⟩] ⟨7, 12⟩
    let outer : Sigil := .mk (.mk ⟨"B", ⟨5, 6⟩⟩ (some (.sigil inner)) ⟨5, 12⟩) [] ⟨4, 13⟩
    let a : Sigil := .mk (.mk ⟨"é", ⟨1, 3⟩⟩ (some (.sigil outer)) ⟨1, 13⟩) [] ⟨0, 14⟩
    Delimiters.square.parse "[é=[B=[C.0]]]" = .ok a ∧ .sigil inner ∈ a.arguments ∧
      ∃ part, slice? 7 12 "[é=[B=[C.0]]]".toList = some part ∧
        Delimiters.square.parse (String.ofList part) = .ok (inner.moveBack 7) := by
  intro inner outer a
  have hparse : Delimiters.square.parse "[é=[B=[C.0]]]" = .ok a := by cbv
  have hinner : .sigil inner ∈ a.arguments := List.mem_cons_of_mem _ List.mem_cons_self
  exact ⟨hparse, hinner, ((parse_nested hparse).1 inner hinner).2⟩

end Interpolation
