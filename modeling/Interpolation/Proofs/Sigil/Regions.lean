import Interpolation.Proofs.Sigil.Parsing
import Interpolation.Proofs.Text.Regions

/-!
# Where the parts of a sigil stand

Where the parts of a sigil stand, and where a source is refused. The tokens of a source are regions
of it, also those before a fault, and so is what is at fault. The parts of a tree that is read from
the tokens are joined of theirs (`spans_of_readsSigil`), and so is what the reader refuses. Hence
whatever the parser points at is a region of the source (`isRegion_of_parse`,
`isRegion_of_refused`).
-/

namespace Interpolation

open Text

variable {d : Delimiters} {source : String}

/-! ## Trees -/

mutual

/-- Where the parts of a tree stand. -/
def Sigil.spans : Sigil → List Span
  | .mk root members span => span :: (root.spans ++ membersSpans members)

def membersSpans : List Node → List Span
  | [] => []
  | node :: nodes => node.spans ++ membersSpans nodes

def Node.spans : Node → List Span
  | .mk name argument span => span :: name.span :: optionSpans argument

def optionSpans : Option Argument → List Span
  | none => []
  | some argument => argument.spans

def Argument.spans : Argument → List Span
  | .sigil s => s.spans
  | .variable name => [name.span]
  | .literal _ span => [span]

end

theorem Argument.span_mem_spans (a : Argument) : a.span ∈ a.spans := by
  match a with
  | .sigil (.mk ..) => exact List.mem_cons_self
  | .variable _ | .literal .. => exact List.mem_cons_self

/-- Regions of which `place` holds can be joined. -/
structure Places (place : Span → Prop) : Prop where
  join : ∀ {a b}, place a → place b → place (a.join b)

theorem places_isRegion (cs : List Char) : Places (·.IsRegion cs) := ⟨.join⟩

variable {place : Span → Prop}

mutual

/-- **The parts of a tree stand where tokens do, or between two of them.** -/
theorem spans_of_readsSigil {ts : List Token} {s : Sigil} (hp : Places place) (h : ReadsSigil ts s)
    (hts : ∀ t ∈ ts, place t.span) : ∀ span ∈ s.spans, place span := by
  match h with
  | @ReadsSigil.mk opening closing ts us root members ho hroot hmembers hc =>
    obtain ⟨hopening, hts⟩ := List.forall_mem_cons.1 hts
    obtain ⟨hts, hclosing⟩ := List.forall_mem_append.1 hts
    obtain ⟨hts, hus⟩ := List.forall_mem_append.1 hts
    refine List.forall_mem_cons.2 ⟨hp.join hopening (hclosing closing List.mem_cons_self), ?_⟩
    exact List.forall_mem_append.2 ⟨spans_of_readsNode hp hroot hts,
      spans_of_readsMembers hp hmembers hus⟩

theorem spans_of_readsMembers {ts : List Token} {nodes : List Node} (hp : Places place)
    (h : ReadsMembers ts nodes) (hts : ∀ t ∈ ts, place t.span) :
    ∀ span ∈ membersSpans nodes, place span := by
  match h with
  | .nil => exact nofun
  | .cons hd hnode hmembers =>
    obtain ⟨hts, hus⟩ := List.forall_mem_append.1 (List.forall_mem_cons.1 hts).2
    exact List.forall_mem_append.2 ⟨spans_of_readsNode hp hnode hts,
      spans_of_readsMembers hp hmembers hus⟩

theorem spans_of_readsNode {first : Bool} {ts : List Token} {node : Node} (hp : Places place)
    (h : ReadsNode first ts node) (hts : ∀ t ∈ ts, place t.span) :
    ∀ span ∈ node.spans, place span := by
  match h with
  | .bare ht =>
    have hname := hts _ List.mem_cons_self
    exact List.forall_mem_cons.2 ⟨hname, List.forall_mem_cons.2 ⟨hname, nofun⟩⟩
  | @ReadsNode.withArgument _ t equals ts a ht he ha =>
    obtain ⟨hname, hts⟩ := List.forall_mem_cons.1 hts
    have hargument := spans_of_readsArgument hp ha (List.forall_mem_cons.1 hts).2
    have hnode := hp.join hname (hargument _ a.span_mem_spans)
    exact List.forall_mem_cons.2 ⟨hnode, List.forall_mem_cons.2 ⟨hname, hargument⟩⟩

theorem spans_of_readsArgument {ts : List Token} {a : Argument} (hp : Places place)
    (h : ReadsArgument ts a) (hts : ∀ t ∈ ts, place t.span) : ∀ span ∈ a.spans, place span := by
  match h with
  | .sigil hs => exact spans_of_readsSigil hp hs hts
  | .variable .. | .keyword .. | .string .. | .number .. =>
    exact List.forall_mem_singleton.2 (hts _ List.mem_cons_self)
  | .negative hm ht hn =>
    obtain ⟨hminus, hts⟩ := List.forall_mem_cons.1 hts
    exact List.forall_mem_singleton.2 (hp.join hminus (hts _ List.mem_cons_self))

end

/-- The minus sign of a negative number is one of the tokens read so far. -/
theorem place_of_refuses {ts : List Token} {r : Reading} {t : Token} {m : Misread}
    (hp : Places place) (hr : Reading.ReadsReading ts r) (h : r.Refuses t m)
    (hts : ∀ t ∈ ts, place t.span) (ht : place t.span) :
    place m.2 := by
  cases h with
  | token => exact ht
  | negative =>
    cases hr with
    | inside _ _ hprogress =>
      cases hprogress with
      | begins hb => exact absurd hb.progress_eq (by simp)
      | negated => exact hp.join (hts _ (by simp)) ht

/-! ## Tokens -/

variable [IdentifierRule]

/-- **The tokens of a source and what is at fault in it are regions of it** (`Span.IsRegion`). -/
theorem regions_of_lexFrom {offset : Nat} {cs : List Char} :
    ∀ before : List Char, byteLength before = offset →
    (∀ t ∈ (d.lexFrom offset cs).tokens, t.Quoted ∧ t.span.IsRegion (before ++ cs)) ∧
      ∀ m ∈ (d.lexFrom offset cs).fault, m.2.IsRegion (before ++ cs) := by
  fun_induction Delimiters.lexFrom d offset cs with
  | case1 =>
    refine fun _ _ => ⟨List.forall_mem_nil _, ?_⟩
    rintro _ ⟨⟩
  | case2 offset c cs fault text hl =>
    rintro before rfl
    obtain ⟨rest, hrest⟩ := (fault_of_lexeme hl).2
    refine ⟨List.forall_mem_nil _, ?_⟩
    rintro _ ⟨⟩
    rw [← hrest]
    exact .append before text rest
  | case3 offset c cs kind text rest hl _ lexed ih =>
    rintro before rfl
    obtain ⟨htokens, hfault⟩ := ih (before ++ text) (byteLength_append ..)
    rw [List.append_assoc, ← (Delimiters.eq_of_lexeme hl).1] at htokens hfault
    refine ⟨List.forall_mem_cons.2 ⟨⟨quoted_of_lexeme hl, ?_⟩, htokens⟩, hfault⟩
    rw [(Delimiters.eq_of_lexeme hl).1, Token.span]
    exact .append before text rest

theorem regions_of_words :
    ∀ t ∈ (d.lex source).words, t.Quoted ∧ t.span.IsRegion source.toList := by
  intro t ht
  exact (regions_of_lexFrom [] rfl).1 t (List.mem_filter.1 ht).1

/-! ## Parsing -/

/-- **The parts of a tree stand in regions of the source that it was parsed from.** -/
theorem isRegion_of_parse {a : Sigil} (h : d.parse source = .ok a) :
    ∀ span ∈ a.spans, span.IsRegion source.toList := by
  obtain ⟨hrun, -⟩ := parse_eq_ok.1 h
  have hread := Reading.ReadsReading.start.run (fun t ht => (regions_of_words t ht).1) hrun
  have hregions : ∀ t ∈ (d.lex source).words, t.span.IsRegion source.toList :=
    fun t ht => (regions_of_words t ht).2
  change Reading.ReadsReading (d.lex source).words (.done a) at hread
  generalize (d.lex source).words = ts at hread hregions
  cases hread with
  | done hsigil => exact spans_of_readsSigil (places_isRegion _) hsigil hregions

/-- **What a source is refused for stands in a region of it**, if only at its end. -/
theorem isRegion_of_refused {m : Misread}
    (h : (d.lex source).sigil (byteLength source.toList) = .error m) :
    m.2.IsRegion source.toList := by
  rcases sigil_eq_error h with hrun | hfault | ⟨expected, rfl⟩
  · obtain ⟨before, t, after, r, hwords, hbefore, hrefuses⟩ := exists_refuses_of_run hrun
    have hregions := @regions_of_words d source _
    rw [hwords] at hregions
    obtain ⟨hread, hrest⟩ := List.forall_mem_append.1 hregions
    have hreading := Reading.ReadsReading.start.run (fun t ht => (hread t ht).1) hbefore
    exact place_of_refuses (places_isRegion _) hreading hrefuses (fun t ht => (hread t ht).2)
      (hrest t List.mem_cons_self).2
  · exact (regions_of_lexFrom [] rfl).2 m hfault
  · exact .atEnd _

end Interpolation
