import Interpolation.Proofs.Purity
import Interpolation.Proofs.Resolution
import Interpolation.Proofs.Sigil.Arguments
import Interpolation.Proofs.Sigil.Parsing
import Interpolation.Splice
import Mathlib

/-!
# Arguments that are replaced in a source

An argument stands in a part of its source, and any other argument may be written there
(`exists_part`). What the sigil resolves to changes only as far as the argument does: a name is as
good as the sigil of that name, and a sigil is as good as a literal of its value
(`resolve_replaced`).
-/

namespace Interpolation

open Text
open Eval (Matches)

variable {σ : Type} {d : Delimiters}

/-! ## The part of a source in which an argument stands -/

theorem Span.join_self (a : Span) : a.join a = a := by
  rw [join, Nat.min_self, Nat.max_self]

/-- An argument stands from its first token to its last one. -/
theorem span_of_readsArgument {ts : List Token} {a : Argument} (h : ReadsArgument ts a) :
    ∃ first last, first ∈ ts.head? ∧ last ∈ ts.getLast? ∧ a.span = first.span.join last.span := by
  have hsingle (t : Token) {a : Argument} (ha : a.span = t.span) :
      ∃ first last, first ∈ [t].head? ∧ last ∈ [t].getLast? ∧ a.span = first.span.join last.span :=
    ⟨t, t, rfl, rfl, ha.trans t.span.join_self.symm⟩
  cases h with
  | sigil hs =>
    cases hs with
    | @mk opening closing ts us root members ho hroot hmembers hc =>
      exact ⟨opening, closing, rfl, List.getLast?_concat (l := opening :: (ts ++ us)), rfl⟩
  | @«variable» t => exact hsingle t rfl
  | @keyword t => exact hsingle t rfl
  | @string t => exact hsingle t rfl
  | @number t => exact hsingle t rfl
  | @negative minus t => exact ⟨minus, t, rfl, rfl, rfl⟩

/-- A name between delimiters. -/
theorem readsSigil_bare {opening t closing : Token} (ho : opening.kind = .opening)
    (ht : t.kind = .identifier) (hc : closing.kind = .closing) :
    ReadsSigil [opening, t, closing] (.mk (.bare t.name) [] (opening.span.join closing.span)) :=
  .mk ho (.bare (.inl ht)) .nil hc

section
variable [IdentifierRule]

/-- The tokens of an argument among others stand in the part of the source that the argument points
at. -/
theorem Layout.exists_cut {us as vs : List Token} {cs : List Char}
    (h : Layout d 0 (us ++ as ++ vs) cs) {a : Argument} (ha : ReadsArgument as a) :
    ∃ before old after, cs = before ++ old ++ after ∧
    a.span = ⟨byteLength before, byteLength before + byteLength old⟩ ∧
      Layout d 0 us before ∧ Layout d (byteLength before) as old ∧
      Layout d (byteLength before + byteLength old) vs after := by
  obtain ⟨first, last, hfirst, hlast, hspan⟩ := span_of_readsArgument ha
  rw [List.append_assoc] at h
  obtain ⟨before, rest, rfl, hbefore, hrest, -⟩ := h.split
  obtain ⟨blanks, rest, rfl, hblanks, hrest, hstart⟩ := hrest.trim
  obtain ⟨old, after, rfl, hold, hafter, hstop⟩ := hrest.split
  rw [Nat.zero_add, ← byteLength_append] at hold hafter hstart hstop
  refine ⟨before ++ blanks, old, after, by simp, ?_, ?_, hold, hafter⟩
  · rw [hspan]
    refine hold.join_eq (List.mem_of_mem_head? hfirst)
      (List.mem_of_mem_getLast? hlast) (hstart first ?_)
      (hstop last hlast)
    exact List.mem_head?_append_of_mem_head? hfirst
  · have hempty : Layout d (0 + byteLength before) [] (blanks ++ []) := .blanks hblanks .nil
    simpa using hbefore.append hempty

/-- **An argument stands in a part of the source, and other tokens may be written there.** What they
are read as takes the place of the argument in the tree. -/
theorem exists_place {source : String} {s : Sigil} (h : Renders d source s) {a : Argument}
    (ha : a ∈ s.arguments) :
    ∃ before old after us, source.toList = before ++ old ++ after ∧
      a.span = ⟨byteLength before, byteLength before + byteLength old⟩ ∧
      (∃ as, Layout d (byteLength before) as old ∧ ReadsArgument as a) ∧
      ∀ new as, Layout d (byteLength before) as new →
        ∃ vs, Layout d 0 (us ++ as ++ vs) (before ++ new ++ after) ∧
        ∀ as' a', ReadsArgument as' a' →
          ∃ s', ReadsSigil (us ++ as' ++ vs) s' ∧ (Correspondence.replacing a a').Sigils s s' := by
  obtain ⟨ts, hlayout, hs⟩ := h
  obtain ⟨us, as, vs, rfl, has, hfill⟩ := replaceable_of_readsSigil hs ha
  obtain ⟨before, old, after, hsource, hspan, hbefore, hold, hafter⟩ := hlayout.exists_cut has
  refine ⟨before, old, after, us, hsource, hspan, ⟨as, hold, has⟩, fun new as hnew => ?_⟩
  obtain ⟨vs', hvs, hafter⟩ := hafter.move (byteLength before + byteLength new)
  refine ⟨vs', ?_, fun as' a' has' => hfill us as' vs' a' rfl has' hvs⟩
  rw [← Nat.zero_add (byteLength before)] at hnew
  refine (hbefore.append hnew).append ?_
  rwa [Nat.zero_add, byteLength_append]

/-- **Any other argument may be written there.** The tree is the same then but for the argument
(`Correspondence.replacing`). -/
theorem exists_part {source : String} {s : Sigil} (h : Renders d source s) {a : Argument}
    (ha : a ∈ s.arguments) :
    ∃ before old after, source.toList = before ++ old ++ after ∧
      a.span = ⟨byteLength before, byteLength before + byteLength old⟩ ∧
      (∃ as, Layout d (byteLength before) as old ∧ ReadsArgument as a) ∧
      ∀ new as a', Layout d (byteLength before) as new → ReadsArgument as a' →
        ∃ s', Renders d (String.ofList (before ++ new ++ after)) s' ∧
        (Correspondence.replacing a a').Sigils s s' := by
  obtain ⟨before, old, after, us, hsource, hspan, hold, hplace⟩ := exists_place h ha
  refine ⟨before, old, after, hsource, hspan, hold, fun new as a' hnew has => ?_⟩
  obtain ⟨vs, hlayout, hread⟩ := hplace new as hnew
  obtain ⟨s', hs', hk⟩ := hread as a' has
  exact ⟨s', ⟨_, by rwa [String.toList_ofList], hs'⟩, hk⟩

end

/-- A span points at one part of a source. -/
theorem part_unique {before old after before' old' after' : List Char}
    (h : before ++ old ++ after = before' ++ old' ++ after')
    (hspan : (⟨byteLength before, byteLength before + byteLength old⟩ : Span) =
      ⟨byteLength before', byteLength before' + byteLength old'⟩) :
    before = before' ∧ old = old' ∧ after = after' := by
  have hcut {cs rest cs' rest' : List Char} (h : cs ++ rest = cs' ++ rest')
      (hlen : byteLength cs = byteLength cs') :
      cs = cs' ∧ rest = rest' := by
    have hsplit := splitAtByte?_append cs rest
    rw [hlen, h, splitAtByte?_append] at hsplit
    cases hsplit
    exact ⟨rfl, rfl⟩
  obtain ⟨hbefore, hstop⟩ := Span.mk.inj hspan
  rw [List.append_assoc, List.append_assoc] at h
  obtain ⟨rfl, hrest⟩ := hcut h hbefore
  obtain ⟨rfl, rfl⟩ := hcut hrest (Nat.add_left_cancel hstop)
  exact ⟨rfl, rfl, rfl⟩

/-! ## Resolving -/

/-- The errors differ in their places at most. -/
def Error.Alike (e e' : Error) : Prop := e'.fault = e.fault ∧ e'.causes = e.causes

theorem Error.alike_locate (e : Error) (source source' : String) (span span' : Span) :
    Alike (e.locate source span) (e.locate source' span') := by
  unfold locate
  constructor <;> split <;> split <;> rfl

/-- `text` is a way to write the literal `l`. -/
def Literal.Renders (d : Delimiters) (text : List Char) (l : Literal) : Prop :=
  ∃ ts span, Layout d 0 ts text ∧ ReadsArgument ts (.literal l span)

section
variable {host : Host σ} {find? : String → Option Value} {source source' : String}

theorem sound_texts {r : Argument → Argument → Prop}
    (hr : ∀ {x x'}, r x x' → Matches Error.Alike (Scene.evalArgument ⟨host, find?, source⟩ x)
      (Scene.evalArgument ⟨host, find?, source'⟩ x')) :
    (Correspondence.texts r).Sound Error.Alike ⟨host, find?, source⟩ ⟨host, find?, source'⟩ where
  host := rfl
  find hn := congrArg find? hn
  fault _ _ _ _ := Error.alike_locate ..
  call _ _ _ _ _ := Error.alike_locate ..
  argument := hr

theorem sound_names :
    (Correspondence.texts fun _ _ => False).Sound Error.Alike (⟨host, find?, source⟩ : Scene σ)
    ⟨host, find?, source'⟩ := sound_texts False.elim

end

/-- A sigil of a name alone stands for what the name does. -/
theorem Scene.evalSigil_bare (scene : Scene σ) (name : Name) (span : Span) :
    scene.evalSigil (.mk (.bare name) [] span) = scene.evalName name := by
  rw [Node.bare, evalSigil, evalOption, pure_bind, evalName]
  refine bind_congr fun value => bind_congr fun found => ?_
  cases found with
  | none => simp only [evalMembers, bind_pure]
  | some manager => rfl

/-- The second source is in the grammar, and both resolve to the same or to errors that differ in
their places at most (`Error.Alike`). -/
structure Engine.SameOutcome (e : Engine σ) (find? : String → Option Value)
    (source source' : String) : Prop where
  parses : ∃ s', e.delimiters.parse source' = .ok s'
  resolves : Matches Error.Alike (e.resolve find? source) (e.resolve find? source')

section
variable {e : Engine σ} {find? : String → Option Value} {source : String}

theorem resolve_of_parse {s : Sigil} (h : e.delimiters.parse source = .ok s) :
    e.resolve find? source = Scene.evalSigil ⟨e.host, find?, source⟩ s := by
  rw [Engine.resolve, h]

/-- What is the same but for an argument has the same outcome, if the arguments do. -/
theorem sameOutcome_of_replaced (hd : e.delimiters.Clean) {source' : String} {s s' : Sigil}
    {a a' : Argument} (hs : e.delimiters.parse source = .ok s)
    (hs' : Renders e.delimiters source' s') (hk : (Correspondence.replacing a a').Sigils s s')
    (ha : Matches Error.Alike (Scene.evalArgument ⟨e.host, find?, source⟩ a)
      (Scene.evalArgument ⟨e.host, find?, source'⟩ a')) :
    e.SameOutcome find? source source' := by
  have hparse := parse_of_renders hd hs'
  refine ⟨⟨s', hparse⟩, ?_⟩
  rw [resolve_of_parse hs, resolve_of_parse hparse]
  refine Scene.evalSigil_matches (sound_texts ?_) hk
  rintro _ _ ⟨rfl, rfl⟩
  exact ha

/-- A sigil resolves to the same where it stands in a source and by itself. -/
theorem resolve_part (hd : e.delimiters.Clean) {offset : Nat} {ts : List Token} {old : List Char}
    {s : Sigil} (hlayout : Layout e.delimiters offset ts old) (hs : ReadsSigil ts s) :
    Matches Error.Alike (Scene.evalSigil ⟨e.host, find?, source⟩ s)
      (e.resolve find? (String.ofList old)) := by
  obtain ⟨ts', hts, hlayout⟩ := hlayout.move 0
  obtain ⟨s', hs', hk⟩ := exists_sigil_of_moved hs hts
  rw [resolve_of_parse (parse_of_renders hd ⟨ts', by rwa [String.toList_ofList], hs'⟩)]
  exact Scene.evalSigil_matches sound_names hk

/-- **An argument matters through its value alone.** It stands in a part of the source. A name may
be written there as the sigil of that name. Over a pure host a sigil that resolves to none, to a
boolean, to an integer or to a string that lacks one of the quotes may be written there as a literal
of that value (`Engine.SameOutcome`), provided that it does not tell views of the environment apart
(`Engine.ViewsAlike`): a sigil that counts them, say, is more than its value. -/
theorem resolve_replaced (e : Engine σ) (hd : e.delimiters.Clean) (find? : String → Option Value)
    {source : String} {s : Sigil} (hs : e.delimiters.parse source = .ok s) {a : Argument}
    (ha : a ∈ s.arguments) :
    ∃ before old after, source.toList = before ++ old ++ after ∧
      a.span = ⟨byteLength before, byteLength before + byteLength old⟩ ∧
      (∀ name, a = .variable name → e.SameOutcome find? source (String.ofList
        (before ++ (e.delimiters.opening ++ old ++ e.delimiters.closing) ++ after))) ∧
      ∀ (inner : Sigil) (l : Literal) (t : σ), a = .sigil inner → e.host.Pure →
        e.ViewsAlike find? (String.ofList old) → l.WellFormed →
        ((e.resolve find? (String.ofList old)).run t).1 = .ok l.value →
        (∃ new, l.Renders e.delimiters new) ∧
          ∀ new, l.Renders e.delimiters new →
          e.SameOutcome find? source (String.ofList (before ++ new ++ after)) := by
  obtain ⟨before, old, after, hsource, hspan, ⟨as, hold, has⟩, hfill⟩ :=
    exists_part (renders_of_parse hs) ha
  refine ⟨before, old, after, hsource, hspan, ?_, ?_⟩
  · rintro name rfl
    cases has with
    | @«variable» t ht hv =>
      obtain ⟨as', hmoved, hold⟩ := hold.move (byteLength before + byteLength e.delimiters.opening)
      obtain ⟨t', rfl, hkind, htext⟩ := Moved.single hmoved
      have hnew := Layout.token .opening (hold.append (.single .closing))
      obtain ⟨s', hs', hk⟩ := hfill _ _ _ hnew (.sigil (readsSigil_bare rfl (hkind.trans ht) rfl))
      rw [← List.append_assoc e.delimiters.opening] at hs'
      refine sameOutcome_of_replaced hd hs hs' hk ?_
      rw [Scene.evalArgument, Scene.evalArgument, Scene.evalSigil_bare]
      exact Scene.evalName_matches sound_names (Token.name_text htext)
  · rintro inner l t rfl hpure hviews hl hvalue
    have hinner : Scene.evalSigil ⟨e.host, find?, source⟩ inner = pure l.value := by
      cases has with
      | sigil hinner =>
        have hpart : Matches Error.Alike (Scene.evalSigil ⟨e.host, find?, source⟩ inner) _ :=
          resolve_part hd hold hinner
        rw [(Engine.resolve_pure hpure hviews).eq_of_run hvalue] at hpart
        exact hpart.eq_pure
    obtain ⟨ts, new, span, hnew, hread⟩ := exists_literal e.delimiters hl 0
    refine ⟨⟨new, ts, span, hnew, hread⟩, ?_⟩
    rintro new ⟨ts, span, hnew, hread⟩
    obtain ⟨ts', hmoved, hnew⟩ := hnew.move (byteLength before)
    obtain ⟨a', hread, hk⟩ := exists_argument_of_moved (r := fun _ _ => False) hread hmoved
    cases hk with
    | given h => exact h.elim
    | literal =>
      obtain ⟨s', hs', hk⟩ := hfill _ _ _ hnew hread
      refine sameOutcome_of_replaced hd hs hs' hk ?_
      rw [Scene.evalArgument, Scene.evalArgument, hinner]
      exact .ret _

end

/-- A name in its place as the sigil of that name, and that sigil as a number. -/
theorem resolve_replaced_number :
    let e := Engine.new Host.echo
    let find? (name : String) : Option Value :=
      if name = "A" then some (.func (.host 0 none)) else if name = "X" then some (.int 1) else none
    e.SameOutcome find? "[A=X]" "[A=[X]]" ∧ e.SameOutcome find? "[A=[X]]" "[A=1]" := by
  intro e find?
  have hd : e.delimiters.Clean := Delimiters.square_clean
  constructor
  · have hparse : e.delimiters.parse "[A=X]" =
        .ok (.mk (.withArgument ⟨"A", ⟨1, 2⟩⟩ (.variable ⟨"X", ⟨3, 4⟩⟩)) [] ⟨0, 5⟩) := by cbv
    obtain ⟨before, old, after, hsource, hspan, hname, -⟩ :=
      resolve_replaced e hd find? hparse List.mem_cons_self
    have hsource : ['[', 'A', '='] ++ ['X'] ++ [']'] = before ++ old ++ after := hsource
    obtain ⟨rfl, rfl, rfl⟩ := part_unique hsource hspan
    exact hname _ rfl
  · have hparse : e.delimiters.parse "[A=[X]]" =
        .ok (.mk (.withArgument ⟨"A", ⟨1, 2⟩⟩ (.sigil (.mk (.bare ⟨"X", ⟨4, 5⟩⟩) [] ⟨3, 6⟩)))
          [] ⟨0, 7⟩) := by cbv
    obtain ⟨before, old, after, hsource, hspan, -, hvalue⟩ :=
      resolve_replaced e hd find? hparse List.mem_cons_self
    have hsource : ['[', 'A', '='] ++ ['[', 'X', ']'] ++ [']'] = before ++ old ++ after := hsource
    obtain ⟨rfl, rfl, rfl⟩ := part_unique hsource hspan
    have hresolve : ((e.resolve find? "[X]").run ()).1 = .ok (.int 1) := by cbv
    have hone : (Literal.integer 1).Renders e.delimiters ['1'] :=
      ⟨_, _, .single (.number (by decide) (List.forall_mem_nil _)), .number rfl (by decide)⟩
    exact (hvalue _ (.integer 1) () rfl Host.echo_pure (.of_pure rfl) trivial hresolve).2 _ hone

end Interpolation
