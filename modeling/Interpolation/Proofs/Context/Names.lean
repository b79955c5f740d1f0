import Interpolation.Proofs.Context.Entries
import Interpolation.Proofs.Purity
import Interpolation.Proofs.Resolution
import Interpolation.Proofs.Sigil.Parsing
import Interpolation.Splice
import Mathlib

/-!
# What resolving takes from a context

A source names what it needs by its identifiers and its indices, and nothing else in a context is
looked at: where two contexts say the same of these names, the source resolves to the same
(`resolve_of_names`). Keys that differ from all of them in uppercase may come, go and change in any
layer.
-/

namespace Interpolation

open Text

variable {σ : Type}

/-! ## The names of a source -/

/-- A name among tokens: an identifier, or an index, which is a number after a dot. -/
inductive IsName (ts : List Token) : String → Prop where
  | identifier {t : Token} (h : t ∈ ts) (ht : t.kind = .identifier) : IsName ts t.name.text
  | index {dot t : Token} (h : [dot, t] <:+: ts) (hd : dot.kind = .dot) (ht : t.kind = .number) :
    IsName ts t.name.text

/-- `name` is a name in `source`. -/
def Delimiters.IsName (d : Delimiters) (source name : String) : Prop :=
  Interpolation.IsName (d.lex source).words name

theorem IsName.mono {ts us : List Token} {name : String} (h : IsName ts name) (hsub : ts <:+: us) :
    IsName us name := by
  cases h with
  | identifier h ht => exact .identifier (hsub.subset h) ht
  | index h hd ht => exact .index (h.trans hsub) hd ht

/-- Trees that are the same, with names of which `P` holds. -/
def Correspondence.same (P : String → Prop) : Correspondence where
  name n n' := n' = n ∧ P n.text
  place p p' := p' = p
  argument _ _ := False
  text_eq h := congrArg Name.text h.1
  span h := congrArg Name.span h.1
  join h h' := by rw [h, h']

section
variable {P : String → Prop}

/-- A node is named by its first token. After a dot this may be a number. -/
theorem name_of_namesNode {first : Bool} {before t : Token} {ts : List Token}
    (ht : t.NamesNode first) (hb : first = false → before.kind = .dot)
    (hP : ∀ name, IsName (before :: t :: ts) name → P name) :
    P t.name.text := by
  rcases ht with ht | ⟨hfirst, ht⟩
  · exact hP _ (.identifier (List.mem_cons_of_mem _ List.mem_cons_self) ht)
  · exact hP _ (.index (List.prefix_append [before, t] ts).isInfix (hb hfirst) ht)

mutual

theorem sigils_same {ts : List Token} {s : Sigil} (h : ReadsSigil ts s)
    (hP : ∀ name, IsName ts name → P name) :
    (Correspondence.same P).Sigils s s := by
  match h with
  | @ReadsSigil.mk opening closing ts us root members ho hroot hmembers hc =>
    refine .mk (nodes_same hroot opening nofun fun name hname => hP name (hname.mono ?_))
      (members_same hmembers fun name hname => hP name (hname.mono ?_))
    · exact ⟨[], us ++ [closing], by simp⟩
    · exact ⟨opening :: ts, [closing], by simp⟩

theorem members_same {ts : List Token} {nodes : List Node} (h : ReadsMembers ts nodes)
    (hP : ∀ name, IsName ts name → P name) : (Correspondence.same P).Members nodes nodes := by
  match h with
  | .nil => exact .nil
  | @ReadsMembers.cons dot ts us node nodes hd hnode hmembers =>
    refine .cons (nodes_same hnode dot (fun _ => hd) fun name hname => hP name (hname.mono ?_))
      (members_same hmembers fun name hname => hP name (hname.mono ?_))
    · exact ⟨[], us, rfl⟩
    · exact ⟨dot :: ts, [], by simp⟩

theorem nodes_same {first : Bool} {ts : List Token} {node : Node} (h : ReadsNode first ts node)
    (before : Token) (hb : first = false → before.kind = .dot)
    (hP : ∀ name, IsName (before :: ts) name → P name) :
    (Correspondence.same P).Nodes node node := by
  match h with
  | .bare ht => exact .mk ⟨rfl, name_of_namesNode ht hb hP⟩ .none rfl
  | @ReadsNode.withArgument _ t equals ts a ht he ha =>
    refine .mk ⟨rfl, name_of_namesNode ht hb hP⟩ (.some ?_) rfl
    exact arguments_same ha fun name hname =>
      hP name (hname.mono ⟨[before, t, equals], [], by simp⟩)

theorem arguments_same {ts : List Token} {a : Argument} (h : ReadsArgument ts a)
    (hP : ∀ name, IsName ts name → P name) : (Correspondence.same P).Arguments a a := by
  match h with
  | .sigil hs => exact .sigil (sigils_same hs hP)
  | .variable ht _ => exact .variable ⟨rfl, hP _ (.identifier (List.mem_singleton_self _) ht)⟩
  | .keyword .. | .string .. | .number .. | .negative .. => exact .literal

end

end

/-! ## Contexts that say the same -/

variable {e : Engine σ} {source : String}

theorem resolve_eq_of_isName {find? find?' : String → Option Value}
    (h : ∀ name, e.delimiters.IsName source name → find?' name = find? name) :
    e.resolve find?' source = e.resolve find? source := by
  unfold Engine.resolve
  cases hp : e.delimiters.parse source with
  | error err => rfl
  | ok s =>
    have hsound : (Correspondence.same (e.delimiters.IsName source)).Sound Eq
        ⟨e.host, find?, source⟩
        ⟨e.host, find?', source⟩ :=
      { host := rfl
        find := fun hn => (congrArg find?' (congrArg Name.text hn.1)).trans (h _ hn.2)
        fault := fun fault _ _ hp => congrArg ((Error.of fault).locate source) hp.symm
        call := fun name err _ _ hp => congrArg ((Error.ofCall name err).locate source) hp.symm
        argument := False.elim }
    have hsame := sigils_same (reads_of_parse hp).2 fun _ hname => hname
    exact (Scene.evalSigil_matches hsound hsame).eq.symm

/-- Layers that say the same of the keys that in uppercase are like a name of which `P` holds. -/
def Table.Alike (P : String → Prop) (t t' : Table) : Prop :=
  ∀ key name, P name → upperCase key = upperCase name → t'.get? key = t.get? key

theorem Context.get?_congr {c c' : Context} {name : String}
    (h : ∀ key, upperCase key = upperCase name → c'.find? key = c.find? key) :
    c'.get? name = c.get? name := by
  rw [get?, get?, h name rfl, h (upperCase name) (upperCase_upperCase name)]

theorem Context.get?_of_alike {P : String → Prop} {c c' : Context}
    (h : List.Forall₂ (Table.Alike P) c.layers c'.layers) {name : String} (hname : P name) :
    c'.get? name = c.get? name := by
  refine get?_congr fun key hkey => ?_
  rw [find?, find?]
  generalize c.layers = layers, c'.layers = layers' at h
  induction h with
  | nil => rfl
  | cons hlayer _ ih =>
    rw [List.findSome?_cons, List.findSome?_cons, hlayer key name hname hkey, ih]

theorem Context.get?_pushLayer (c : Context) {layer : Table} {name : String}
    (h : ∀ key, upperCase key = upperCase name → layer.get? key = none) :
    (c.pushLayer layer).1.get? name = c.get? name := by
  refine get?_congr fun key hkey => ?_
  change (layer :: c.layers).findSome? (·.get? key) = _
  rw [List.findSome?_cons, h key hkey]
  rfl

/-! ## The keys of an overlay -/

namespace Overlay

/-- `t'` says what `t` does but for `entries`, which are written. -/
def Writes (entries : List (String × Value)) (t t' : Table) : Prop :=
  ∀ key, (∀ entry ∈ entries, upperCase entry.1 ≠ key) → t'.get? key = t.get? key

theorem writes_of_extend {t t' : Table} {v : Value} (h : extend t v = .ok t') :
    ∃ entries, v.entriesByOctets = .ok entries ∧ Writes entries t t' := by
  cases v with
  | map entries =>
    cases h
    exact ⟨_, rfl, fun key hkey => Table.get?_write_of_ne fun entry hentry =>
      hkey entry (List.mem_mergeSort.2 hentry)⟩
  | none | bool | int | float | str | bytes | list | object | func => cases h

theorem Part.writes_of_apply {part : Part σ} {t t' : Table} {s s' : σ}
    (h : (part.apply t).run s = (.ok t', s')) :
    ∃ entries, part.entries.run s = (.ok entries, s') ∧ Writes entries t t' := by
  cases part with
  | set key value =>
    cases h
    exact ⟨_, rfl, fun _ => Table.get?_write_of_ne⟩
  | merge map =>
    cases map with
    | error err => cases h
    | ok v =>
      obtain ⟨hv, rfl⟩ := Prod.mk.inj h
      obtain ⟨entries, hentries, hwrites⟩ := writes_of_extend hv
      exact ⟨entries, congrArg (·, s) hentries, hwrites⟩
  | source ask =>
    rw [apply] at h
    rw [entries]
    rcases hr : ask.run s with ⟨err | v, s₁⟩
    · rw [run_bind_of_error hr] at h
      cases h
    · rw [run_bind_of_ok hr] at h ⊢
      obtain ⟨hv, rfl⟩ := Prod.mk.inj h
      obtain ⟨entries, hentries, hwrites⟩ := writes_of_extend hv
      exact ⟨entries, congrArg (·, s₁) hentries, hwrites⟩

theorem writes_of_foldlM {overlay : Overlay σ} {t t' : Table} {s s' : σ}
    (h : (overlay.foldlM Part.apply t).run s = (.ok t', s')) :
    ∃ entries, overlay.entries.run s = (.ok entries, s') ∧ Writes entries t t' := by
  induction overlay generalizing t s with
  | nil =>
    cases h
    exact ⟨[], rfl, fun _ _ => rfl⟩
  | cons part parts ih =>
    rw [List.foldlM_cons] at h
    rcases hr : (part.apply t).run s with ⟨err | t₁, s₁⟩
    · rw [run_bind_of_error hr] at h
      cases h
    · rw [run_bind_of_ok hr] at h
      obtain ⟨first, hfirst, hwrites⟩ := Part.writes_of_apply hr
      obtain ⟨rest, hrest, hwrites'⟩ := ih h
      refine ⟨first ++ rest, ?_, fun key hkey => ?_⟩
      · rw [entries, run_bind_of_ok hfirst, bind_pure_comp, run_map, hrest]
        rfl
      · obtain ⟨hkey, hkey'⟩ := List.forall_mem_append.1 hkey
        rw [hwrites' key hkey', hwrites key hkey]

end Overlay

/-- **Resolving depends on a context through the names of the source alone.** Where contexts say the
same of the names (`Delimiters.IsName`), the source resolves to the same, with the same effects on
the host. So it does where their layers agree on all keys that are like a name in uppercase, and
where a layer is pushed that has no such key. -/
theorem resolve_of_names (e : Engine σ) (source : String) :
    (∀ find? find?' : String → Option Value,
      (∀ name, e.delimiters.IsName source name → find?' name = find? name) →
      e.resolve find?' source = e.resolve find? source) ∧
    (∀ c c' : Context, List.Forall₂ (Table.Alike (e.delimiters.IsName source)) c.layers c'.layers →
      e.resolve c'.get? source = e.resolve c.get? source) ∧
    ∀ (c c' : Context) (h : Handle) (overlay : Overlay σ) (entries : List (String × Value)) (s : σ),
      ((c.push overlay).run s).1 = .ok (c', h) → (overlay.entries.run s).1 = .ok entries →
      (∀ entry ∈ entries, ∀ name, e.delimiters.IsName source name →
        upperCase entry.1 ≠ upperCase name) →
      e.resolve c'.get? source = e.resolve c.get? source := by
  refine ⟨fun find? find?' h => resolve_eq_of_isName h,
    fun c c' h => resolve_eq_of_isName fun name => Context.get?_of_alike h, ?_⟩
  intro c c' h overlay entries s hpush hentries hkeys
  rw [Context.push, run_map] at hpush
  rcases hr : overlay.layer.run s with ⟨err | layer, s'⟩
  · rw [hr] at hpush
    cases hpush
  · rw [hr] at hpush
    cases hpush
    obtain ⟨written, hwritten, hwrites⟩ := Overlay.writes_of_foldlM hr
    cases hentries.symm.trans (congrArg Prod.fst hwritten)
    refine resolve_eq_of_isName fun name hname => c.get?_pushLayer fun key hkey => ?_
    rw [hwrites key fun entry hentry hupper => hkeys entry hentry name hname ?_]
    · rfl
    · rw [← hkey, ← hupper, upperCase_upperCase]

/-- The name is bound in another layer, another key is bound in the base, and a layer with that key
is pushed. -/
theorem resolve_of_names_other :
    let e := Engine.new Host.echo
    let c : Context := ⟨0, ⟨[("A", .int 1)]⟩, [], ∅⟩
    e.resolve (⟨1, ∅, [∅, ⟨[("A", .int 1)]⟩], ∅⟩ : Context).get? "[A]" = e.resolve c.get? "[A]" ∧
      e.resolve (c.setBase "b" (.int 2)).get? "[A]" = e.resolve c.get? "[A]" ∧
      e.resolve (c.pushLayer ⟨[("B", .int 3)]⟩).1.get? "[A]" = e.resolve c.get? "[A]" := by
  intro e c
  have hnames {name : String} (h : e.delimiters.IsName "[A]" name) : name = "A" := by
    have hwords : (Delimiters.square.lex "[A]").words =
        [⟨.opening, 0, ['[']⟩, ⟨.identifier, 1, ['A']⟩, ⟨.closing, 2, [']']⟩] := by cbv
    change IsName (Delimiters.square.lex "[A]").words name at h
    rw [hwords] at h
    cases h with
    | identifier h ht =>
      simp only [List.mem_cons, List.not_mem_nil, or_false] at h
      rcases h with rfl | rfl | rfl
      · cases ht
      · rfl
      · cases ht
    | index h hd ht =>
      have hdot := h.subset List.mem_cons_self
      simp only [List.mem_cons, List.not_mem_nil, or_false] at hdot
      rcases hdot with rfl | rfl | rfl <;> cases hd
  obtain ⟨hfind, hlayers, hpush⟩ := resolve_of_names e "[A]"
  refine ⟨hfind _ _ fun name hname => ?_, ?_, ?_⟩
  · cases hnames hname
    rfl
  · refine hlayers c (c.setBase "b" (.int 2)) (.cons (fun key name hname hkey => ?_) .nil)
    cases hnames hname
    have hne : key ≠ "B" := by
      rintro rfl
      exact absurd hkey (by decide)
    exact (Table.get?_insert ..).trans (if_neg hne)
  · refine hpush c _ ⟨0, 1⟩ [.set "b" (.int 3)] [("b", .int 3)] () rfl rfl ?_
    rintro _ hentry name hname
    cases List.mem_singleton.1 hentry
    cases hnames hname
    decide

end Interpolation
