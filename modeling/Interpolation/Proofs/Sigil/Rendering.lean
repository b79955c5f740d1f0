import Interpolation.Proofs.Sigil.Grammar
import Interpolation.Proofs.Token.Layout

/-!
# Sources and the trees that they render

A source renders a tree if tokens that the grammar reads as the tree stand in it, with any blanks
between them.

The trees that are rendered are the well-formed ones: whatever is rendered is well-formed
(`wellFormed_of_renders`), and every well-formed tree is rendered by some source, with its parts
where they stand in that source (`exists_renders`).
-/

namespace Interpolation

open Text

variable [IdentifierRule]

/-- `source` is a way to write the tree `a`. -/
def Renders (d : Delimiters) (source : String) (a : Sigil) : Prop :=
  ∃ ts, Layout d 0 ts source.toList ∧ ReadsSigil ts a

/-! ## Well-formed trees -/

/-- The name is a character that passes `first`, and any that pass `rest`. -/
def IsWord (first rest : Char → Bool) (name : String) : Prop :=
  ∃ c cs, name.toList = c :: cs ∧ first c = true ∧ ∀ c ∈ cs, rest c = true

def IsIdentifier : String → Prop := IsWord startsIdentifier continuesIdentifier

def IsNumber : String → Prop := IsWord Char.isDigit Char.isDigit

/-- A string is written if it lacks one of the quotes. -/
def Literal.WellFormed : Literal → Prop
  | .string s => ∃ quote, isQuote quote = true ∧ quote ∉ s.toList
  | _ => True

mutual

inductive Sigil.WellFormed : Sigil → Prop where
  | mk {root : Node} {members : List Node} {span : Span} (hroot : root.WellFormed true)
    (hmembers : ∀ node ∈ members, Node.WellFormed false node) :
    Sigil.WellFormed (.mk root members span)

/-- The first node of a sigil has an identifier for its name, a later one may have a number. -/
inductive Node.WellFormed : (first : Bool) → Node → Prop where
  | bare {first : Bool} {name : Name} {span : Span}
    (hname : IsIdentifier name.text ∨ first = false ∧ IsNumber name.text) :
    Node.WellFormed first (.mk name none span)
  | withArgument {first : Bool} {name : Name} {a : Argument} {span : Span}
    (hname : IsIdentifier name.text ∨ first = false ∧ IsNumber name.text) (ha : a.WellFormed) :
    Node.WellFormed first (.mk name (some a) span)

inductive Argument.WellFormed : Argument → Prop where
  | sigil {s : Sigil} (h : s.WellFormed) : Argument.WellFormed (.sigil s)
  | variable {name : Name} (hname : IsIdentifier name.text) (hv : ∀ l, ¬ Keyword name.text l) :
    Argument.WellFormed (.variable name)
  | literal {l : Literal} {span : Span} (hl : l.WellFormed) : Argument.WellFormed (.literal l span)

end

/-! ## What is rendered is well-formed -/

variable {d : Delimiters} {source : String} {a : Sigil}

/-- Every token is spelled in a way of its kind (`Spelling`). -/
theorem Layout.spelling {offset : Nat} {ts : List Token} {cs : List Char}
    (h : Layout d offset ts cs) :
    ∀ t ∈ ts, Spelling d t.kind t.text := by
  induction h with
  | nil => exact nofun
  | blank _ _ ih => exact ih
  | token hs _ ih => exact List.forall_mem_cons.2 ⟨hs, ih⟩

theorem isIdentifier_of_spelling {t : Token} (hs : Spelling d t.kind t.text)
    (ht : t.kind = .identifier) :
    IsIdentifier t.name.text := by
  generalize htext : t.text = text at hs
  rw [ht] at hs
  cases hs with
  | identifier hc hcs => exact ⟨_, _, by simp [Token.name, htext], hc, hcs⟩

theorem isNumber_of_spelling {t : Token} (hs : Spelling d t.kind t.text) (ht : t.kind = .number) :
    IsNumber t.name.text := by
  generalize htext : t.text = text at hs
  rw [ht] at hs
  cases hs with
  | number hc hcs => exact ⟨_, _, by simp [Token.name, htext], hc, hcs⟩

theorem Token.NamesNode.wellFormed {first : Bool} {t : Token} (hs : Spelling d t.kind t.text)
    (ht : t.NamesNode first) :
    IsIdentifier t.name.text ∨ first = false ∧ IsNumber t.name.text :=
  ht.imp (isIdentifier_of_spelling hs) fun ⟨hfirst, ht⟩ => ⟨hfirst, isNumber_of_spelling hs ht⟩

omit [IdentifierRule] in
theorem Keyword.wellFormed {name : String} {l : Literal} (h : Keyword name l) : l.WellFormed := by
  cases h <;> trivial

theorem literal_wellFormed_of_spelling {quote : Char} {body : List Char}
    (hs : Spelling d .string (quote :: body ++ [quote])) :
    (Literal.string (String.ofList body)).WellFormed := by
  generalize htext : quote :: body ++ [quote] = text at hs
  cases hs with
  | string hq hbody =>
    obtain ⟨rfl, htail⟩ := List.cons.inj htext
    have hbodies := (List.append_inj' htail rfl).1
    exact ⟨_, hq, by simpa [hbodies] using hbody⟩

mutual

theorem wellFormed_of_readsSigil {ts : List Token} {s : Sigil} (h : ReadsSigil ts s)
    (hts : ∀ t ∈ ts, Spelling d t.kind t.text) : s.WellFormed := by
  match h with
  | .mk ho hroot hmembers hc =>
    refine .mk (wellFormed_of_readsNode hroot fun t ht => hts t ?_)
      (wellFormed_of_readsMembers hmembers fun t ht => hts t ?_)
    · simp [ht]
    · simp [ht]

theorem wellFormed_of_readsMembers {ts : List Token} {nodes : List Node} (h : ReadsMembers ts nodes)
    (hts : ∀ t ∈ ts, Spelling d t.kind t.text) : ∀ node ∈ nodes, node.WellFormed false := by
  match h with
  | .nil => exact nofun
  | .cons hd hnode hmembers =>
    refine List.forall_mem_cons.2 ⟨wellFormed_of_readsNode hnode fun t ht => hts t ?_,
      wellFormed_of_readsMembers hmembers fun t ht => hts t ?_⟩
    · simp [ht]
    · simp [ht]

theorem wellFormed_of_readsNode {first : Bool} {ts : List Token} {node : Node}
    (h : ReadsNode first ts node) (hts : ∀ t ∈ ts, Spelling d t.kind t.text) :
    node.WellFormed first := by
  match h with
  | .bare ht => exact .bare (ht.wellFormed (hts _ List.mem_cons_self))
  | .withArgument ht he ha =>
    refine .withArgument (ht.wellFormed (hts _ List.mem_cons_self))
      (wellFormed_of_readsArgument ha fun t ht => ?_)
    exact hts t (List.mem_cons_of_mem _ (List.mem_cons_of_mem _ ht))

theorem wellFormed_of_readsArgument {ts : List Token} {a : Argument} (h : ReadsArgument ts a)
    (hts : ∀ t ∈ ts, Spelling d t.kind t.text) : a.WellFormed := by
  match h with
  | .sigil hs => exact .sigil (wellFormed_of_readsSigil hs hts)
  | .variable ht hv => exact .variable (isIdentifier_of_spelling (hts _ List.mem_cons_self) ht) hv
  | .keyword ht hl => exact .literal hl.wellFormed
  | @ReadsArgument.string t quote body ht hs =>
    have hspelling : Spelling d t.kind t.text := hts t List.mem_cons_self
    rw [ht, hs] at hspelling
    exact .literal (literal_wellFormed_of_spelling hspelling)
  | .number ht hn => exact .literal trivial
  | .negative hm ht hn => exact .literal trivial

end

theorem wellFormed_of_renders (h : Renders d source a) : a.WellFormed := by
  obtain ⟨ts, hlayout, hsigil⟩ := h
  exact wellFormed_of_readsSigil hsigil hlayout.spelling

/-! ## What is well-formed is rendered -/

def Name.erase (name : Name) : Name := ⟨name.text, ⟨0, 0⟩⟩

mutual

/-- The tree without where its parts stand. -/
def Sigil.erase : Sigil → Sigil
  | .mk root members _ => .mk root.erase (eraseMembers members) ⟨0, 0⟩

def eraseMembers : List Node → List Node
  | [] => []
  | node :: nodes => node.erase :: eraseMembers nodes

def Node.erase : Node → Node
  | .mk name a _ => .mk name.erase (eraseOption a) ⟨0, 0⟩

def eraseOption : Option Argument → Option Argument
  | none => none
  | some a => some a.erase

def Argument.erase : Argument → Argument
  | .sigil s => .sigil s.erase
  | .variable name => .variable name.erase
  | .literal l _ => .literal l ⟨0, 0⟩

end

theorem IsIdentifier.spelling {name : String} (h : IsIdentifier name) :
    Spelling d .identifier name.toList := by
  obtain ⟨c, cs, heq, hc, hcs⟩ := h
  rw [heq]
  exact .identifier hc hcs

/-- Letters make an identifier. -/
theorem isIdentifier_of_isAlpha {name : String} {c : Char} {cs : List Char}
    (hname : name.toList = c :: cs) (h : (c :: cs).all Char.isAlpha = true) :
    IsIdentifier name := by
  obtain ⟨hc, hcs⟩ := List.forall_mem_cons.1 (List.all_eq_true.1 h)
  refine ⟨c, cs, hname, startsIdentifier_of_isAlpha hc, fun c' hc' => ?_⟩
  exact continuesIdentifier_of_startsIdentifier (startsIdentifier_of_isAlpha (hcs c' hc'))

theorem IsNumber.spelling {name : String} (h : IsNumber name) : Spelling d .number name.toList := by
  obtain ⟨c, cs, heq, hc, hcs⟩ := h
  rw [heq]
  exact .number hc hcs

omit [IdentifierRule] in
theorem Token.erase_name (kind : TokenKind) (offset : Nat) (name : Name) :
    (Token.name ⟨kind, offset, name.text.toList⟩).erase = name.erase := by
  simp [Token.name, Name.erase]

theorem exists_name (d : Delimiters) {first : Bool} {name : Name} (offset : Nat)
    (h : IsIdentifier name.text ∨ first = false ∧ IsNumber name.text) :
    ∃ kind, Spelling d kind name.text.toList ∧
    Token.NamesNode first ⟨kind, offset, name.text.toList⟩ := by
  rcases h with h | ⟨hfirst, h⟩
  · exact ⟨.identifier, h.spelling, .inl rfl⟩
  · exact ⟨.number, h.spelling, .inr ⟨hfirst, rfl⟩⟩

theorem spelling_of_isDigit {cs : List Char} (hne : cs ≠ []) (hcs : ∀ c ∈ cs, c.isDigit = true) :
    Spelling d .number cs := by
  obtain ⟨c, cs, rfl⟩ := List.exists_cons_of_ne_nil hne
  obtain ⟨hc, hcs⟩ := List.forall_mem_cons.1 hcs
  exact .number hc hcs

theorem spelling_toDigits (d : Delimiters) (n : Nat) : Spelling d .number (Nat.toDigits 10 n) :=
  spelling_of_isDigit Nat.toDigits_ne_nil fun _ hc =>
    Nat.isDigit_of_mem_toDigits (by decide) (by decide) hc

/-- An integer is written as its digits, after a minus sign if it is negative. -/
theorem exists_integer (d : Delimiters) (n : Int64) (offset : Nat) :
    ∃ ts span, Layout d offset ts (Number.writeInteger n.toInt) ∧
    ReadsArgument ts (.literal (.integer n) span) := by
  have hspelling := spelling_toDigits d n.toInt.natAbs
  have hvalue : digitsValue (Nat.toDigits 10 n.toInt.natAbs) = (n.toInt.natAbs : Int) :=
    congrArg Nat.cast Nat.ofDigitChars_ten_toDigits
  unfold Number.writeInteger
  split
  · next hneg =>
    have hn : n.toInt = -digitsValue (Nat.toDigits 10 n.toInt.natAbs) := by
      rw [hvalue]
      omega
    exact ⟨_, _, .token .minus (.single hspelling), .negative rfl rfl hn⟩
  · next hneg =>
    have hn : n.toInt = digitsValue (Nat.toDigits 10 n.toInt.natAbs) := by
      rw [hvalue]
      omega
    exact ⟨_, _, .single hspelling, .number rfl hn⟩

theorem exists_literal (d : Delimiters) {l : Literal} (h : l.WellFormed) (offset : Nat) :
    ∃ ts cs span, Layout d offset ts cs ∧ ReadsArgument ts (.literal l span) := by
  have hkeyword {name : String} (hn : IsIdentifier name) (hk : Keyword name l) :
      ∃ ts cs span, Layout d offset ts cs ∧ ReadsArgument ts (.literal l span) :=
    ⟨_, _, _, .single hn.spelling, .keyword rfl (by simpa [Token.name] using hk)⟩
  cases l with
  | null => exact hkeyword (isIdentifier_of_isAlpha rfl rfl) .null
  | bool b =>
    cases b with
    | false => exact hkeyword (isIdentifier_of_isAlpha rfl rfl) .false
    | true => exact hkeyword (isIdentifier_of_isAlpha rfl rfl) .true
  | string s =>
    obtain ⟨quote, hq, hbody⟩ := h
    have hread := ReadsArgument.string (t :=
      ⟨.string, offset, quote :: s.toList ++ [quote]⟩) rfl rfl
    rw [String.ofList_toList] at hread
    exact ⟨_, _, _, .single (.string hq hbody), hread⟩
  | integer n =>
    obtain ⟨ts, span, hlayout, hread⟩ := exists_integer d n offset
    exact ⟨ts, _, span, hlayout, hread⟩

theorem exists_members {nodes : List Node}
    (h : ∀ node ∈ nodes, ∀ offset, ∃ ts cs node', Layout d offset ts cs ∧ ReadsNode false ts node' ∧
      node'.erase = node.erase)
    (offset : Nat) :
    ∃ ts cs nodes', Layout d offset ts cs ∧ ReadsMembers ts nodes' ∧
      eraseMembers nodes' = eraseMembers nodes := by
  induction nodes generalizing offset with
  | nil => exact ⟨_, _, _, .nil, .nil, rfl⟩
  | cons node nodes ih =>
    obtain ⟨ts, cs, node', hlayout, hnode, herase⟩ :=
      h node List.mem_cons_self (offset + byteLength ['.'])
    obtain ⟨us, ds, nodes', hlayout', hmembers, herase'⟩ :=
      ih (fun node' hnode' => h node' (List.mem_cons_of_mem _ hnode'))
        (offset + byteLength ['.'] + byteLength cs)
    refine ⟨_, _, node' :: nodes', .token .dot (hlayout.append hlayout'),
      .cons rfl hnode hmembers, ?_⟩
    rw [eraseMembers, eraseMembers, herase, herase']

mutual

/-- A well-formed tree is written at any place of a source. -/
theorem exists_sigil {s : Sigil} (h : s.WellFormed) (offset : Nat) :
    ∃ ts cs a, Layout d offset ts cs ∧ ReadsSigil ts a ∧ a.erase = s.erase := by
  match h with
  | @Sigil.WellFormed.mk _ root members span hroot hmembers =>
    obtain ⟨ts, cs, root', hlayout, hroot', herase⟩ :=
      exists_node hroot (offset + byteLength d.opening)
    obtain ⟨us, ds, members', hlayout', hmembers', herase'⟩ :=
      exists_members (fun node hnode => exists_node (hmembers node hnode))
        (offset + byteLength d.opening + byteLength cs)
    have hclosing := hlayout.append (hlayout'.append (.single .closing))
    rw [← List.append_assoc] at hclosing
    refine ⟨_, _, _, .token .opening hclosing, .mk rfl hroot' hmembers' rfl, ?_⟩
    rw [Sigil.erase, Sigil.erase, herase, herase']

theorem exists_node {first : Bool} {node : Node} (h : node.WellFormed first) (offset : Nat) :
    ∃ ts cs node', Layout d offset ts cs ∧ ReadsNode first ts node' ∧ node'.erase = node.erase := by
  match h with
  | @Node.WellFormed.bare _ first name span hname =>
    obtain ⟨kind, hs, hnames⟩ := exists_name d offset hname
    refine ⟨_, _, _, .single hs, .bare hnames, ?_⟩
    rw [Node.bare, Node.erase, Node.erase, Token.erase_name, eraseOption]
  | @Node.WellFormed.withArgument _ first name a span hname ha =>
    obtain ⟨kind, hs, hnames⟩ := exists_name d offset hname
    obtain ⟨ts, cs, a', hlayout, ha', herase⟩ :=
      exists_argument ha (offset + byteLength name.text.toList + byteLength ['='])
    refine ⟨_, _, _, .token hs (.token .equals hlayout), .withArgument hnames rfl ha', ?_⟩
    rw [Node.withArgument, Node.erase, Node.erase, Token.erase_name, eraseOption,
      eraseOption, herase]

theorem exists_argument {a : Argument} (h : a.WellFormed) (offset : Nat) :
    ∃ ts cs a', Layout d offset ts cs ∧ ReadsArgument ts a' ∧ a'.erase = a.erase := by
  match h with
  | .sigil h =>
    obtain ⟨ts, cs, s, hlayout, hsigil, herase⟩ := exists_sigil h offset
    exact ⟨ts, cs, _, hlayout, .sigil hsigil, congrArg Argument.sigil herase⟩
  | @Argument.WellFormed.variable _ name hname hv =>
    refine ⟨_, _, _, .single hname.spelling, .variable rfl (by simpa [Token.name] using hv), ?_⟩
    rw [Argument.erase, Argument.erase, Token.erase_name]
  | @Argument.WellFormed.literal _ l span hl =>
    obtain ⟨ts, cs, span', hlayout, hread⟩ := exists_literal d hl offset
    exact ⟨ts, cs, _, hlayout, hread, rfl⟩

end

/-- **Every well-formed tree is rendered** by a source, up to where its parts stand
(`Sigil.erase`). -/
theorem exists_renders (d : Delimiters) {s : Sigil} (h : s.WellFormed) :
    ∃ source a, Renders d source a ∧ a.erase = s.erase := by
  obtain ⟨ts, cs, a, hlayout, hsigil, herase⟩ := exists_sigil (d := d) h 0
  refine ⟨String.ofList cs, a, ⟨ts, ?_, hsigil⟩, herase⟩
  rwa [String.toList_ofList]

end Interpolation
