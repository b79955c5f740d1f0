import Interpolation.Proofs.Sigil.Reading
import Interpolation.Proofs.Sigil.Rendering

/-!
# Parsing and the grammar

Whatever is parsed is rendered by its source (`renders_of_parse`), and between clean delimiters
whatever a source renders is parsed from it (`parse_of_renders`). So a source renders one tree at
most, and parsing a source that renders none is refused as not in the grammar (`parse_iff_renders`).
-/

namespace Interpolation

open Text

variable {d : Delimiters} {source : String} {a b : Sigil}

/-! ## What is made of the tokens -/

theorem finish_eq_ok {r : Reading} : r.finish = .ok a ↔ r = .done a := by
  cases r with
  | start => simp [Reading.finish]
  | done s => simp [Reading.finish]
  | inside outer sigil progress => cases progress <;> simp [Reading.finish]

section
variable {lexed : Lexed} {length : Nat} {r : Reading} {m : Misread}

theorem sigil_of_misread (h : lexed.words.foldlM Reading.step .start = .error m) :
    lexed.sigil length = .error m := by
  change (lexed.words.foldlM Reading.step .start >>= _) = _
  rw [h]
  rfl

theorem sigil_of_fault (h : lexed.words.foldlM Reading.step .start = .ok r)
    (hf : lexed.fault = some m) :
    lexed.sigil length = .error m := by
  change (lexed.words.foldlM Reading.step .start >>= _) = _
  rw [h, hf]
  rfl

theorem sigil_of_reading (h : lexed.words.foldlM Reading.step .start = .ok r)
    (hf : lexed.fault = none) :
    lexed.sigil length = r.finish.mapError fun expected =>
      (.unexpected expected none, ⟨length, length⟩) := by
  change (lexed.words.foldlM Reading.step .start >>= _) = _
  rw [h, hf]
  rfl

/-- A sigil is read from tokens exactly if the reader gets to `done` and nothing is wrong after
it. -/
theorem sigil_eq_ok :
    lexed.sigil length = .ok a ↔ lexed.words.foldlM Reading.step .start = .ok (.done a) ∧
    lexed.fault = none := by
  cases hrun : lexed.words.foldlM Reading.step .start with
  | error m => simp [sigil_of_misread hrun]
  | ok r =>
    cases hf : lexed.fault with
    | some m => simp [sigil_of_fault hrun hf]
    | none =>
      rw [sigil_of_reading hrun hf]
      cases hr : r.finish with
      | error expected =>
        have hne : r ≠ .done a := fun h => by simp [finish_eq_ok.2 h] at hr
        simp [Except.mapError, hne]
      | ok s => simp [Except.mapError, finish_eq_ok.1 hr]

end

/-- How a token is refused: for what it is, or for the number that it makes with the minus sign
before it. -/
inductive Reading.Refuses : Reading → Token → Misread → Prop where
  | token {r : Reading} {t : Token} {fault : Fault} (hk : fault.kind = .parse) :
    Refuses r t (fault, t.span)
  | negative {outer : List (Opened × Name)} {sigil : Opened} {name : Name} {minus : Span}
    {t : Token} {fault : Fault} (hk : fault.kind = .parse) :
    Refuses (.inside outer sigil (.negated name minus)) t (fault, minus.join t.span)

theorem Reading.Refuses.kind {r : Reading} {t : Token} {m : Misread} (h : r.Refuses t m) :
    m.1.kind = .parse := by
  cases h with
  | token hk => exact hk
  | negative hk => exact hk

theorem eq_of_readLiteral {negative : Bool} {digits : List Char} {span : Span}
    {f : Argument → Reading} {m : Misread}
    (h : (readLiteral negative digits span).map f = .error m) :
    m = (.integerLiteralRange, span) := by
  unfold readLiteral at h
  split at h
  · cases h
  · cases h
    rfl

theorem refuses_of_step {r : Reading} {t : Token} {m : Misread} (h : r.step t = .error m) :
    r.Refuses t m := by
  have hafter {r : Reading} {outer : List (Opened × Name)} {sigil : Opened} {node : Node}
      (h : Reading.afterNode outer sigil node t = .error m) : r.Refuses t m := by
    unfold Reading.afterNode at h
    split at h
    · cases h
    · split at h <;> cases h
    · cases h
      exact .token rfl
  have hite {p : Prop} [Decidable p] {r r' : Reading} {expected : Expectation}
      (h : (if p then Except.ok r' else .error (t.refuse expected)) = .error m) :
      r.Refuses t m := by
    split at h
    · cases h
    · cases h
      exact .token rfl
  cases r with
  | start => exact hite h
  | done =>
    cases h
    exact .token rfl
  | inside outer sigil progress =>
    cases progress with
    | root => exact hite h
    | member => exact hite h
    | named name =>
      rw [Reading.step] at h
      split at h
      · cases h
      · exact hafter h
    | assigned name =>
      rw [Reading.step, Reading.argument] at h
      dsimp only at h
      split at h
      · cases h
      · cases h
      · cases eq_of_readLiteral h
        exact .token rfl
      · cases h
      · split at h <;> cases h
      · cases h
        exact .token rfl
    | negated name minus =>
      rw [Reading.step] at h
      split at h
      · cases eq_of_readLiteral h
        exact .negative rfl
      · cases h
        exact .token rfl
    | complete node => exact hafter h

/-- A run that fails gets as far as a token that is refused. -/
theorem exists_refuses_of_run {ts : List Token} {r : Reading} {m : Misread}
    (h : ts.foldlM Reading.step r = .error m) :
    ∃ before t after r', ts = before ++ t :: after ∧ before.foldlM Reading.step r = .ok r' ∧
    r'.Refuses t m := by
  induction ts generalizing r with
  | nil => cases h
  | cons t ts ih =>
    rw [List.foldlM_cons] at h
    cases hs : r.step t with
    | error m' =>
      rw [hs] at h
      cases h
      exact ⟨[], t, ts, r, rfl, rfl, refuses_of_step hs⟩
    | ok r₁ =>
      rw [hs] at h
      obtain ⟨before, t', after, r', rfl, hrun, hrefuses⟩ := ih h
      refine ⟨t :: before, t', after, r', rfl, ?_, hrefuses⟩
      rw [List.foldlM_cons, hs]
      exact hrun

/-- What is wrong with tokens that are no sigil: one of them, what comes after them, or that nothing
does. -/
theorem sigil_eq_error {lexed : Lexed} {length : Nat} {m : Misread}
    (h : lexed.sigil length = .error m) :
    lexed.words.foldlM Reading.step .start = .error m ∨ lexed.fault = some m ∨
      ∃ expected, m = (.unexpected expected none, ⟨length, length⟩) := by
  cases hrun : lexed.words.foldlM Reading.step .start with
  | error m' =>
    cases h.symm.trans (sigil_of_misread hrun)
    exact .inl rfl
  | ok r =>
    cases hf : lexed.fault with
    | some m' =>
      cases h.symm.trans (sigil_of_fault hrun hf)
      exact .inr (.inl rfl)
    | none =>
      rw [sigil_of_reading hrun hf] at h
      cases hr : r.finish with
      | error expected =>
        rw [hr] at h
        cases h
        exact .inr (.inr ⟨expected, rfl⟩)
      | ok s =>
        rw [hr] at h
        cases h

/-! ## What is made of a source -/

section
variable [IdentifierRule]

theorem Layout.quoted {offset : Nat} {ts : List Token} {cs : List Char}
    (h : Layout d offset ts cs) :
    ∀ t ∈ ts, t.Quoted := by
  intro t hmem ht
  have hs := h.spelling t hmem
  generalize t.text = text at hs
  rw [ht] at hs
  cases hs with
  | string hq hbody => exact ⟨_, _, rfl⟩

theorem quoted_of_lexeme {c : Char} {cs text rest : List Char} {kind : TokenKind} {offset : Nat}
    (h : d.lexeme c cs = .token kind text rest) : Token.Quoted ⟨kind, offset, text⟩ := by
  rintro rfl
  rcases spelling_of_lexeme h with ⟨hk, -⟩ | ⟨-, hs⟩
  · cases hk
  · cases hs
    exact ⟨_, _, rfl⟩

theorem parse_eq_ok : d.parse source = .ok a ↔
    (d.lexFrom 0 source.toList).words.foldlM Reading.step .start = .ok (.done a) ∧
      (d.lexFrom 0 source.toList).fault = none := by
  have h : (d.lexFrom 0 source.toList).sigil (byteLength source.toList) = .ok a ↔ _ := sigil_eq_ok
  rw [← h, Delimiters.parse, Delimiters.lex]
  cases (d.lexFrom 0 source.toList).sigil (byteLength source.toList) <;> simp [Except.mapError]

theorem reads_of_parse (h : d.parse source = .ok a) :
    Layout d 0 (d.lex source).words source.toList ∧ ReadsSigil (d.lex source).words a := by
  obtain ⟨hrun, hfault⟩ := parse_eq_ok.1 h
  have hlayout := layout_of_lexFrom hfault
  have hread := Reading.ReadsReading.start.run hlayout.quoted hrun
  rw [Delimiters.lex]
  generalize (d.lexFrom 0 source.toList).words = ts at hlayout hread
  cases hread with
  | done hsigil => exact ⟨hlayout, hsigil⟩

theorem renders_of_parse (h : d.parse source = .ok a) : Renders d source a := ⟨_, reads_of_parse h⟩

theorem parse_of_renders (hd : d.Clean) (h : Renders d source a) : d.parse source = .ok a := by
  obtain ⟨ts, hlayout, hsigil⟩ := h
  have hrun : ts.foldlM Reading.step .start = .ok (.done a) := Reading.run_sigil hsigil _ _ .start
  obtain ⟨hwords, hfault⟩ := lexFrom_of_layout hd hlayout
    (Reading.isChain_of_run hlayout.quoted hrun)
  exact parse_eq_ok.2 ⟨hwords ▸ hrun, hfault⟩

/-- What is at fault stands at the beginning. -/
theorem fault_of_lexeme {c : Char} {cs text : List Char} {fault : Fault}
    (h : d.lexeme c cs = .fault fault text) :
    fault.kind = .parse ∧ text <+: c :: cs := by
  have hquoted (h : Lexeme.quoted c cs = .fault fault text) :
      fault.kind = .parse ∧ text <+: c :: cs := by
    unfold Lexeme.quoted at h
    split at h
    · cases h
      exact ⟨rfl, List.prefix_rfl⟩
    · exact Lexeme.noConfusion h
  unfold Delimiters.lexeme at h
  split at h
  · exact Lexeme.noConfusion h
  split at h
  · exact Lexeme.noConfusion h
  repeat' split at h
  all_goals first
    | exact hquoted h
    | exact Lexeme.noConfusion h
    | (cases h; exact ⟨rfl, cs, rfl⟩)

theorem kind_of_lexFrom {offset : Nat} {cs : List Char} {m : Misread}
    (h : (d.lexFrom offset cs).fault = some m) :
    m.1.kind = .parse := by
  fun_induction Delimiters.lexFrom d offset cs with
  | case1 => cases h
  | case2 offset c cs fault text hl =>
    cases h
    exact (fault_of_lexeme hl).1
  | case3 offset c cs kind text rest hl _ lexed ih => exact ih h

theorem parse_eq_error {err : Error} (h : d.parse source = .error err) :
    ∃ m, (d.lex source).sigil (byteLength source.toList) = .error m ∧
      err = (Error.of m.1).locate source m.2 := by
  unfold Delimiters.parse at h
  cases hs : (d.lex source).sigil (byteLength source.toList) with
  | ok a =>
    rw [hs] at h
    cases h
  | error m =>
    rw [hs] at h
    cases h
    exact ⟨m, rfl, rfl⟩

/-- A source is refused as not in the grammar, for whatever reason. -/
theorem kind_of_parse {err : Error} (h : d.parse source = .error err) : err.kind = .parse := by
  have hlocate {m : Misread} : ((Error.of m.1).locate source m.2).kind = m.1.kind := by
    unfold Error.locate
    split <;> rfl
  obtain ⟨m, hs, rfl⟩ := parse_eq_error h
  rw [hlocate]
  rcases sigil_eq_error hs with hrun | hfault | ⟨expected, rfl⟩
  · obtain ⟨_, _, _, _, _, _, hrefuses⟩ := exists_refuses_of_run hrun
    exact hrefuses.kind
  · exact kind_of_lexFrom hfault
  · rfl

/-- **Parsing accepts the grammar, and nothing else.** Between clean delimiters a source is parsed
to a tree exactly if it `Renders` the tree, no source renders two trees, and every source that
renders none is a parse error. The trees that are rendered are the well-formed ones. So it is for
any `IdentifierRule`. -/
theorem parse_iff_renders (hd : d.Clean) :
    (∀ source a, d.parse source = .ok a ↔ Renders d source a) ∧
    (∀ source a b, Renders d source a → Renders d source b → a = b) ∧
    (∀ source, (∀ a, ¬ Renders d source a) → ∃ err, d.parse source = .error err ∧
      err.kind = .parse) ∧
    (∀ source a, Renders d source a → a.WellFormed) ∧
    ∀ s : Sigil, s.WellFormed → ∃ source a, Renders d source a ∧ a.erase = s.erase := by
  refine ⟨fun source a => ⟨renders_of_parse, parse_of_renders hd⟩, fun source a b ha hb => ?_,
    fun source h => ?_,
    fun source a => wellFormed_of_renders, fun s => exists_renders d⟩
  · exact Except.ok.inj ((parse_of_renders hd ha).symm.trans (parse_of_renders hd hb))
  · cases hp : d.parse source with
    | ok a => exact absurd (renders_of_parse hp) (h a)
    | error err => exact ⟨err, rfl, kind_of_parse hp⟩

end

/-- A chain with a blank, an index and a negative number. -/
theorem parse_iff_renders_index : Delimiters.square.Clean ∧
    Delimiters.square.parse "[A .0=-7]" =
      .ok (.mk (.bare ⟨"A", ⟨1, 2⟩⟩)
        [.withArgument ⟨"0", ⟨4, 5⟩⟩ (.literal (.integer (-7)) ⟨6, 8⟩)] ⟨0, 9⟩) := by
  refine ⟨Delimiters.square_clean, ((parse_iff_renders Delimiters.square_clean).1 _ _).2
    ⟨[⟨.opening, 0, ['[']⟩, ⟨.identifier, 1, ['A']⟩, ⟨.dot, 3, ['.']⟩, ⟨.number, 4, ['0']⟩,
      ⟨.equals, 5, ['=']⟩, ⟨.minus, 6, ['-']⟩, ⟨.number, 7, ['7']⟩, ⟨.closing, 8, [']']⟩],
      ?_, ?_⟩⟩
  · exact .token .opening <| .token (.identifier (by decide) nofun) <| .blank rfl <| .token .dot <|
      .token (.number (by decide) nofun) <| .token .equals <| .token .minus <|
      .token (.number (by decide) nofun) <| .token .closing .nil
  · have hargument : ReadsArgument [⟨.minus, 6, ['-']⟩, ⟨.number, 7, ['7']⟩]
        (.literal (.integer (-7)) ⟨6, 8⟩) :=
      .negative rfl rfl (by decide)
    exact .mk rfl (.bare (.inl rfl)) (.cons rfl
      (.withArgument (.inr ⟨rfl, rfl⟩) rfl hargument) .nil) rfl

end Interpolation
