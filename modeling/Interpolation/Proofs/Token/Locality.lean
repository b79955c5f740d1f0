import Interpolation.Proofs.Extraction.Pieces
import Interpolation.Proofs.Text.Regions
import Interpolation.Proofs.Token.Cutting
import Interpolation.Proofs.Token.Separation

/-!
# Tokens are cut off locally

Tokens are cut off a part of a source as they are off all of it. A lexeme looks ahead, for a
delimiter or for the end of a run, but what it does not see in a source it does not see in one that
ends earlier (`lexeme_of_shorter`). So whatever the delimiters are, also if they can be taken for
something else, a part of a source that tokens take up is cut into these tokens (`lexFrom_cut`), and
at another offset into the same ones there (`lexFrom_moveBack`). Hence a part that begins and ends
with words has the words that the source has there (`lex_words`).
-/

namespace Interpolation

open Text

variable {d : Delimiters} {offset : Nat} {c : Char} {cs text rest : List Char} {kind : TokenKind}

/-! ## Lexemes -/

/-- What the function makes of a source that begins with `c`, it makes of each that ends earlier as
well, but not within the token. -/
structure Lexeme.Local (c : Char) (f : List Char → Lexeme) : Prop where
  shorter : ∀ {cs text rest rest' : List Char} {kind : TokenKind},
    f cs = .token kind (c :: text) rest → rest' <+: rest →
    f (text ++ rest') = .token kind (c :: text) rest'

namespace Lexeme.Local

theorem fault (fault : Fault) : Local c fun _ => .fault fault [c] := ⟨nofun⟩

theorem single (kind : TokenKind) : Local c fun cs => .token kind [c] cs where
  shorter h _ := by
    cases h
    rfl

theorem run (kind : TokenKind) (p : Char → Bool) : Local c (.run kind p c) where
  shorter {cs _ _ rest' _} h hp := by
    cases h
    refine run_append of_mem_takeWhile fun c' hc' => ?_
    obtain ⟨more, hmore⟩ := hp
    have hfirst : c' ∈ (cs.dropWhile p).head? := by
      rw [← hmore]
      exact List.mem_head?_append_of_mem_head? hc'
    have hends := List.head?_dropWhile_not p cs
    rw [hfirst] at hends
    exact hends

theorem quoted : Local c (.quoted c) where
  shorter {cs _ _ rest' _} h hp := by
    unfold Lexeme.quoted at h
    split at h
    · cases h
    · cases h
      have hbody : c ∉ cs.takeWhile (· ≠ c) :=
        fun hmem => of_decide_eq_true (of_mem_takeWhile c hmem) rfl
      change Lexeme.quoted c (cs.takeWhile (· ≠ c) ++ [c] ++ rest') = _
      rw [List.append_assoc]
      exact quoted_append hbody

theorem ite {p : Prop} [Decidable p] {f g : List Char → Lexeme} (hf : Local c f) (hg : Local c g) :
    Local c fun cs => if p then f cs else g cs := by
  by_cases hp : p
  · simpa only [if_pos hp] using hf
  · simpa only [if_neg hp] using hg

end Lexeme.Local

variable [IdentifierRule]

/-- **A token that `lexeme` cuts off a source is cut off each that ends earlier**, but not within
the token. -/
theorem lexeme_of_shorter {rest' : List Char} (h : d.lexeme c cs = .token kind text rest)
    (hp : rest' <+: rest) :
    ∃ cs', text ++ rest' = c :: cs' ∧ d.lexeme c cs' = .token kind text rest' := by
  obtain ⟨heq, hne⟩ := Delimiters.eq_of_lexeme h
  obtain ⟨c', text, rfl⟩ := List.exists_cons_of_ne_nil hne
  obtain ⟨rfl, rfl⟩ := List.cons.inj heq
  have hshort : c :: (text ++ rest') <+: c :: (text ++ rest) :=
    (List.prefix_append_right_inj (c :: text)).2 hp
  refine ⟨text ++ rest', rfl, ?_⟩
  unfold Delimiters.lexeme at h ⊢
  split at h
  · obtain ⟨rfl, htext, -⟩ := Lexeme.token.inj h
    rw [← List.cons_append, ← htext, stripStart?_append]
  next ho =>
    rw [Delimiters.stripStart?_eq_none_of_shorter ho hshort]
    split at h
    · obtain ⟨rfl, htext, -⟩ := Lexeme.token.inj h
      rw [← List.cons_append, ← htext, stripStart?_append]
    next hc =>
      rw [Delimiters.stripStart?_eq_none_of_shorter hc hshort]
      have hlocal : Lexeme.Local c fun cs =>
          if c = '.' then .token .dot [c] cs
          else if c = '=' then .token .equals [c] cs
          else if c = '-' then .token .minus [c] cs
          else if isQuote c then .quoted c cs
          else if c.isDigit then .run .number Char.isDigit c cs
          else if isTokenBlank c then .run .blank isTokenBlank c cs
          else if startsIdentifier c then .run .identifier continuesIdentifier c cs
          else .fault .unexpectedCharacter [c] :=
        .ite (.single _) <| .ite (.single _) <| .ite (.single _) <| .ite .quoted <|
          .ite (.run ..) <| .ite (.run ..) <| .ite (.run ..) <| .fault _
      exact hlocal.shorter h hp

/-! ## Tokens -/

theorem lexFrom_of_fault {fault : Fault} (h : d.lexeme c cs = .fault fault text) :
    d.lexFrom offset (c :: cs) = ⟨[], some (fault, ⟨offset, offset + byteLength text⟩)⟩ := by
  rw [Delimiters.lexFrom]
  split
  · next hl =>
    cases h.symm.trans hl
    rfl
  · next hl => cases h.symm.trans hl

/-- The text that tokens take up. -/
def tokensText (ts : List Token) : List Char := ts.flatMap Token.text

/-- **A source is cut between two tokens into a part with the ones before and a part with the
others.** -/
theorem lexFrom_cut {ts us : List Token} (h : (d.lexFrom offset cs).tokens = ts ++ us) :
    ∃ rest, cs = tokensText ts ++ rest ∧ d.lexFrom offset (tokensText ts) = ⟨ts, none⟩ ∧
      d.lexFrom (offset + byteLength (tokensText ts)) rest = ⟨us, (d.lexFrom offset cs).fault⟩ := by
  induction ts generalizing offset cs with
  | nil =>
    refine ⟨cs, rfl, by rw [tokensText, List.flatMap_nil, Delimiters.lexFrom], ?_⟩
    rw [← List.nil_append us, ← h]
    rfl
  | cons t ts ih =>
    cases cs with
    | nil =>
      rw [Delimiters.lexFrom] at h
      cases h
    | cons c cs =>
      cases hl : d.lexeme c cs with
      | fault fault text =>
        rw [lexFrom_of_fault hl] at h
        cases h
      | token kind text rest =>
        rw [lexFrom_of_lexeme hl] at h
        obtain ⟨rfl, htail⟩ := List.cons.inj h
        obtain ⟨rest', hrest, hts, hus⟩ := ih htail
        obtain ⟨cs', hcs, hl'⟩ := lexeme_of_shorter hl (hrest ▸ List.prefix_append ..)
        refine ⟨rest', ?_, ?_, ?_⟩
        · rw [(Delimiters.eq_of_lexeme hl).1, hrest, ← List.append_assoc]
          rfl
        · change d.lexFrom offset (text ++ tokensText ts) = _
          rw [hcs, lexFrom_of_lexeme hl', hts]
        · change d.lexFrom (offset + byteLength (text ++ tokensText ts)) rest' = _
          rw [byteLength_append, ← Nat.add_assoc, hus, lexFrom_of_lexeme hl]

/-- The token as seen from a text in which it starts `offset` bytes earlier. -/
def Token.moveBack (offset : Nat) (t : Token) : Token := { t with start := t.start - offset }

/-- At an earlier offset a source is cut into the same tokens, moved to there (`Token.moveBack`). -/
theorem lexFrom_moveBack {k : Nat} (hk : k ≤ offset) {ts : List Token}
    (h : d.lexFrom offset cs = ⟨ts, none⟩) :
    d.lexFrom (offset - k) cs = ⟨ts.map (Token.moveBack k), none⟩ := by
  fun_induction Delimiters.lexFrom d offset cs generalizing ts with
  | case1 =>
    cases h
    rw [Delimiters.lexFrom]
    rfl
  | case2 => cases h
  | case3 offset c cs kind text rest hl _ lexed ih =>
    obtain ⟨rfl, hfault⟩ := Lexed.mk.inj h
    have hrest := ih (Nat.le_trans hk (Nat.le_add_right ..))
      (congrArg (Lexed.mk lexed.tokens) hfault)
    rw [lexFrom_of_lexeme hl, ← Nat.sub_add_comm hk, hrest]
    rfl

/-- The first token stands where the source begins. -/
theorem start_of_lexFrom {t : Token} {ts : List Token} {fault : Option (Fault × Span)}
    (h : d.lexFrom offset cs = ⟨t :: ts, fault⟩) : t.start = offset := by
  cases cs with
  | nil =>
    rw [Delimiters.lexFrom] at h
    cases h
  | cons c cs =>
    cases hl : d.lexeme c cs with
    | fault fault text =>
      rw [lexFrom_of_fault hl] at h
      cases h
    | token kind text rest =>
      rw [lexFrom_of_lexeme hl] at h
      cases h
      rfl

/-- Every other token stands after the text of those before. -/
theorem start_eq_of_lexFrom {t : Token} {before after : List Token}
    (h : (d.lexFrom offset cs).tokens = before ++ t :: after) :
    t.start = offset + byteLength (tokensText before) := by
  obtain ⟨rest, -, -, hrest⟩ := lexFrom_cut h
  exact start_of_lexFrom hrest

/-- **The text that some of the tokens of a source take up (`tokensText`) is cut into these
tokens.** -/
theorem lex_part {source : String} {before ts after : List Token}
    (h : (d.lex source).tokens = before ++ (ts ++ after)) :
    ∃ rest, source.toList = tokensText before ++ (tokensText ts ++ rest) ∧
      d.lexFrom (byteLength (tokensText before)) (tokensText ts) = ⟨ts, none⟩ ∧
      d.lex (String.ofList (tokensText ts)) =
        ⟨ts.map (Token.moveBack (byteLength (tokensText before))), none⟩ := by
  obtain ⟨rest, hsource, -, hrest⟩ := lexFrom_cut h
  obtain ⟨rest', rfl, hts, -⟩ := lexFrom_cut (congrArg Lexed.tokens hrest)
  rw [Nat.zero_add] at hts
  have hmoved := lexFrom_moveBack (Nat.le_refl _) hts
  rw [Nat.sub_self] at hmoved
  exact ⟨rest', hsource, hts, by rwa [Delimiters.lex, String.toList_ofList]⟩

/-- A token of a source is a slice of it, and alone it is that token. -/
theorem lex_token {source : String} {t : Token} (h : t ∈ (d.lex source).tokens) :
    slice? t.span.start t.span.stop source.toList = some t.text ∧
      d.lex (String.ofList t.text) = ⟨[⟨t.kind, 0, t.text⟩], none⟩ := by
  obtain ⟨before, after, htokens⟩ := List.append_of_mem h
  have hstart : t.start = 0 + byteLength (tokensText before) := start_eq_of_lexFrom htokens
  have hsplit : (d.lex source).tokens = before ++ ([t] ++ after) := htokens
  obtain ⟨rest, hsource, -, hlex⟩ := lex_part hsplit
  rw [Nat.zero_add] at hstart
  have htext : tokensText [t] = t.text := List.flatMap_singleton ..
  rw [htext] at hsource hlex
  constructor
  · have hslice := slice?_append (tokensText before) t.text rest
    rwa [byteLength_append, ← hstart, List.append_assoc, ← hsource] at hslice
  · rw [hlex, List.map_singleton, Token.moveBack, hstart, Nat.sub_self]

/-! ## Words -/

omit [IdentifierRule] in
/-- Words that follow each other are left of a run of tokens that begins and ends as they do. -/
theorem Lexed.exists_tokens {lexed : Lexed} {us ts vs : List Token} {first last : Token}
    (h : lexed.words = us ++ (first :: (ts ++ [last]) ++ vs)) :
    ∃ before between after, lexed.tokens = before ++ (first :: (between ++ [last]) ++ after) ∧
      Lexed.words ⟨first :: (between ++ [last]), none⟩ = first :: (ts ++ [last]) := by
  rw [words, List.filter_eq_append_iff] at h
  obtain ⟨us', tokens, htokens, -, h⟩ := h
  rw [List.cons_append, List.filter_eq_cons_iff] at h
  obtain ⟨blanks, tokens', rfl, -, hfirst, h⟩ := h
  rw [List.append_assoc, List.filter_eq_append_iff] at h
  obtain ⟨ts', tokens', rfl, hts, h⟩ := h
  rw [List.singleton_append, List.filter_eq_cons_iff] at h
  obtain ⟨blanks', vs', rfl, hblanks, hlast, -⟩ := h
  refine ⟨us' ++ blanks, ts' ++ blanks', vs', by simp [htokens], ?_⟩
  simp only [words, List.filter_cons, List.filter_append, hfirst, hlast, hts,
    List.filter_eq_nil_iff.2 hblanks,
    List.filter_nil, if_true, List.append_nil]

omit [IdentifierRule] in
theorem Lexed.words_moveBack (k : Nat) (ts : List Token) :
    words ⟨ts.map (Token.moveBack k), none⟩ =
      (words ⟨ts, none⟩).map (Token.moveBack k) := List.filter_map

/-- **The words of a part of a source are those of the source there.** They begin and end the part,
and alone it has the same words, moved to where they are then. -/
theorem lex_words {source : String} {us ts vs : List Token} {first last : Token}
    (h : (d.lex source).words = us ++ (first :: (ts ++ [last]) ++ vs)) :
    ∃ before part after, source.toList = before ++ (part ++ after) ∧
      Layout d (byteLength before) (first :: (ts ++ [last])) part ∧
      first.span.join last.span = ⟨byteLength before, byteLength before + byteLength part⟩ ∧
      (d.lex (String.ofList part)).words =
        (first :: (ts ++ [last])).map (Token.moveBack (byteLength before)) ∧
      (d.lex (String.ofList part)).fault = none := by
  obtain ⟨before, between, after, htokens, hwords⟩ := Lexed.exists_tokens h
  obtain ⟨rest, hsource, hthere, halone⟩ := lex_part htokens
  generalize hpart : tokensText (first :: (between ++ [last])) = part at hsource hthere halone
  have hlayout : Layout d (byteLength (tokensText before)) _ part :=
    layout_of_lexFrom (congrArg Lexed.fault hthere)
  rw [hthere, hwords] at hlayout
  have hfirst : first.start = byteLength (tokensText before) := start_of_lexFrom hthere
  have hlast : last.span.stop = byteLength (tokensText before) + byteLength part := by
    have hend : (d.lexFrom (byteLength (tokensText before)) part).tokens =
        first :: between ++ last :: [] := by
      rw [hthere]
      rfl
    have htext : part = tokensText (first :: between) ++ last.text := by
      simp [← hpart, tokensText]
    rw [Token.span, start_eq_of_lexFrom hend, htext, byteLength_append, Nat.add_assoc]
  refine ⟨tokensText before, part, rest, hsource, hlayout, ?_, ?_, ?_⟩
  · exact hlayout.join_eq List.mem_cons_self (by simp) hfirst hlast
  · rw [halone, Lexed.words_moveBack, hwords]
  · rw [halone]

end Interpolation
