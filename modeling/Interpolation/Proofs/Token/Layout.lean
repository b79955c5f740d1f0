import Interpolation.Proofs.Text.Runs
import Interpolation.Token.Lexer

/-!
# Tokens in a source

How tokens stand in a source: each is spelled in one of the ways of its kind, and blanks may come
before, between and after them. The tokens of a source that is cut without a fault stand in it
(`layout_of_lexFrom`).
-/

namespace Interpolation

open Text

variable [IdentifierRule]

/-- The texts of a kind of token. Blanks are none; they stand between tokens. -/
inductive Spelling (d : Delimiters) : TokenKind → List Char → Prop where
  | opening : Spelling d .opening d.opening
  | closing : Spelling d .closing d.closing
  | dot : Spelling d .dot ['.']
  | equals : Spelling d .equals ['=']
  | minus : Spelling d .minus ['-']
  | identifier {c : Char} {cs : List Char} (hc : startsIdentifier c = true)
    (hcs : ∀ c ∈ cs, continuesIdentifier c = true) : Spelling d .identifier (c :: cs)
  | number {c : Char} {cs : List Char} (hc : c.isDigit = true) (hcs : ∀ c ∈ cs, c.isDigit = true) :
    Spelling d .number (c :: cs)
  | string {quote : Char} {body : List Char} (hq : isQuote quote = true) (hbody : quote ∉ body) :
    Spelling d .string (quote :: body ++ [quote])

/-- Tokens in a source that starts at `offset`, with blanks between them. -/
inductive Layout (d : Delimiters) : (offset : Nat) → List Token → List Char → Prop where
  | nil {offset : Nat} : Layout d offset [] []
  | blank {offset : Nat} {c : Char} {cs : List Char} {ts : List Token} (hc : isTokenBlank c = true)
    (h : Layout d (offset + c.utf8Size) ts cs) : Layout d offset ts (c :: cs)
  | token {offset : Nat} {kind : TokenKind} {text cs : List Char} {ts : List Token}
    (hs : Spelling d kind text) (h : Layout d (offset + byteLength text) ts cs) :
    Layout d offset (⟨kind, offset, text⟩ :: ts) (text ++ cs)

/-- The tokens that are not blanks. -/
def Lexed.words (lexed : Lexed) : List Token := lexed.tokens.filter (·.kind ≠ .blank)

variable {d : Delimiters}

theorem Layout.blanks {offset : Nat} {bs cs : List Char} {ts : List Token}
    (hbs : ∀ c ∈ bs, isTokenBlank c = true) (h : Layout d (offset + byteLength bs) ts cs) :
    Layout d offset ts (bs ++ cs) := by
  induction bs generalizing offset with
  | nil => exact h
  | cons c bs ih =>
    refine .blank (hbs c List.mem_cons_self)
      (ih (fun c' hc' => hbs c' (List.mem_cons_of_mem _ hc')) ?_)
    rw [byteLength_cons, ← Nat.add_assoc] at h
    exact h

/-- Texts that follow each other, and the tokens in them. -/
theorem Layout.append {offset : Nat} {ts us : List Token} {cs ds : List Char}
    (h : Layout d offset ts cs) (h' : Layout d (offset + byteLength cs) us ds) :
    Layout d offset (ts ++ us) (cs ++ ds) := by
  induction h with
  | nil => simpa using h'
  | blank hc h ih => exact .blank hc (ih (by simpa [Nat.add_assoc] using h'))
  | token hs h ih =>
    rw [List.append_assoc]
    exact .token hs (ih (by simpa [byteLength_append, Nat.add_assoc] using h'))

theorem Layout.single {offset : Nat} {kind : TokenKind} {text : List Char}
    (hs : Spelling d kind text) :
    Layout d offset [⟨kind, offset, text⟩] text := by
  have : Layout d offset [⟨kind, offset, text⟩] (text ++ []) := .token hs .nil
  rwa [List.append_nil] at this

theorem spelling_of_quoted {quote : Char} {cs text rest : List Char} {kind : TokenKind}
    (hq : isQuote quote = true) (h : Lexeme.quoted quote cs = .token kind text rest) :
    kind ≠ .blank ∧ Spelling d kind text := by
  unfold Lexeme.quoted at h
  split at h
  · exact Lexeme.noConfusion h
  · obtain ⟨rfl, rfl, -⟩ := Lexeme.token.inj h
    refine ⟨by decide, .string hq fun hmem => ?_⟩
    have := of_mem_takeWhile quote hmem
    simp at this

/-- A token that `lexeme` cuts off a source is a run of blanks, or spelled in a way of its kind. -/
theorem spelling_of_lexeme {c : Char} {cs text rest : List Char} {kind : TokenKind}
    (h : d.lexeme c cs = .token kind text rest) :
    kind = .blank ∧ (∀ c ∈ text, isTokenBlank c = true) ∨ kind ≠ .blank ∧ Spelling d kind text := by
  have hrun {p : Char → Bool} (hc : p c = true) : ∀ c' ∈ c :: cs.takeWhile p, p c' = true :=
    List.forall_mem_cons.2 ⟨hc, of_mem_takeWhile⟩
  unfold Delimiters.lexeme at h
  split at h
  · obtain ⟨rfl, rfl, -⟩ := Lexeme.token.inj h
    exact .inr ⟨nofun, .opening⟩
  split at h
  · obtain ⟨rfl, rfl, -⟩ := Lexeme.token.inj h
    exact .inr ⟨nofun, .closing⟩
  split at h
  · next hc =>
    obtain ⟨rfl, rfl, -⟩ := Lexeme.token.inj h
    exact .inr ⟨nofun, hc ▸ .dot⟩
  split at h
  · next hc =>
    obtain ⟨rfl, rfl, -⟩ := Lexeme.token.inj h
    exact .inr ⟨nofun, hc ▸ .equals⟩
  split at h
  · next hc =>
    obtain ⟨rfl, rfl, -⟩ := Lexeme.token.inj h
    exact .inr ⟨nofun, hc ▸ .minus⟩
  split at h
  · next hq => exact .inr (spelling_of_quoted hq h)
  split at h
  · next hc =>
    obtain ⟨rfl, rfl, -⟩ := Lexeme.token.inj h
    exact .inr ⟨nofun, .number hc of_mem_takeWhile⟩
  split at h
  · next hc =>
    obtain ⟨rfl, rfl, -⟩ := Lexeme.token.inj h
    exact .inl ⟨rfl, hrun hc⟩
  split at h
  · next hc =>
    obtain ⟨rfl, rfl, -⟩ := Lexeme.token.inj h
    exact .inr ⟨nofun, .identifier hc of_mem_takeWhile⟩
  · exact Lexeme.noConfusion h

/-- **The tokens of a source that `lexFrom` cuts without a fault stand in it.** -/
theorem layout_of_lexFrom {offset : Nat} {cs : List Char} (h : (d.lexFrom offset cs).fault = none) :
    Layout d offset (d.lexFrom offset cs).words cs := by
  fun_induction Delimiters.lexFrom d offset cs with
  | case1 => exact .nil
  | case2 => exact absurd h nofun
  | case3 offset c cs kind text rest hl _ lexed ih =>
    have hrest : Layout d (offset + byteLength text) lexed.words rest := ih h
    rw [(Delimiters.eq_of_lexeme hl).1]
    rcases spelling_of_lexeme hl with ⟨rfl, hblanks⟩ | ⟨hkind, hs⟩
    · exact .blanks hblanks hrest
    · rw [Lexed.words, List.filter_cons_of_pos (by simp [hkind])]
      exact .token hs hrest

end Interpolation
