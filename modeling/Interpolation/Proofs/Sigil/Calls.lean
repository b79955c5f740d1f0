import Interpolation.Proofs.Sigil.Regions
import Interpolation.Proofs.Token.Locality

/-!
# Tokens that are asked for one at a time

Between two calls the lexer knows no more than a cursor, which stands where the last token ends. A
call looks at the source from the cursor on; it answers with a token and moves the cursor past it,
or it leaves the cursor where it is. The calls answer with the tokens of the source, which take it
up without gaps, and then with its end or with what is at fault, over and over
(`calls_tile_source`). So a reader that asks for a token at a time needs no more than one call a
byte and one for the end (`Calls.read?_eq`).
-/

namespace Interpolation

open Text

/-! ## Calls -/

/-- What a call answers: a token, that the source has ended, or what is at fault. -/
inductive Answer where
  | token (t : Token)
  | ended
  | fault (misread : Misread)

/-- Where a call leaves the cursor. -/
def Answer.move (cursor : Nat) : Answer → Nat
  | .token t => t.span.stop
  | .ended | .fault _ => cursor

namespace Delimiters

variable [IdentifierRule] (d : Delimiters) (source : List Char)

/-- The answer where this is left of the source. -/
def answer (cursor : Nat) : List Char → Answer
  | [] => .ended
  | c :: cs =>
    match d.lexeme c cs with
    | .token kind text _ => .token ⟨kind, cursor, text⟩
    | .fault fault text => .fault (fault, ⟨cursor, cursor + byteLength text⟩)

/-- A call. It has no answer if the cursor stands within a character or past the end, for nothing
can be cut there. -/
def call? (cursor : Nat) :
    Option Answer := (splitAtByte? cursor source).map fun (_, rest) => d.answer cursor rest

/-- The answer to a call after as many others. -/
def callAfter? : (calls : Nat) → (cursor : Nat) → Option Answer
  | 0, cursor => d.call? source cursor
  | calls + 1, cursor =>
    (d.call? source cursor).bind fun answer => callAfter? calls (answer.move cursor)

/-- Reads a sigil from `cursor` on, in as many calls as there are left, which may be too few. -/
def read? : (calls : Nat) → (cursor : Nat) → Reading → Option (Except Misread Sigil)
  | 0, _, _ => none
  | calls + 1, cursor, reading =>
    match d.call? source cursor with
    | none => none
    | some (.token t) =>
      if t.kind = .blank then read? calls t.span.stop reading
      else
        match reading.step t with
        | .ok reading => read? calls t.span.stop reading
        | .error misread => some (.error misread)
    | some .ended =>
      some (reading.finish.mapError fun expected =>
        (.unexpected expected none, ⟨byteLength source, byteLength source⟩))
    | some (.fault misread) => some (.error misread)

/-- Reads a sigil with its delimiters in no more than so many calls. -/
def parseWithin? (calls : Nat) (source : String) : Option (Except Error Sigil) :=
  (d.read? source.toList calls 0 .start).map fun read =>
    read.mapError fun (fault, span) => (Error.of fault).locate source span

end Delimiters

/-! ## Answers -/

/-- The regions take up all that is between two offsets, and none is empty. -/
def Span.Tile (stop : Nat) : (start : Nat) → List Span → Prop
  | start, [] => start = stop
  | start, s :: spans => s.start = start ∧ s.start < s.stop ∧ Tile stop s.stop spans

theorem Span.Tile.length_le {start stop : Nat} {spans : List Span} (h : Tile stop start spans) :
    start + spans.length ≤ stop := by
  induction spans generalizing start with
  | nil => exact Nat.le_of_eq h
  | cons s spans ih =>
    obtain ⟨rfl, hlt, h⟩ := h
    have := ih h
    rw [List.length_cons]
    omega

/-- What calls answer with after the tokens. -/
def Lexed.last (lexed : Lexed) : Answer :=
  match lexed.fault with
  | none => .ended
  | some misread => .fault misread

/-- Goes on reading a sigil from the tokens that are left of a source of `length` bytes. -/
def Lexed.sigilFrom (lexed : Lexed) (length : Nat) (reading : Reading) : Except Misread Sigil := do
  let reading ← lexed.words.foldlM Reading.step reading
  match lexed.fault with
  | some misread => .error misread
  | none => reading.finish.mapError fun expected => (.unexpected expected none, ⟨length, length⟩)

theorem Lexed.sigilFrom_of_blank {t : Token} {lexed : Lexed} (ht : t.kind = .blank) (length : Nat)
    (reading : Reading) :
    sigilFrom ⟨t :: lexed.tokens, lexed.fault⟩ length reading = lexed.sigilFrom length reading := by
  rw [sigilFrom, words, List.filter_cons_of_neg (by simp [ht])]
  rfl

theorem Lexed.sigilFrom_of_word {t : Token} {lexed : Lexed} (ht : t.kind ≠ .blank) (length : Nat)
    (reading : Reading) :
    sigilFrom ⟨t :: lexed.tokens, lexed.fault⟩ length reading =
      reading.step t >>= lexed.sigilFrom length := by
  rw [sigilFrom, words, List.filter_cons_of_pos (by simp [ht]), List.foldlM_cons]
  cases reading.step t <;> rfl

variable [IdentifierRule]

/-- The calls from a cursor on answer with tokens, each where the one before it ends, until the
source has ended or a call finds a fault. -/
inductive Calls (d : Delimiters) (source : List Char) : (cursor : Nat) → Lexed → Prop where
  | ended (h : d.call? source (byteLength source) = some .ended) :
    Calls d source (byteLength source) ⟨[], none⟩
  | fault {cursor stop : Nat} {fault : Fault}
    (h : d.call? source cursor = some (.fault (fault, ⟨cursor, stop⟩)))
    (hlt : cursor < byteLength source) : Calls d source cursor ⟨[], some (fault, ⟨cursor, stop⟩)⟩
  | token {cursor : Nat} {kind : TokenKind} {text : List Char} {lexed : Lexed}
    (h : d.call? source cursor = some (.token ⟨kind, cursor, text⟩)) (hne : text ≠ [])
    (hcalls : Calls d source (cursor + byteLength text) lexed) :
    Calls d source cursor ⟨⟨kind, cursor, text⟩ :: lexed.tokens, lexed.fault⟩

variable {d : Delimiters} {source : List Char} {cursor : Nat} {lexed : Lexed}

theorem call?_append (before rest : List Char) :
    d.call? (before ++ rest) (byteLength before) = some (d.answer (byteLength before) rest) := by
  rw [Delimiters.call?, splitAtByte?_append]
  rfl

/-- **Each call answers with the next token of the source** (`lexFrom`), and leaves the cursor on a
boundary after it. -/
theorem calls_lexFrom {rest : List Char} : ∀ before, byteLength before = cursor →
    Calls d (before ++ rest) cursor (d.lexFrom cursor rest) := by
  -- `before` is what earlier calls have passed; the source stays the same while the token goes over
  -- to it
  fun_induction Delimiters.lexFrom d cursor rest with
  | case1 =>
    rintro before rfl
    have h := @call?_append _ d before []
    rw [List.append_nil] at h ⊢
    exact .ended h
  | case2 cursor c cs fault text hl =>
    rintro before rfl
    have h := @call?_append _ d before (c :: cs)
    rw [Delimiters.answer, hl] at h
    refine .fault h ?_
    rw [byteLength_append, byteLength_cons]
    exact Nat.lt_add_of_pos_right (Nat.add_pos_left c.utf8Size_pos _)
  | case3 cursor c cs kind text rest hl _ lexed ih =>
    rintro before rfl
    have h := @call?_append _ d before (c :: cs)
    rw [Delimiters.answer, hl] at h
    obtain ⟨heq, hne⟩ := Delimiters.eq_of_lexeme hl
    have hrest := ih (before ++ text) (byteLength_append ..)
    rw [List.append_assoc, ← heq] at hrest
    exact .token h hne hrest

theorem calls_lex (d : Delimiters) (source : String) :
    Calls d source.toList 0 (d.lex source) := calls_lexFrom [] rfl

namespace Calls

theorem callAfter?_of_tokens (h : Calls d source cursor lexed) {n : Nat} {t : Token}
    (ht : lexed.tokens[n]? = some t) :
    d.callAfter? source n cursor = some (.token t) := by
  induction h generalizing n with
  | ended | fault => cases ht
  | token h _ _ ih =>
    cases n with
    | zero =>
      cases ht
      exact h
    | succ n =>
      rw [Delimiters.callAfter?, h]
      exact ih ht

/-- An answer that does not move the cursor is given over and over. -/
theorem callAfter?_of_move {answer : Answer} (h : d.call? source cursor = some answer)
    (hmove : answer.move cursor = cursor) (n : Nat) :
    d.callAfter? source n cursor = some answer := by
  induction n with
  | zero => exact h
  | succ n ih =>
    rw [Delimiters.callAfter?, h, Option.bind_some, hmove]
    exact ih

theorem callAfter?_of_length_le (h : Calls d source cursor lexed) {n : Nat}
    (hn : lexed.tokens.length ≤ n) :
    d.callAfter? source n cursor = some lexed.last := by
  induction h generalizing n with
  | ended h => exact callAfter?_of_move h rfl n
  | fault h => exact callAfter?_of_move h rfl n
  | token h _ _ ih =>
    cases n with
    | zero => exact absurd hn (Nat.not_succ_le_zero _)
    | succ n =>
      rw [Delimiters.callAfter?, h]
      exact ih (Nat.le_of_succ_le_succ hn)

/-- The tokens take up the source as far as the end or the fault. -/
theorem exists_tile (h : Calls d source cursor lexed) :
    ∃ stop, Span.Tile stop cursor (lexed.tokens.map Token.span) ∧
    (lexed.fault = none ∧ stop = byteLength source ∨
      ∃ fault last, lexed.fault = some (fault, ⟨stop, last⟩) ∧ stop < byteLength source) := by
  induction h with
  | ended => exact ⟨_, rfl, .inl ⟨rfl, rfl⟩⟩
  | fault _ hlt => exact ⟨_, rfl, .inr ⟨_, _, rfl, hlt⟩⟩
  | @token cursor _ text _ _ hne _ ih =>
    obtain ⟨stop, htile, hlast⟩ := ih
    have hpos : 0 < byteLength text :=
      Nat.pos_of_ne_zero fun hzero => hne (byteLength_eq_zero.1 hzero)
    exact ⟨stop, ⟨rfl, Nat.lt_add_of_pos_right hpos, htile⟩, hlast⟩

/-- **A reader with more calls than there are tokens gets to an end**, which is that of reading them
all at once (`Lexed.sigilFrom`). -/
theorem read?_eq (h : Calls d source cursor lexed) {calls : Nat}
    (hcalls : lexed.tokens.length < calls) (reading : Reading) :
    d.read? source calls cursor reading = some (lexed.sigilFrom (byteLength source) reading) := by
  induction h generalizing calls reading with
  | ended h | fault h =>
    obtain ⟨calls, rfl⟩ := Nat.exists_eq_add_of_lt hcalls
    rw [Delimiters.read?, h]
    rfl
  | @token cursor kind text lexed h _ _ ih =>
    obtain ⟨calls, rfl⟩ := Nat.exists_eq_succ_of_ne_zero (Nat.ne_zero_of_lt hcalls)
    have hrest := @ih calls (Nat.lt_of_succ_lt_succ hcalls)
    rw [Delimiters.read?, h]
    by_cases hkind : kind = .blank
    · rw [Lexed.sigilFrom_of_blank hkind, ← hrest]
      exact if_pos hkind
    · rw [Lexed.sigilFrom_of_word hkind]
      refine (if_neg hkind).trans ?_
      cases reading.step ⟨kind, cursor, text⟩ with
      | error misread => rfl
      | ok reading => exact hrest reading

end Calls

/-- **Calls of the lexer take a source apart.** From its beginning on, one token follows another,
none is empty (`Span.Tile`), and each is the text of a region between two boundaries. The calls
after them answer that the source has ended, if it has, or with a fault that stands right after the
last token. They are no more than the bytes of the source, and so a reader that has one call more
gets to an end whatever the source is. -/
theorem calls_tile_source (d : Delimiters) (source : String) :
    ∃ stop, Span.Tile stop 0 ((d.lex source).tokens.map Token.span) ∧
      (∀ t ∈ (d.lex source).tokens, t.span.IsRegion source.toList ∧
        slice? t.span.start t.span.stop source.toList = some t.text) ∧
      (∀ n t, (d.lex source).tokens[n]? = some t →
        d.callAfter? source.toList n 0 = some (.token t)) ∧
      (stop = byteLength source.toList ∧ (d.lex source).tokens.length ≤ byteLength source.toList ∧
          (∀ n, (d.lex source).tokens.length ≤ n → d.callAfter? source.toList n 0 = some .ended) ∨
        ∃ fault last, (Span.mk stop last).IsRegion source.toList ∧
          (d.lex source).tokens.length < byteLength source.toList ∧
          ∀ n, (d.lex source).tokens.length ≤ n →
            d.callAfter? source.toList n 0 = some (.fault (fault, ⟨stop, last⟩))) ∧
      ∀ calls, byteLength source.toList < calls →
      d.parseWithin? calls source = some (d.parse source) := by
  have h := calls_lex d source
  have hregions := @regions_of_lexFrom d _ 0 source.toList [] rfl
  obtain ⟨stop, htile, hstop⟩ := h.exists_tile
  have hlength := htile.length_le
  rw [Nat.zero_add, List.length_map] at hlength
  have hle : stop ≤ byteLength source.toList := by
    rcases hstop with ⟨-, rfl⟩ | ⟨-, -, -, hlt⟩
    · exact Nat.le_refl _
    · exact Nat.le_of_lt hlt
  refine ⟨stop, htile, fun t ht => ⟨(hregions.1 t ht).2, (lex_token ht).1⟩,
    fun n t ht => h.callAfter?_of_tokens ht,
    ?_, fun calls hcalls => ?_⟩
  · rcases hstop with ⟨hfault, rfl⟩ | ⟨fault, last, hfault, hlt⟩
    · refine .inl ⟨rfl, hlength, fun n hn => ?_⟩
      rw [h.callAfter?_of_length_le hn, Lexed.last, hfault]
    · refine .inr ⟨fault, last, hregions.2 _ hfault, Nat.lt_of_le_of_lt hlength hlt, fun n hn => ?_⟩
      rw [h.callAfter?_of_length_le hn, Lexed.last, hfault]
  · rw [Delimiters.parseWithin?, h.read?_eq (Nat.lt_of_le_of_lt (Nat.le_trans hlength hle) hcalls)]
    rfl

end Interpolation
