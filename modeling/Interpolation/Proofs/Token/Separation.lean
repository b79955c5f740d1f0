import Interpolation.Proofs.Token.Layout
import Mathlib.Data.List.Chain

/-!
# Tokens are read back

Tokens are read back from a source that they stand in, if no two of them that follow each other can
run together (`lexFrom_of_layout`). Three things can go wrong: an identifier or a number goes on
with what follows it, the text of another token begins with a delimiter, or closing delimiters
together begin with an opening one. The first is up to the tokens (`Token.MayPrecede`), the others
are excluded by clean delimiters (`Delimiters.Clean`).
-/

namespace Interpolation

open Text

/-- Characters that tokens other than delimiters are made of, and blanks. -/
def isReserved [IdentifierRule] (c : Char) : Bool :=
  continuesIdentifier c || isTokenBlank c || isQuote c || c ∈ ['.', '=', '-']

/-- Delimiters that cannot be taken for anything else, nor a run of closing delimiters for an
opening one. -/
structure Delimiters.Clean [IdentifierRule] (d : Delimiters) : Prop where
  opening : ∀ c ∈ d.opening, isReserved c = false
  closing : ∀ c ∈ d.closing, isReserved c = false
  not_repeated : ∀ n, ¬ d.opening <+: (List.replicate n d.closing).flatten

theorem Delimiters.square_clean : Delimiters.square.Clean where
  opening := List.forall_mem_singleton.2 (by decide)
  closing := List.forall_mem_singleton.2 (by decide)
  not_repeated n h := by
    cases n with
    | zero => exact absurd h (by decide)
    | succ n => simp [square, List.replicate_succ] at h

/-- A character is none for which a test fails. -/
theorem ne_of_test {p : Char → Bool} {c c' : Char} (hc : p c = true) (hc' : p c' = false) :
    c ≠ c' := by
  rintro rfl
  exact absurd hc (by simp [hc'])

theorem Lexeme.run_append {kind : TokenKind} {p : Char → Bool} {c : Char} {cs rest : List Char}
    (hcs : ∀ c ∈ cs, p c = true) (hrest : ∀ c ∈ rest.head?, p c = false) :
    Lexeme.run kind p c (cs ++ rest) = .token kind (c :: cs) rest := by
  rw [Lexeme.run, takeWhile_run hcs hrest, dropWhile_run hcs hrest]

theorem Lexeme.quoted_append {quote : Char} {body rest : List Char} (h : quote ∉ body) :
    Lexeme.quoted quote (body ++ quote :: rest) =
      .token .string (quote :: body ++ [quote]) rest := by
  have hbody := forall_ne_of_not_mem h
  have hrest : ∀ c ∈ (quote :: rest).head?, decide (c ≠ quote) = false := by simp
  unfold Lexeme.quoted
  rw [dropWhile_run hbody hrest, takeWhile_run hbody hrest]

variable [IdentifierRule]

theorem Delimiters.Clean.unreserved {d : Delimiters} (hd : d.Clean) :
    ∀ c ∈ d.opening ++ d.closing, isReserved c = false :=
  List.forall_mem_append.2 ⟨hd.opening, hd.closing⟩

/-- A token can stand right before another without being taken for a longer one. -/
def Token.MayPrecede (t t' : Token) : Prop :=
  (t.kind = .identifier ∨ t.kind = .number → t'.kind ∈ [.dot, .equals, .closing]) ∧
    (t.kind = .closing → t'.kind ∈ [.dot, .closing])

/-- What follows does not go on with a token of `kind`, or begin with what makes another of it. -/
def Boundary (d : Delimiters) (kind : TokenKind) (rest : List Char) : Prop :=
  match kind with
  | .identifier | .number => ∀ c ∈ rest.head?, continuesIdentifier c = false
  | .closing =>
    ∃ n tail, rest = (List.replicate n d.closing).flatten ++ tail ∧
      ∀ c ∈ tail.head?, isReserved c = true
  | _ => True

variable {d : Delimiters}

theorem stripStart?_of_isReserved {part cs : List Char} {c : Char} (hne : part ≠ [])
    (hpart : ∀ c ∈ part, isReserved c = false) (hc : isReserved c = true) :
    stripStart? part (c :: cs) = none := by
  cases part with
  | nil => exact absurd rfl hne
  | cons p part =>
    rw [stripStart?, if_neg]
    rintro rfl
    exact absurd (hpart p List.mem_cons_self) (by simp [hc])

/-- Closing delimiters with blanks or a dot after them do not begin with an opening delimiter. -/
theorem stripStart?_opening_of_boundary (hd : d.Clean) {rest : List Char}
    (hb : Boundary d .closing rest) :
    stripStart? d.opening (d.closing ++ rest) = none := by
  obtain ⟨n, tail, rfl, htail⟩ := hb
  refine Option.eq_none_iff_forall_ne_some.2 fun after h => ?_
  have hrun : d.closing ++ ((List.replicate n d.closing).flatten ++ tail) =
      (List.replicate (n + 1) d.closing).flatten ++ tail := by
    rw [List.replicate_succ, List.flatten_cons, List.append_assoc]
  have hprefix : d.opening <+: (List.replicate (n + 1) d.closing).flatten ++ tail := by
    rw [← hrun, stripStart?_eq_some.1 h]
    exact List.prefix_append ..
  rcases List.prefix_or_prefix_of_prefix hprefix (List.prefix_append ..) with hp | ⟨more, hmore⟩
  · exact hd.not_repeated (n + 1) hp
  · cases more with
    | nil => exact hd.not_repeated (n + 1) ⟨[], by rw [← hmore]; simp⟩
    | cons c more =>
      have hc : c ∈ tail.head? := by
        rw [← hmore] at hprefix
        obtain ⟨t, rfl⟩ := (List.prefix_append_right_inj _).1 hprefix
        rfl
      have hopening : c ∈ d.opening := by
        rw [← hmore]
        exact List.mem_append_right _ List.mem_cons_self
      exact absurd (htail c hc) (by simp [hd.opening c hopening])

section
variable (hd : ∀ c ∈ d.opening ++ d.closing, isReserved c = false)
include hd

/-- Where no delimiter can begin, the first character tells the kind of the token. -/
theorem lexeme_of_isReserved {c : Char} (hc : isReserved c = true) (cs : List Char) :
    d.lexeme c cs =
      if c = '.' then .token .dot [c] cs
      else if c = '=' then .token .equals [c] cs
      else if c = '-' then .token .minus [c] cs
      else if isQuote c then .quoted c cs
      else if c.isDigit then .run .number Char.isDigit c cs
      else if isTokenBlank c then .run .blank isTokenBlank c cs
      else if startsIdentifier c then .run .identifier continuesIdentifier c cs
      else .fault .unexpectedCharacter [c] := by
  obtain ⟨hopening, hclosing⟩ := List.forall_mem_append.1 hd
  unfold Delimiters.lexeme
  rw [stripStart?_of_isReserved d.opening_ne_nil hopening hc,
    stripStart?_of_isReserved d.closing_ne_nil hclosing hc]

theorem lexeme_of_test {p : Char → Bool} {c : Char} (hc : isReserved c = true) (hpc : p c = true)
    (hp : p '.' = false ∧ p '=' = false ∧ p '-' = false) (cs : List Char) :
    d.lexeme c cs =
      if isQuote c then .quoted c cs
      else if c.isDigit then .run .number Char.isDigit c cs
      else if isTokenBlank c then .run .blank isTokenBlank c cs
      else if startsIdentifier c then .run .identifier continuesIdentifier c cs
      else .fault .unexpectedCharacter [c] := by
  rw [lexeme_of_isReserved hd hc, if_neg (ne_of_test hpc hp.1), if_neg (ne_of_test hpc hp.2.1),
    if_neg (ne_of_test hpc hp.2.2)]

end

theorem continuesIdentifier_operators : continuesIdentifier '.' = false ∧
    continuesIdentifier '=' = false ∧ continuesIdentifier '-' = false :=
  ⟨continuesIdentifier_of_mem_marks (by decide), continuesIdentifier_of_mem_marks (by decide),
    continuesIdentifier_of_mem_marks (by decide)⟩

theorem isQuote_of_continuesIdentifier {c : Char} (h : continuesIdentifier c = true) :
    isQuote c = false := by
  refine Bool.eq_false_iff.2 fun hquote => ?_
  have hc : c ∈ marks := by
    simp only [isQuote, decide_eq_true_eq, List.mem_cons, List.not_mem_nil, or_false] at hquote
    rcases hquote with rfl | rfl <;> decide
  exact absurd h (Bool.eq_false_iff.1 (continuesIdentifier_of_mem_marks hc))

theorem isTokenBlank_of_continuesIdentifier {c : Char} (h : continuesIdentifier c = true) :
    isTokenBlank c = false := by
  refine Bool.eq_false_iff.2 fun hblank => ?_
  have hc : c ∈ marks := by
    simp only [isTokenBlank, decide_eq_true_eq, List.mem_cons, List.not_mem_nil, or_false] at hblank
    rcases hblank with rfl | rfl | rfl | rfl <;> decide
  exact absurd h (Bool.eq_false_iff.1 (continuesIdentifier_of_mem_marks hc))

theorem isReserved_of_continuesIdentifier {c : Char} (h : continuesIdentifier c = true) :
    isReserved c = true := by
  simp [isReserved, h]

theorem isReserved_of_mem_operators {c : Char} (h : c ∈ ['.', '=', '-']) : isReserved c = true := by
  rw [isReserved, decide_eq_true h, Bool.or_true]

/-- An identifier is cut off a source, up to what does not go on with it. -/
theorem lexeme_of_identifier (hd : ∀ c ∈ d.opening ++ d.closing, isReserved c = false) {c : Char}
    {cs rest : List Char} (hc : startsIdentifier c = true)
    (hcs : ∀ c ∈ cs, continuesIdentifier c = true)
    (hrest : ∀ c ∈ rest.head?, continuesIdentifier c = false) :
    d.lexeme c (cs ++ rest) = .token .identifier (c :: cs) rest := by
  have hcont := continuesIdentifier_of_startsIdentifier hc
  rw [lexeme_of_test hd (isReserved_of_continuesIdentifier hcont) hcont
      continuesIdentifier_operators,
    if_neg (by simp [isQuote_of_continuesIdentifier hcont]),
    if_neg (by simp [isDigit_of_startsIdentifier hc]),
    if_neg (by simp [isTokenBlank_of_continuesIdentifier hcont]), if_pos hc]
  exact Lexeme.run_append hcs hrest

/-- A closing delimiter does not go on with an identifier. -/
theorem continuesIdentifier_of_closing (hd : ∀ c ∈ d.opening ++ d.closing, isReserved c = false)
    (rest : List Char) :
    ∀ c ∈ (d.closing ++ rest).head?, continuesIdentifier c = false := by
  obtain ⟨c, cs, hcs⟩ := List.exists_cons_of_ne_nil d.closing_ne_nil
  have hc : isReserved c = false := hd c (List.mem_append_right _ (hcs ▸ List.mem_cons_self))
  rw [hcs]
  rintro _ ⟨⟩
  exact Bool.eq_false_iff.2 fun h => absurd (isReserved_of_continuesIdentifier h) (by simp [hc])

/-- A token that is spelled (`Spelling`) at the beginning of a source is cut off it. -/
theorem lexeme_of_spelling (hd : d.Clean) {kind : TokenKind} {text rest : List Char}
    (hs : Spelling d kind text) (hb : Boundary d kind rest) :
    ∃ c cs, text ++ rest = c :: cs ∧ d.lexeme c cs = .token kind text rest := by
  cases hs with
  | opening =>
    obtain ⟨c, cs, hcs⟩ := List.exists_cons_of_ne_nil d.opening_ne_nil
    refine ⟨c, cs ++ rest, by rw [hcs]; rfl, ?_⟩
    unfold Delimiters.lexeme
    rw [← List.cons_append, ← hcs, stripStart?_append]
  | closing =>
    obtain ⟨c, cs, hcs⟩ := List.exists_cons_of_ne_nil d.closing_ne_nil
    refine ⟨c, cs ++ rest, by rw [hcs]; rfl, ?_⟩
    unfold Delimiters.lexeme
    rw [← List.cons_append, ← hcs, stripStart?_opening_of_boundary hd hb, stripStart?_append]
  | dot | equals | minus =>
    refine ⟨_, rest, rfl, lexeme_of_isReserved hd.unreserved ?_ rest⟩
    exact isReserved_of_mem_operators (by decide)
  | @identifier c cs hc hcs =>
    exact ⟨c, cs ++ rest, rfl, lexeme_of_identifier hd.unreserved hc hcs hb⟩
  | @number c cs hc hcs =>
    have hcont := continuesIdentifier_of_isDigit hc
    refine ⟨c, cs ++ rest, rfl, ?_⟩
    rw [lexeme_of_test hd.unreserved (isReserved_of_continuesIdentifier hcont) hcont
        continuesIdentifier_operators,
      if_neg (by simp [isQuote_of_continuesIdentifier hcont]), if_pos hc]
    refine Lexeme.run_append hcs fun r hr => Bool.eq_false_iff.2 fun hdigit => ?_
    exact absurd (continuesIdentifier_of_isDigit hdigit) (by simp [hb r hr])
  | @string quote body hq hbody =>
    refine ⟨quote, body ++ quote :: rest, by simp, ?_⟩
    rw [lexeme_of_test hd.unreserved (by simp [isReserved, hq]) hq (by decide), if_pos hq]
    exact Lexeme.quoted_append hbody

theorem lexFrom_of_lexeme {offset : Nat} {c : Char} {cs text rest : List Char} {kind : TokenKind}
    (h : d.lexeme c cs = .token kind text rest) :
    d.lexFrom offset (c :: cs) =
      ⟨⟨kind, offset, text⟩ :: (d.lexFrom (offset + byteLength text) rest).tokens,
        (d.lexFrom (offset + byteLength text) rest).fault⟩ := by
  rw [Delimiters.lexFrom]
  split
  · next hl => cases h.symm.trans hl
  · next hl =>
    cases h.symm.trans hl
    rfl

theorem lexeme_of_isTokenBlank (hd : d.Clean) {c : Char} (hc : isTokenBlank c = true)
    (cs : List Char) :
    d.lexeme c cs = .run .blank isTokenBlank c cs := by
  have hquote : isQuote c = false := by
    refine Bool.eq_false_iff.2 fun hq => ?_
    simp only [isQuote, decide_eq_true_eq, List.mem_cons, List.not_mem_nil, or_false] at hq
    rcases hq with rfl | rfl <;> exact absurd hc (by decide)
  have hdigit : c.isDigit = false := by
    refine Bool.eq_false_iff.2 fun hdigit => ?_
    have hblank :=
      isTokenBlank_of_continuesIdentifier (continuesIdentifier_of_isDigit hdigit)
    exact absurd hc (by simp [hblank])
  rw [lexeme_of_test hd.unreserved (by simp [isReserved, hc]) hc (by decide),
    if_neg (by simp [hquote]), if_neg (by simp [hdigit]), if_pos hc]

/-- A blank in front of a source changes neither its tokens nor its fault. -/
theorem lexFrom_blank (hd : d.Clean) {offset : Nat} {c : Char} (hc : isTokenBlank c = true)
    (cs : List Char) :
    (d.lexFrom offset (c :: cs)).words = (d.lexFrom (offset + c.utf8Size) cs).words ∧
      (d.lexFrom offset (c :: cs)).fault = (d.lexFrom (offset + c.utf8Size) cs).fault := by
  have hlex (offset : Nat) {c : Char} (hc : isTokenBlank c = true) (cs : List Char) :
      d.lexFrom offset (c :: cs) = _ :=
    lexFrom_of_lexeme (lexeme_of_isTokenBlank hd hc cs)
  cases cs with
  | nil =>
    rw [hlex offset hc]
    simp [Lexed.words]
  | cons c' cs =>
    by_cases hc' : isTokenBlank c' = true
    · -- both runs of blanks end at the same place
      rw [hlex offset hc, hlex _ hc', List.takeWhile_cons_of_pos hc',
        List.dropWhile_cons_of_pos hc']
      simp only [Lexed.words, List.filter_cons, byteLength_cons, Nat.add_assoc]
      simp
    · rw [hlex offset hc, List.takeWhile_cons_of_neg hc', List.dropWhile_cons_of_neg hc']
      simp [Lexed.words]

/-- What stands before a dot, an argument operator, a closing delimiter or a blank is no part of an
identifier. -/
theorem continuesIdentifier_of_layout (hd : d.Clean) {offset : Nat} {ts : List Token}
    {cs : List Char} (h : Layout d offset ts cs)
    (hts : ∀ t ∈ ts.head?, t.kind ∈ [.dot, .equals, .closing]) :
    ∀ c ∈ cs.head?, continuesIdentifier c = false := by
  cases h with
  | nil => exact nofun
  | blank hc =>
    rintro _ ⟨⟩
    exact Bool.eq_false_iff.2 fun h => absurd hc (by simp [isTokenBlank_of_continuesIdentifier h])
  | @token offset kind text cs ts hs h =>
    have hkind : kind ∈ [.dot, .equals, .closing] := hts _ rfl
    cases hs with
    | dot | equals =>
      rintro _ ⟨⟩
      exact continuesIdentifier_of_mem_marks (by decide)
    | closing => exact continuesIdentifier_of_closing hd.unreserved _
    | opening | minus | identifier | number | string => exact absurd hkind (by decide)

/-- After a closing delimiter come other closing delimiters, and then a dot, a blank or the end. -/
theorem closing_boundary_of_layout {offset : Nat} {t : Token} {ts : List Token} {cs : List Char}
    (h : Layout d offset ts cs) (ht : t.kind = .closing)
    (hts : List.IsChain Token.MayPrecede (t :: ts)) :
    Boundary d .closing cs := by
  induction h generalizing t with
  | nil => exact ⟨0, [], rfl, nofun⟩
  | @blank offset c cs ts hc h ih =>
    refine ⟨0, c :: cs, rfl, ?_⟩
    rintro _ ⟨⟩
    simp [isReserved, hc]
  | @token offset kind text cs ts hs h ih =>
    have hkind : kind ∈ [.dot, .closing] := hts.rel.2 ht
    cases hs with
    | dot =>
      refine ⟨0, '.' :: cs, rfl, ?_⟩
      rintro _ ⟨⟩
      exact isReserved_of_mem_operators (by decide)
    | closing =>
      obtain ⟨n, tail, rfl, htail⟩ := ih rfl hts.tail
      exact ⟨n + 1, tail, by rw [List.replicate_succ, List.flatten_cons, List.append_assoc], htail⟩
    | opening | equals | minus | identifier | number | string => exact absurd hkind (by decide)

/-- What stands after a token ends it. -/
theorem boundary_of_layout (hd : d.Clean) {offset : Nat} {t : Token} {ts : List Token}
    {cs : List Char} (h : Layout d offset ts cs) (hts : List.IsChain Token.MayPrecede (t :: ts)) :
    Boundary d t.kind cs := by
  have hname (ht : t.kind = .identifier ∨ t.kind = .number) :
      ∀ c ∈ cs.head?, continuesIdentifier c = false := by
    refine continuesIdentifier_of_layout hd h fun t' ht' => ?_
    cases ts with
    | nil => exact absurd ht' nofun
    | cons t'' ts =>
      cases ht'
      exact hts.rel.1 ht
  cases hk : t.kind with
  | identifier => exact hname (.inl hk)
  | number => exact hname (.inr hk)
  | closing => exact closing_boundary_of_layout h hk hts
  | opening | dot | equals | minus | blank | string => trivial

/-- **Tokens that do not run together (`Token.MayPrecede`) are read back from the source that they
stand in.** -/
theorem lexFrom_of_layout (hd : d.Clean) {offset : Nat} {ts : List Token} {cs : List Char}
    (h : Layout d offset ts cs) (hts : List.IsChain Token.MayPrecede ts) :
    (d.lexFrom offset cs).words = ts ∧ (d.lexFrom offset cs).fault = none := by
  induction h with
  | nil =>
    rw [Delimiters.lexFrom]
    exact ⟨rfl, rfl⟩
  | blank hc h ih =>
    obtain ⟨hwords, hfault⟩ := lexFrom_blank hd hc _
    rw [hwords, hfault]
    exact ih hts
  | @token offset kind text cs ts hs h ih =>
    obtain ⟨c, cs', heq, hl⟩ := lexeme_of_spelling hd hs (boundary_of_layout hd h hts)
    obtain ⟨hwords, hfault⟩ := ih hts.tail
    rw [heq, lexFrom_of_lexeme hl]
    refine ⟨?_, hfault⟩
    rw [Lexed.words, List.filter_cons_of_pos]
    · exact congrArg _ hwords
    · cases hs <;> rfl

end Interpolation
