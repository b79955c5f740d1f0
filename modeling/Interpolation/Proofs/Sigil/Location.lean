import Interpolation.Proofs.Extraction.Pieces
import Interpolation.Proofs.Sigil.Parsing

/-!
# Where a sigil stands, to the parser and to extraction

The one reads tokens and keeps a stack, the other counts delimiters character by character. Both
look for an opening delimiter first and then for a closing one, and no delimiter begins within a
token of another kind (`skips_of_lexeme`). So they move together, and the invariant is that the
count is the height of the stack (`closesAt_of_run`).
-/

namespace Interpolation

open Text

variable {d : Delimiters} {c : Char} {cs text rest : List Char} {kind : TokenKind}

namespace Delimiters

/-! ## Tokens that extraction passes over -/

/-- No delimiter begins within the text, when `rest` follows it. -/
def Skips (d : Delimiters) (text rest : List Char) : Prop :=
  ∀ c cs, c :: cs <:+ text →
    stripStart? d.opening (c :: (cs ++ rest)) = none ∧
    stripStart? d.closing (c :: (cs ++ rest)) = none

theorem Skips.tail (h : d.Skips (c :: text) rest) : d.Skips text rest :=
  fun c cs hcs => h c cs (hcs.trans (List.suffix_cons ..))

theorem close?_append_of_skips (h : d.Skips text rest) (depth : Nat) :
    d.close? depth (text ++ rest) = (d.close? depth rest).map fun (inside, after) =>
      (text ++ inside, after) := by
  induction text with
  | nil => simp
  | cons c text ih =>
    obtain ⟨ho, hc⟩ := h c text List.suffix_rfl
    rw [List.cons_append, close?_of_none ho hc, ih h.tail, Option.map_map]
    rfl

theorem close?_of_skips {depth : Nat} {inside after : List Char} (h : d.Skips text rest)
    (hr : d.close? depth rest = some (inside, after)) :
    d.close? depth (text ++ rest) = some (text ++ inside, after) := by
  rw [close?_append_of_skips h, hr]
  rfl

theorem scan_of_skips (h : d.Skips text rest) :
    d.scan (text ++ rest) = (d.scan rest).prepend text := by
  induction text with
  | nil =>
    rw [List.nil_append]
    cases he : d.scan rest with
    | mk pieces tail => cases pieces <;> rfl
  | cons c text ih =>
    obtain ⟨ho, -⟩ := h c text List.suffix_rfl
    rw [List.cons_append, scan_of_none ho, ih h.tail]
    cases he : d.scan rest with
    | mk pieces tail => cases pieces <;> rfl

variable [IdentifierRule]

/-- Where an opening delimiter stands, it is the token. -/
theorem lexeme_of_opening (h : stripStart? d.opening (c :: cs) = some rest) :
    d.lexeme c cs = .token .opening d.opening rest := by
  rw [lexeme, h]

/-- Where a closing delimiter stands and no opening one, it is the token. -/
theorem lexeme_of_closing (ho : stripStart? d.opening (c :: cs) = none)
    (h : stripStart? d.closing (c :: cs) = some rest) :
    d.lexeme c cs = .token .closing d.closing rest := by
  rw [lexeme, ho, h]

theorem lexFrom_opening (d : Delimiters) (offset : Nat) (rest : List Char) :
    d.lexFrom offset (d.opening ++ rest) =
      ⟨⟨.opening, offset, d.opening⟩ :: (d.lexFrom (offset + byteLength d.opening) rest).tokens,
        (d.lexFrom (offset + byteLength d.opening) rest).fault⟩ := by
  obtain ⟨c, cs, ho⟩ := List.exists_cons_of_ne_nil d.opening_ne_nil
  have htext : d.opening ++ rest = c :: (cs ++ rest) := by rw [ho, List.cons_append]
  have hlexeme : d.lexeme c (cs ++ rest) = .token .opening d.opening rest :=
    lexeme_of_opening (by rw [← htext, stripStart?_append])
  rw [htext, lexFrom_of_lexeme hlexeme]

theorem lexFrom_closing (ho : stripStart? d.opening (d.closing ++ rest) = none) (offset : Nat) :
    d.lexFrom offset (d.closing ++ rest) =
      ⟨⟨.closing, offset, d.closing⟩ :: (d.lexFrom (offset + byteLength d.closing) rest).tokens,
        (d.lexFrom (offset + byteLength d.closing) rest).fault⟩ := by
  obtain ⟨c, cs, hc⟩ := List.exists_cons_of_ne_nil d.closing_ne_nil
  have htext : d.closing ++ rest = c :: (cs ++ rest) := by rw [hc, List.cons_append]
  have hlexeme : d.lexeme c (cs ++ rest) = .token .closing d.closing rest :=
    lexeme_of_closing (by rw [← htext, ho]) (by rw [← htext, stripStart?_append])
  rw [htext, lexFrom_of_lexeme hlexeme]

theorem opening_of_lexeme (h : d.lexeme c cs = .token .opening text rest) :
    text = d.opening ∧ c :: cs = d.opening ++ rest := by
  obtain ⟨heq, -⟩ := eq_of_lexeme h
  rcases spelling_of_lexeme h with ⟨hk, -⟩ | ⟨-, hs⟩
  · cases hk
  · cases hs
    exact ⟨rfl, heq⟩

theorem closing_of_lexeme (h : d.lexeme c cs = .token .closing text rest) :
    text = d.closing ∧ c :: cs = d.closing ++ rest ∧ stripStart? d.opening (c :: cs) = none := by
  obtain ⟨heq, -⟩ := eq_of_lexeme h
  have hopening : stripStart? d.opening (c :: cs) = none := by
    refine Option.eq_none_iff_forall_ne_some.2 fun after hafter => ?_
    cases (lexeme_of_opening hafter).symm.trans h
  rcases spelling_of_lexeme h with ⟨hk, -⟩ | ⟨-, hs⟩
  · cases hk
  · cases hs
    exact ⟨rfl, heq, hopening⟩

theorem blanks_of_lexeme (h : d.lexeme c cs = .token .blank text rest) :
    ∀ c ∈ text, isTokenBlank c = true := by
  rcases spelling_of_lexeme h with ⟨-, hblanks⟩ | ⟨hk, -⟩
  · exact hblanks
  · exact absurd rfl hk

section
variable (hd : ∀ c ∈ d.opening ++ d.closing, isReserved c = false)
include hd

theorem skips_of_isReserved (h : ∀ c ∈ text, isReserved c = true) : d.Skips text rest := by
  obtain ⟨ho, hc⟩ := List.forall_mem_append.1 hd
  intro c cs hcs
  have hreserved : isReserved c = true := h c (hcs.subset List.mem_cons_self)
  exact ⟨stripStart?_of_isReserved d.opening_ne_nil ho hreserved,
    stripStart?_of_isReserved d.closing_ne_nil hc hreserved⟩

theorem skips_of_blank (h : ∀ c ∈ text, isTokenBlank c = true) : d.Skips text rest :=
  skips_of_isReserved hd fun c hc => by simp [isReserved, h c hc]

/-- A delimiter that begins within a string would stand in it, or go on with its last quote. -/
theorem skips_of_string {quote : Char} {body : List Char} (hq : isQuote quote = true)
    (ho : occurs d.opening (quote :: body ++ [quote]) = false)
    (hc : occurs d.closing (quote :: body ++ [quote]) = false) :
    d.Skips (quote :: body ++ [quote]) rest := by
  obtain ⟨hopening, hclosing⟩ := List.forall_mem_append.1 hd
  intro c cs hcs
  have hnone {part : List Char} (hpart : ∀ c ∈ part, isReserved c = false)
      (hocc : occurs part (quote :: body ++ [quote]) = false) :
        stripStart? part (c :: cs ++ rest) = none := by
    refine Option.eq_none_iff_forall_ne_some.2 fun after hafter => ?_
    have hbegins : part <+: c :: cs ++ rest := ⟨after, (stripStart?_eq_some.1 hafter).symm⟩
    obtain ⟨before, hbefore⟩ := hcs
    rcases List.prefix_or_prefix_of_prefix hbegins
      (List.prefix_append (c :: cs) rest) with ⟨more, hmore⟩ | hlonger
    · rw [← hbefore, ← hmore, occurs_append] at hocc
      cases hocc
    · have hlast : quote ∈ c :: cs := by
        have hsuffix : [quote] <:+ c :: cs :=
          List.suffix_of_suffix_length_le (List.suffix_append (quote :: body)
            [quote]) ⟨before, hbefore⟩
            (Nat.succ_le_succ (Nat.zero_le _))
        exact hsuffix.subset List.mem_cons_self
      exact absurd (hpart quote (hlonger.subset hlast)) (by simp [isReserved, hq])
  exact ⟨hnone hopening ho, hnone hclosing hc⟩

/-- **Extraction passes over (`Skips`) every token but delimiters**, if no string holds one. -/
theorem skips_of_lexeme (h : d.lexeme c cs = .token kind text rest) (ho : kind ≠ .opening)
    (hc : kind ≠ .closing)
    (hs : kind = .string → occurs d.opening text = false ∧ occurs d.closing text = false) :
    d.Skips text rest := by
  rcases spelling_of_lexeme h with ⟨-, hblanks⟩ | ⟨-, hspelling⟩
  · exact skips_of_blank hd hblanks
  · cases hspelling with
    | opening => exact absurd rfl ho
    | closing => exact absurd rfl hc
    | dot | equals | minus =>
      refine skips_of_isReserved hd (List.forall_mem_singleton.2 ?_)
      exact isReserved_of_mem_operators (by decide)
    | identifier hfirst hmore =>
      refine skips_of_isReserved hd (List.forall_mem_cons.2 ⟨?_, fun c hc => ?_⟩)
      · simp [isReserved, continuesIdentifier_of_startsIdentifier hfirst]
      · simp [isReserved, hmore c hc]
    | number hfirst hmore =>
      refine skips_of_isReserved hd (List.forall_mem_cons.2 ⟨?_, fun c hc => ?_⟩)
      · simp [isReserved, continuesIdentifier_of_isDigit hfirst]
      · simp [isReserved, continuesIdentifier_of_isDigit (hmore c hc)]
    | string hq => exact skips_of_string hd hq (hs rfl).1 (hs rfl).2

/-- Blanks alone are plain. -/
theorem plain_of_blank (h : ∀ c ∈ cs, isTokenBlank c = true) : d.Plain cs := by
  have hskips : d.Skips cs [] := skips_of_blank hd h
  have hscan := scan_of_skips hskips
  rw [List.append_nil, plain_nil] at hscan
  simpa [Plain, Extraction.prepend] using hscan

end

end Delimiters

/-! ## The stack of the reader -/

namespace Reading

/-- The sigil that all others are inside of. -/
def outermost : List (Opened × Name) → Opened → Opened
  | [], sigil => sigil
  | (parent, _) :: outer, _ => outermost outer parent

/-- Inside the outermost sigil, which was opened at `first`, `depth` others are open. -/
inductive IsOpen : Reading → (depth : Nat) → (first : Span) → Prop where
  | inside {outer : List (Opened × Name)} {sigil : Opened} {progress : Progress} :
    IsOpen (.inside outer sigil progress) outer.length (outermost outer sigil).opening

/-- What a token does to the sigils that are open. -/
inductive Turns : (depth : Nat) → (first : Span) → Token → Reading → Prop where
  | opens {depth : Nat} {first : Span} {t : Token} {r : Reading} (ht : t.kind = .opening)
    (hr : r.IsOpen (depth + 1) first) : Turns depth first t r
  | closes {depth : Nat} {first : Span} {t : Token} {r : Reading} (ht : t.kind = .closing)
    (hr : r.IsOpen depth first) : Turns (depth + 1) first t r
  | ends {first : Span} {t : Token} {s : Sigil} (ht : t.kind = .closing)
    (hs : s.span = first.join t.span) :
    Turns 0 first t (.done s)
  | stays {depth : Nat} {first : Span} {t : Token} {r : Reading} (ho : t.kind ≠ .opening)
    (hc : t.kind ≠ .closing) (hr : r.IsOpen depth first) : Turns depth first t r

variable {outer : List (Opened × Name)} {sigil : Opened} {node : Node}
    {progress : Progress} {r r' : Reading}
  {t : Token} {depth : Nat} {first : Span}

theorem span_chain {last : Node} {after earlier : List Node} {span : Span} :
    (chain last after earlier span).span = span := by
  induction earlier generalizing last after with
  | nil => rfl
  | cons node earlier ih => exact ih

theorem Holds.isOpen (h : Holds r outer sigil node) (hr : r.IsOpen depth first) :
    depth = outer.length ∧ first = (outermost outer sigil).opening := by
  cases h <;> cases hr <;> exact ⟨rfl, rfl⟩

/-- More nodes in the innermost sigil do not change where the outermost one was opened. -/
theorem isOpen_of_opening_eq {sigil' : Opened} (h : sigil'.opening = sigil.opening) :
    (inside outer sigil' progress).IsOpen outer.length (outermost outer sigil).opening := by
  have heq : (outermost outer sigil).opening = (outermost outer sigil').opening := by
    cases outer with
    | nil => exact h.symm
    | cons => rfl
  exact heq ▸ .inside

theorem IsOpen.turns (hr : r.IsOpen depth first) (h : Moves r t r') : Turns depth first t r' := by
  cases h with
  | opening ho ht =>
    cases ho with
    | start => cases hr
    | assigned =>
      cases hr
      exact .opens ht .inside
  | name _ ht =>
    cases hr
    rcases ht with ht | ⟨-, ht⟩ <;> exact .stays (by simp [ht]) (by simp [ht]) .inside
  | equals ht | minus ht | negative ht =>
    cases hr
    exact .stays (by simp [ht]) (by simp [ht]) .inside
  | argument ha =>
    cases hr
    have hkind := kind_of_readsArgument ha
    exact .stays (fun ht => by simp [ht] at hkind) (fun ht => by simp [ht] at hkind) .inside
  | dot hholds ht =>
    obtain ⟨rfl, rfl⟩ := hholds.isOpen hr
    exact .stays (by simp [ht]) (by simp [ht]) (isOpen_of_opening_eq rfl)
  | @closing _ outer _ _ _ hholds ht =>
    obtain ⟨rfl, rfl⟩ := hholds.isOpen hr
    cases outer with
    | nil => exact .ends ht span_chain
    | cons => exact .closes ht .inside

end Reading

/-! ## Both runs -/

theorem Lexed.words_cons {t : Token} {lexed : Lexed} :
    Lexed.words ⟨t :: lexed.tokens, lexed.fault⟩ =
      if t.kind = .blank then lexed.words else t :: lexed.words := by
  by_cases ht : t.kind = .blank <;> simp [words, ht]

/-- Blanks hold no quotes. -/
theorem balancesQuotes_append {cs cs' : List Char} (h : ∀ c ∈ cs, isTokenBlank c = true) :
    balancesQuotes (cs ++ cs') = balancesQuotes cs' ∧
    balancesQuotes (cs' ++ cs) = balancesQuotes cs' := by
  have hcount {q : Char} (hq : isTokenBlank q = false) : cs.count q = 0 :=
    List.count_eq_zero.2 fun hmem => absurd (h q hmem) (by simp [hq])
  have hsingle : cs.count '\'' = 0 := hcount (by decide)
  have hdouble : cs.count '"' = 0 := hcount (by decide)
  simp [balancesQuotes, List.count_append, hsingle, hdouble]

/-- No delimiter stands in a string. -/
def StringsAvoid (d : Delimiters) (ts : List Token) : Prop :=
  ∀ t ∈ ts, t.kind = .string → occurs d.opening t.text = false ∧ occurs d.closing t.text = false

/-- What is open `depth + 1` times is closed in the source, and nothing but blanks comes after it.
From `first` to there is `span`. -/
def ClosesAt (d : Delimiters) (depth : Nat) (first : Span) (offset : Nat) (cs : List Char)
    (span : Span) : Prop :=
  ∃ inside after, d.close? depth cs = some (inside, after) ∧ (∀ c ∈ after, isTokenBlank c = true) ∧
    span = ⟨first.start, offset + byteLength inside⟩

namespace ClosesAt

variable {depth offset : Nat} {first span : Span}

theorem skip (h : ClosesAt d depth first (offset + byteLength text) rest span)
    (hskips : d.Skips text rest) :
    ClosesAt d depth first offset (text ++ rest) span := by
  obtain ⟨inside, after, hclose, hafter, hspan⟩ := h
  refine ⟨text ++ inside, after, Delimiters.close?_of_skips hskips hclose, hafter, ?_⟩
  rw [hspan, byteLength_append, Nat.add_assoc]

theorem opening (h : ClosesAt d (depth + 1) first (offset + byteLength d.opening) rest span) :
    ClosesAt d depth first offset (d.opening ++ rest) span := by
  obtain ⟨inside, after, hclose, hafter, hspan⟩ := h
  refine ⟨d.opening ++ inside, after, ?_, hafter, ?_⟩
  · rw [Delimiters.close?_of_opening (stripStart?_append ..), hclose]
    rfl
  · rw [hspan, byteLength_append, Nat.add_assoc]

theorem closing (h : ClosesAt d depth first (offset + byteLength d.closing) rest span)
    (ho : stripStart? d.opening (d.closing ++ rest) = none) :
    ClosesAt d (depth + 1) first offset (d.closing ++ rest) span := by
  obtain ⟨inside, after, hclose, hafter, hspan⟩ := h
  refine ⟨d.closing ++ inside, after, ?_, hafter, ?_⟩
  · rw [Delimiters.close?_of_closing ho (stripStart?_append ..)]
    dsimp only
    rw [hclose]
    rfl
  · rw [hspan, byteLength_append, Nat.add_assoc]

theorem last (hrest : ∀ c ∈ rest, isTokenBlank c = true)
    (ho : stripStart? d.opening (d.closing ++ rest) = none) :
    ClosesAt d 0 first offset (d.closing ++ rest) ⟨first.start, offset + byteLength d.closing⟩ :=
  ⟨d.closing, rest, Delimiters.close?_of_closing ho (stripStart?_append ..), hrest, rfl⟩

end ClosesAt

section
variable [IdentifierRule]

theorem blank_of_layout_nil {offset : Nat} (h : Layout d offset [] cs) :
    ∀ c ∈ cs, isTokenBlank c = true := by
  generalize hts : [] = ts at h
  induction h with
  | nil => exact List.forall_mem_nil _
  | blank hc _ ih => exact List.forall_mem_cons.2 ⟨hc, ih hts⟩
  | token => cases hts

/-- Nothing but blanks stands after the sigil. -/
theorem eq_of_run_done {offset : Nat} {s a : Sigil} (hfault : (d.lexFrom offset cs).fault = none)
    (hrun : (d.lexFrom offset cs).words.foldlM Reading.step (.done s) = .ok (.done a)) :
    s = a ∧ ∀ c ∈ cs, isTokenBlank c = true := by
  have hlayout := layout_of_lexFrom hfault
  generalize (d.lexFrom offset cs).words = ts at hlayout hrun
  cases ts with
  | nil =>
    cases hrun
    exact ⟨rfl, blank_of_layout_nil hlayout⟩
  | cons t ts =>
    obtain ⟨r, hs, -⟩ := Reading.exists_step_of_run hrun
    cases hs

variable {offset : Nat} {a : Sigil} (hd : ∀ c ∈ d.opening ++ d.closing, isReserved c = false)
include hd

/-- **The reader and the count get to the end of a sigil together.** -/
theorem closesAt_of_run {depth : Nat} {first : Span} {r : Reading}
    (hfault : (d.lexFrom offset cs).fault = none)
    (hstrings : StringsAvoid d (d.lexFrom offset cs).words)
    (hrun : (d.lexFrom offset cs).words.foldlM Reading.step r = .ok (.done a))
    (hr : r.IsOpen depth first) (hfirst : first.start ≤ offset ∧ first.stop ≤ offset) :
    ClosesAt d depth first offset cs a.span := by
  -- token by token: a blank moves neither of the two, and what another token does is in `Turns`
  revert depth first r
  fun_induction Delimiters.lexFrom d offset cs with
  | case1 =>
    intro depth first r hrun hr
    cases hrun
    cases hr
  | case2 => cases hfault
  | case3 offset c cs kind text rest hl _ lexed ih =>
    intro depth first r hrun hr hfirst
    have hnext : first.start ≤ offset + byteLength text ∧
        first.stop ≤ offset + byteLength text := by omega
    have heq := (Delimiters.eq_of_lexeme hl).1
    rw [Lexed.words_cons] at hrun hstrings
    split at hrun
    · next hk =>
      cases hk
      rw [heq]
      exact (ih hfault hstrings hrun hr hnext).skip
        (Delimiters.skips_of_blank hd (Delimiters.blanks_of_lexeme hl))
    · next hk =>
      rw [if_neg hk] at hstrings
      obtain ⟨hstring, hlater⟩ := List.forall_mem_cons.1 hstrings
      obtain ⟨r', hs, hmore⟩ := Reading.exists_step_of_run hrun
      have hturns := hr.turns (Reading.moves_of_step (quoted_of_lexeme hl) hs)
      cases hturns with
      | opens ht hr' =>
        cases ht
        obtain ⟨rfl, heq⟩ := Delimiters.opening_of_lexeme hl
        rw [heq]
        exact (ih hfault hlater hmore hr' hnext).opening
      | closes ht hr' =>
        cases ht
        obtain ⟨rfl, heq, ho⟩ := Delimiters.closing_of_lexeme hl
        rw [heq] at ho ⊢
        exact (ih hfault hlater hmore hr' hnext).closing ho
      | ends ht hspan =>
        cases ht
        obtain ⟨rfl, heq, ho⟩ := Delimiters.closing_of_lexeme hl
        obtain ⟨hdone, hrest⟩ := eq_of_run_done hfault hmore
        rw [heq] at ho ⊢
        rw [← hdone, hspan, Token.span, Span.join, Nat.min_eq_left hfirst.1,
          Nat.max_eq_right hnext.2]
        exact .last hrest ho
      | stays ho hc hr' =>
        rw [heq]
        exact (ih hfault hlater hmore hr' hnext).skip
          (Delimiters.skips_of_lexeme hd hl ho hc hstring)

/-- In a source that is parsed, `scan` finds one region, where the sigil is. -/
theorem scan_of_run (hfault : (d.lexFrom offset cs).fault = none)
    (hstrings : StringsAvoid d (d.lexFrom offset cs).words)
    (hrun : (d.lexFrom offset cs).words.foldlM Reading.step .start = .ok (.done a))
    (hq : balancesQuotes cs = true) :
    ∃ before sigil after, d.scan cs = ⟨[⟨before, sigil⟩], after⟩ ∧
      a.span = ⟨offset + byteLength before, offset + byteLength before + byteLength sigil⟩ := by
  fun_induction Delimiters.lexFrom d offset cs with
  | case1 => cases hrun
  | case2 => cases hfault
  | case3 offset c cs kind text rest hl _ lexed ih =>
    rw [Lexed.words_cons] at hrun hstrings
    split at hrun
    · next hk =>
      cases hk
      have hblanks := Delimiters.blanks_of_lexeme hl
      rw [(Delimiters.eq_of_lexeme hl).1] at hq ⊢
      rw [(balancesQuotes_append hblanks).1] at hq
      obtain ⟨before, sigil, after, hscan, hspan⟩ := ih hfault hstrings hrun hq
      refine ⟨text ++ before, sigil, after, ?_, ?_⟩
      · rw [Delimiters.scan_of_skips (Delimiters.skips_of_blank hd hblanks), hscan]
        rfl
      · rw [hspan, byteLength_append, Nat.add_assoc]
    · next hk =>
      rw [if_neg hk] at hstrings
      obtain ⟨-, hlater⟩ := List.forall_mem_cons.1 hstrings
      obtain ⟨r, hs, hmore⟩ := Reading.exists_step_of_run hrun
      have hmoves := Reading.moves_of_step (quoted_of_lexeme hl) hs
      cases hmoves with
      | opening ho ht =>
        cases ho
        cases ht
        obtain ⟨rfl, heq⟩ := Delimiters.opening_of_lexeme hl
        obtain ⟨inside, after, hclose, hafter, hspan⟩ :=
          closesAt_of_run hd hfault hlater hmore .inside ⟨Nat.le_add_right .., Nat.le_refl _⟩
        rw [heq, Delimiters.eq_of_close? hclose, ← List.append_assoc,
          (balancesQuotes_append hafter).2] at hq
        refine ⟨[], d.opening ++ inside, after, ?_, ?_⟩
        · rw [heq, Delimiters.scan_of_close? hclose hq, Delimiters.plain_of_blank hd hafter]
        · rw [hspan, byteLength_append, Nat.add_assoc]
          rfl
      | dot h | closing h => cases h

/-- **The parser and extraction agree on where a sigil is.** If nothing else in a source can be
taken for a delimiter (`StringsAvoid`) and its quotes are in pairs, all that is extracted from it is
the sigil that is parsed from it. -/
theorem extract_spans_of_parse {source : String} (hp : d.parse source = .ok a)
    (hstrings : StringsAvoid d (d.lex source).words) (hq : balancesQuotes source.toList = true) :
    (d.extract source).spans = [a.span] := by
  obtain ⟨hrun, hfault⟩ := parse_eq_ok.1 hp
  obtain ⟨before, sigil, after, hscan, hspan⟩ := scan_of_run hd hfault hstrings hrun hq
  rw [Delimiters.extract, hscan, hspan, Nat.zero_add]
  simp [Extraction.spans, Extraction.spansFrom]

end

/-- The words of ` [A=[B='x'].c] `, a sigil in a sigil with blanks around. -/
def nestedWords : List Token :=
  [⟨.opening, 1, ['[']⟩, ⟨.identifier, 2, ['A']⟩, ⟨.equals, 3, ['=']⟩, ⟨.opening, 4, ['[']⟩,
    ⟨.identifier, 5, ['B']⟩, ⟨.equals, 6, ['=']⟩, ⟨.string, 7, ['\'', 'x', '\'']⟩,
    ⟨.closing, 10, [']']⟩, ⟨.dot, 11, ['.']⟩, ⟨.identifier, 12, ['c']⟩, ⟨.closing, 13, [']']⟩]

theorem extract_spans_of_parse_nested :
    (∀ c ∈ Delimiters.square.opening ++ Delimiters.square.closing, isReserved c = false) ∧
    (Delimiters.square.parse " [A=[B='x'].c] ").map Sigil.span = .ok ⟨1, 14⟩ ∧
    StringsAvoid .square (Delimiters.square.lex " [A=[B='x'].c] ").words ∧
    (Delimiters.square.extract " [A=[B='x'].c] ").spans = [⟨1, 14⟩] := by
  have hd : ∀ c ∈ Delimiters.square.opening ++ Delimiters.square.closing, isReserved c = false :=
    List.forall_mem_cons.2 ⟨by decide, List.forall_mem_singleton.2 (by decide)⟩
  have hlayout : Layout .square 0 nestedWords " [A=[B='x'].c] ".toList :=
    .blank rfl <| .token .opening <|
      .token (.identifier (by decide) (List.forall_mem_nil _)) <| .token .equals <|
      .token .opening <|
      .token (.identifier (by decide) (List.forall_mem_nil _)) <| .token .equals <|
      .token (@Spelling.string _ _ '\'' ['x'] rfl (by decide)) <| .token .closing <| .token .dot <|
      .token (.identifier (by decide) (List.forall_mem_nil _)) <| .token .closing <| .blank rfl .nil
  have hrun : nestedWords.foldlM Reading.step .start =
      .ok (.done (.mk
        (.withArgument ⟨"A", ⟨2, 3⟩⟩ (.sigil
          (.mk (.withArgument ⟨"B", ⟨5, 6⟩⟩ (.literal (.string "x") ⟨7, 10⟩)) [] ⟨4, 11⟩)))
        [.bare ⟨"c", ⟨12, 13⟩⟩] ⟨1, 14⟩)) := rfl
  obtain ⟨hwords, hfault⟩ :=
    lexFrom_of_layout Delimiters.square_clean hlayout (Reading.isChain_of_run hlayout.quoted hrun)
  have hparse := parse_eq_ok.2 ⟨hwords ▸ hrun, hfault⟩
  have hstrings : StringsAvoid .square (Delimiters.square.lex " [A=[B='x'].c] ").words := by
    rw [Delimiters.lex, hwords, StringsAvoid]
    decide
  exact ⟨hd, by rw [hparse]; rfl, hstrings, extract_spans_of_parse hd hparse hstrings (by decide)⟩

end Interpolation
