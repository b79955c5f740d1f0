import Interpolation.Proofs.Sigil.Regions
import Interpolation.Proofs.Sigil.Replacement

/-!
# Integers as arguments

Where an argument is expected, digits are read as their exact number, and as its negative after a
minus sign, if a word holds that; it is in the tree then, if there is one
(`mem_arguments_of_parse`). If none does, the source is refused there, whatever follows
(`parse_eq_error_of_integer`). Between clean delimiters an integer may be written in the place of
any argument (`exists_integer_place`). So every integer is parsed exactly or refused as out of range
(`parse_integer`).
-/

namespace Interpolation

open Text

variable {d : Delimiters} {source : String}

/-! ## What has been read stays -/

def Progress.arguments : Progress → List Argument
  | .complete node => node.arguments
  | .root | .member | .named _ | .assigned _ | .negated .. => []

/-- The arguments of the nodes that are complete, and those within them. -/
def Reading.arguments : Reading → List Argument
  | .start => []
  | .inside outer sigil progress =>
    outer.flatMap (membersArguments ·.1.nodes) ++
      (membersArguments sigil.nodes ++ progress.arguments)
  | .done s => s.arguments

theorem mem_arguments_chain {a : Argument} {last : Node} {after earlier : List Node} {span : Span} :
    a ∈ (chain last after earlier span).arguments ↔
      a ∈ membersArguments earlier ∨ a ∈ last.arguments ∨ a ∈ membersArguments after := by
  induction earlier generalizing last after with
  | nil => simp [chain, Sigil.arguments, membersArguments]
  | cons node earlier ih =>
    rw [chain, ih, membersArguments, membersArguments, List.mem_append, List.mem_append]
    tauto

namespace Reading

theorem Holds.arguments {r : Reading} {outer : List (Opened × Name)} {sigil : Opened} {node : Node}
    (h : Holds r outer sigil node) :
    r.arguments = outer.flatMap (membersArguments ·.1.nodes) ++
      (membersArguments sigil.nodes ++ node.arguments) := by
  cases h with
  | bare | complete => rfl

theorem arguments_closed (outer : List (Opened × Name)) (s : Sigil) :
    outer.flatMap (membersArguments ·.1.nodes) ++ s.arguments ⊆ (closed outer s).arguments := by
  cases outer with
  | nil => exact List.Subset.refl _
  | cons parent outer =>
    intro a ha
    simp only [List.flatMap_cons, List.mem_append] at ha
    simp only [closed, Reading.arguments, Progress.arguments, Node.withArgument,
      Node.arguments, optionArguments,
      Argument.arguments, List.mem_append, List.mem_cons]
    tauto

/-- One token takes no argument away. -/
theorem Moves.arguments_subset {r r' : Reading} {t : Token} (h : Moves r t r') :
    r.arguments ⊆ r'.arguments := by
  intro a ha
  cases h with
  | opening hr =>
    cases hr with
    | start => cases ha
    | assigned => simpa [Reading.arguments, Progress.arguments, membersArguments, or_comm] using ha
  | name hb =>
    cases hb with
    | root | member => exact ha
  | equals | minus => exact ha
  | dot hr =>
    rw [hr.arguments] at ha
    simp only [Reading.arguments, Progress.arguments, membersArguments, List.mem_append] at ha ⊢
    tauto
  | closing hr =>
    rw [hr.arguments] at ha
    refine arguments_closed _ _ ?_
    simpa [Opened.close, mem_arguments_chain, membersArguments] using ha
  | argument | negative =>
    simp only [Reading.arguments, Progress.arguments, List.mem_append,
      List.not_mem_nil, or_false] at ha ⊢
    tauto

/-- **What has been read is in the tree**: a run takes none of the `arguments` away. -/
theorem arguments_subset_of_run {ts : List Token} {r r' : Reading} (hq : ∀ t ∈ ts, t.Quoted)
    (h : ts.foldlM step r = .ok r') : r.arguments ⊆ r'.arguments := by
  induction ts generalizing r with
  | nil =>
    cases h
    exact List.Subset.refl _
  | cons t ts ih =>
    obtain ⟨r₁, hs, h⟩ := exists_step_of_run h
    obtain ⟨ht, hts⟩ := List.forall_mem_cons.1 hq
    exact List.Subset.trans (moves_of_step ht hs).arguments_subset (ih hts h)

/-- A minus sign is read where an argument is expected, and nowhere else. -/
theorem Moves.of_minus {r r' : Reading} {t : Token} (h : Moves r t r') (ht : t.kind = .minus) :
    ∃ outer sigil name, r = .inside outer sigil (.assigned name) := by
  cases h with
  | minus => exact ⟨_, _, _, rfl⟩
  | argument ha =>
    have := kind_of_readsArgument ha
    simp [ht] at this
  | name _ hk => simp [Token.NamesNode, ht] at hk
  | opening _ hk | equals hk | dot _ hk | closing _ hk | negative hk => simp [hk] at ht

/-- What comes before a minus sign leads up to an argument. -/
theorem exists_assigned_of_run {ts us : List Token} {minus : Token} {r r' : Reading}
    (hm : minus.kind = .minus) (h : (ts ++ minus :: us).foldlM step r = .ok r') :
    ∃ outer sigil name, ts.foldlM step r = .ok (.inside outer sigil (.assigned name)) := by
  cases hts : ts.foldlM step r with
  | error m =>
    rw [List.foldlM_append, hts] at h
    cases h
  | ok r₁ =>
    rw [run_append hts] at h
    obtain ⟨r₂, hs, -⟩ := exists_step_of_run h
    have hq : minus.Quoted := fun hstring => by simp [hm] at hstring
    obtain ⟨outer, sigil, name, rfl⟩ := (moves_of_step hq hs).of_minus hm
    exact ⟨outer, sigil, name, rfl⟩

end Reading

/-! ## Integers where an argument is expected -/

/-- A word holds the integer. -/
def Number.Fits (i : Int) : Prop := -2 ^ 63 ≤ i ∧ i ≤ 2 ^ 63 - 1

instance (i : Int) : Decidable (Number.Fits i) := inferInstanceAs (Decidable (_ ∧ _))

theorem Number.fits_iff {i : Int} : Fits i ↔ ∃ n : Int64, n.toInt = i := by
  have h := @isSome_toInt64? i
  rw [Option.isSome_iff_exists, Int64.toInt_minValue, Int64.toInt_maxValue] at h
  simp only [toInt64?_eq_some] at h
  exact h.symm

/-- The tokens of an integer as an argument, which are digits or a minus sign and digits, and where
it stands. -/
inductive ReadsInteger : List Token → Int → Span → Prop where
  | digits {t : Token} (ht : t.kind = .number) : ReadsInteger [t] (digitsValue t.text) t.span
  | negative {minus t : Token} (hm : minus.kind = .minus) (ht : t.kind = .number) :
    ReadsInteger [minus, t] (-digitsValue t.text) (minus.span.join t.span)

/-- Digits of a number that no word holds are refused. -/
theorem readLiteral_eq_error {negative : Bool} {digits : List Char}
    (h : ¬ Number.Fits (Number.signed negative (Nat.ofDigitChars 10 digits 0))) (span : Span) :
    readLiteral negative digits span = .error (.integerLiteralRange, span) := by
  unfold readLiteral
  split
  · next n hn => exact absurd (Number.fits_iff.2 ⟨n, Number.readDigits?_eq_some.1 hn⟩) h
  · rfl

namespace ReadsInteger

variable {ts : List Token} {i : Int} {span : Span}

theorem readsArgument {n : Int64} (h : ReadsInteger ts i span) (hn : n.toInt = i) :
    ReadsArgument ts (.literal (.integer n) span) := by
  cases h with
  | digits ht => exact .number ht hn
  | negative hm ht => exact .negative hm ht hn

/-- **An integer that no word holds is refused**, and what is pointed at is the digits with the
minus sign. -/
theorem run_eq_error (h : ReadsInteger ts i span) (hi : ¬ Number.Fits i)
    (outer : List (Opened × Name)) (sigil : Opened) (name : Name) :
    ts.foldlM Reading.step (.inside outer sigil (.assigned name)) =
      .error (.integerLiteralRange, span) := by
  cases h with
  | @digits t ht =>
    rw [List.foldlM_cons, Reading.step, Reading.argument, ht]
    dsimp only
    rw [@readLiteral_eq_error false _ hi]
    rfl
  | @negative minus t hm ht =>
    rw [Reading.run_cons (.minus hm), List.foldlM_cons, Reading.step, if_pos ht,
      @readLiteral_eq_error true _ hi]
    rfl

/-- Zero may be written with tokens of the same kinds as `ts`. -/
theorem exists_zero (h : ReadsInteger ts i span) :
    ∃ zero span', ReadsInteger zero 0 span' ∧ zero.map Token.kind = ts.map Token.kind := by
  cases h with
  | @digits t ht => exact ⟨_, _, .digits (t := { t with text := ['0'] }) ht, rfl⟩
  | @negative minus t hm ht => exact ⟨_, _, .negative (t := { t with text := ['0'] }) hm ht, rfl⟩

theorem quoted (h : ReadsInteger ts i span) : ∀ t ∈ ts, t.Quoted := by
  have hquoted {t : Token} (ht : t.kind ≠ .string) : t.Quoted := fun hstring => absurd hstring ht
  cases h with
  | digits ht => exact List.forall_mem_singleton.2 (hquoted (by simp [ht]))
  | negative hm ht =>
    exact List.forall_mem_cons.2 ⟨hquoted (by simp [hm]),
      List.forall_mem_singleton.2 (hquoted (by simp [ht]))⟩

end ReadsInteger

section
variable [IdentifierRule] {before literal after : List Token} {outer : List (Opened × Name)}
    {sigil : Opened} {name : Name}
  (hwords : (d.lex source).words = before ++ (literal ++ after))
  (hbefore : before.foldlM Reading.step .start = .ok (.inside outer sigil (.assigned name)))
include hwords hbefore

/-- **What stands where an argument is expected is an argument of the tree**, if there is one. -/
theorem mem_arguments_of_parse {a : Argument} (ha : ReadsArgument literal a) {s : Sigil}
    (hs : d.parse source = .ok s) :
    a ∈ s.arguments := by
  have hq : ∀ t ∈ (d.lex source).words, t.Quoted := fun t ht => (regions_of_words t ht).1
  have hrun : (d.lex source).words.foldlM Reading.step .start = .ok (.done s) :=
    (parse_eq_ok.1 hs).1
  rw [hwords] at hq hrun
  rw [Reading.run_append hbefore,
    Reading.run_append (Reading.run_argument ha outer sigil name)] at hrun
  have hafter : ∀ t ∈ after, t.Quoted :=
    fun t ht => hq t (List.mem_append_right _ (List.mem_append_right _ ht))
  refine Reading.arguments_subset_of_run hafter hrun ?_
  simp [Reading.arguments, Progress.arguments, Node.withArgument, Node.arguments, optionArguments]

/-- **An integer that no word holds makes a source refused**, whatever follows. -/
theorem parse_eq_error_of_integer {i : Int} {span : Span} (hliteral : ReadsInteger literal i span)
    (hi : ¬ Number.Fits i) :
    d.parse source = .error ⟨.integerLiteralRange, some ⟨source, span⟩, []⟩ := by
  have hrun : (d.lex source).words.foldlM Reading.step .start =
      .error (.integerLiteralRange, span) := by
    rw [hwords, Reading.run_append hbefore, List.foldlM_append, hliteral.run_eq_error hi]
    rfl
  have hne : source ≠ "" := by
    rintro rfl
    have hnil : (d.lex "").words = [] := by simp [Delimiters.lex, Delimiters.lexFrom, Lexed.words]
    rw [hnil] at hrun
    cases hrun
  rw [Delimiters.parse, sigil_of_misread hrun]
  exact congrArg Except.error (if_pos ⟨rfl, hne⟩)

end

/-! ## Integers in the place of an argument -/

/-- The text is a way to write the integer: digits, or a minus sign and digits with any blanks
between. -/
inductive WritesInteger : List Char → Int → Prop where
  | digits {cs : List Char} (hne : cs ≠ []) (hcs : ∀ c ∈ cs, c.isDigit = true) :
    WritesInteger cs (digitsValue cs)
  | negative {blanks cs : List Char} (hblanks : ∀ c ∈ blanks, isTokenBlank c = true) (hne : cs ≠ [])
    (hcs : ∀ c ∈ cs, c.isDigit = true) : WritesInteger ('-' :: (blanks ++ cs)) (-digitsValue cs)

/-- Whether tokens run together is up to their kinds. -/
theorem isChain_of_kinds {ts us : List Token} (h : us.map Token.kind = ts.map Token.kind)
    (hts : List.IsChain Token.MayPrecede ts) : List.IsChain Token.MayPrecede us := by
  have hkinds (ts : List Token) : List.IsChain Token.MayPrecede ts ↔
      List.IsChain (fun k k' => Token.MayPrecede ⟨k, 0, []⟩ ⟨k', 0, []⟩) (ts.map Token.kind) := by
    rw [List.isChain_map]
    rfl
  rwa [hkinds, h, ← hkinds]

section
variable [IdentifierRule]

/-- An integer is read from the text that it is written as. -/
theorem WritesInteger.exists_tokens {text : List Char} {i : Int} (h : WritesInteger text i)
    (d : Delimiters) (offset : Nat) :
    ∃ ts, Layout d offset ts text ∧ ReadsInteger ts i ⟨offset, offset + byteLength text⟩ := by
  cases h with
  | digits hne hcs => exact ⟨_, .single (spelling_of_isDigit hne hcs), .digits rfl⟩
  | @negative blanks cs hblanks hne hcs =>
    have hlayout : Layout d offset _ (['-'] ++ (blanks ++ cs)) :=
      .token .minus (.blanks hblanks (.single (spelling_of_isDigit hne hcs)))
    refine ⟨_, hlayout, ?_⟩
    have hspan := hlayout.join_eq List.mem_cons_self (List.mem_cons_of_mem _ List.mem_cons_self) rfl
      (by simp [Token.span, Nat.add_assoc])
    rw [List.singleton_append] at hspan
    rw [← hspan]
    exact .negative rfl rfl

/-- **An integer may be written in the place of any argument.** What comes before leads up to an
argument, and the integer is read there (`ReadsInteger`). -/
theorem exists_integer_place (hd : d.Clean) {s : Sigil} (hs : d.parse source = .ok s) {a : Argument}
    (ha : a ∈ s.arguments) :
    ∃ before old after us, source.toList = before ++ old ++ after ∧
      a.span = ⟨byteLength before, byteLength before + byteLength old⟩ ∧
      (∃ outer sigil name, us.foldlM Reading.step .start =
        .ok (.inside outer sigil (.assigned name))) ∧
      ∀ text i, WritesInteger text i → ∃ ts vs,
        (d.lex (String.ofList (before ++ text ++ after))).words = us ++ (ts ++ vs) ∧
        ReadsInteger ts i ⟨byteLength before, byteLength before + byteLength text⟩ ∧
        ∀ a', ReadsArgument ts a' → ∃ s', Renders d (String.ofList (before ++ text ++ after)) s' ∧
          (Correspondence.replacing a a').Sigils s s' := by
  obtain ⟨before, old, after, us, hsource, hspan, ⟨as, hold, has⟩, hplace⟩ :=
    exists_place (renders_of_parse hs) ha
  refine ⟨before, old, after, us, hsource, hspan, ?_, fun text i htext => ?_⟩
  · obtain ⟨vs, -, hread⟩ := hplace old as hold
    have hzero : ReadsInteger [⟨.minus, 0, ['-']⟩, ⟨.number, 0, ['0']⟩] 0 _ := .negative rfl rfl
    obtain ⟨s', hs', -⟩ := hread _ _ (hzero.readsArgument (n := 0) rfl)
    have hrun := Reading.run_sigil hs' _ _ .start
    rw [List.append_assoc] at hrun
    exact Reading.exists_assigned_of_run rfl hrun
  · obtain ⟨ts, hnew, hts⟩ := htext.exists_tokens d (byteLength before)
    obtain ⟨vs, hlayout, hread⟩ := hplace text ts hnew
    -- whether the tokens run together is seen with zero in the place of the integer, which may be
    -- out of range
    obtain ⟨zero, span', hzero, hkinds⟩ := hts.exists_zero
    obtain ⟨s', hs', -⟩ := hread zero _ (hzero.readsArgument (n := 0) rfl)
    have hquoted : ∀ t ∈ us ++ zero ++ vs, t.Quoted := by
      obtain ⟨hus, hvs⟩ := List.forall_mem_append.1 hlayout.quoted
      exact List.forall_mem_append.2 ⟨List.forall_mem_append.2
        ⟨(List.forall_mem_append.1 hus).1, hzero.quoted⟩, hvs⟩
    have hchain := Reading.isChain_of_run hquoted (Reading.run_sigil hs' _ _ .start)
    have hwords := (lexFrom_of_layout hd hlayout (isChain_of_kinds (by simp [hkinds]) hchain)).1
    refine ⟨ts, vs, ?_, hts, fun a' ha' => ?_⟩
    · rw [Delimiters.lex, String.toList_ofList, hwords, List.append_assoc]
    · obtain ⟨s', hs', hk⟩ := hread ts a' ha'
      exact ⟨s', ⟨_, by rwa [String.toList_ofList], hs'⟩, hk⟩

/-- **Integers are parsed exactly or refused.** Digits, however many and with any zeros in front,
stand for their number, and for its negative after a minus sign. Take a source, between any
delimiters, in which they stand (`ReadsInteger`) where an argument is expected. If a word holds the
number, they are read as the argument that is that word, which is in the tree if the source is
parsed to one; if none does, the source is refused as out of range, whatever follows, and the error
points at all from the minus sign to the last digit. Between clean delimiters they may be written in
the place of any argument, with any blanks after the minus sign: the source is parsed to the same
tree with the number for that argument, or refused. The digits are read into a word one at a time.
For any digits, and so for every beginning of them, that word is there exactly if it holds their
number. -/
theorem parse_integer (d : Delimiters) :
    (∀ {source : String} {before literal after : List Token} {outer : List (Opened × Name)}
        {sigil : Opened} {name : Name} {i : Int} {span : Span},
      (d.lex source).words = before ++ (literal ++ after) →
      before.foldlM Reading.step .start = .ok (.inside outer sigil (.assigned name)) →
      ReadsInteger literal i span →
      (Number.Fits i → ∃ n : Int64, n.toInt = i ∧
        literal.foldlM Reading.step (.inside outer sigil (.assigned name)) =
          .ok (.inside outer sigil (.complete (.withArgument name (.literal (.integer n) span)))) ∧
        ∀ s, d.parse source = .ok s → .literal (.integer n) span ∈ s.arguments) ∧
      (¬ Number.Fits i → d.parse source = .error ⟨.integerLiteralRange, some ⟨source, span⟩, []⟩)) ∧
    (d.Clean → ∀ {source : String} {s : Sigil} {a : Argument},
      d.parse source = .ok s → a ∈ s.arguments →
      ∃ before old after, source.toList = before ++ old ++ after ∧
        a.span = ⟨byteLength before, byteLength before + byteLength old⟩ ∧
        ∀ {text : List Char} {i : Int}, WritesInteger text i →
          let written := String.ofList (before ++ text ++ after)
          let span : Span := ⟨byteLength before, byteLength before + byteLength text⟩
          (Number.Fits i → ∃ (n : Int64) (s' : Sigil), n.toInt = i ∧ d.parse written = .ok s' ∧
            .literal (.integer n) span ∈ s'.arguments ∧
            (Correspondence.replacing a (.literal (.integer n) span)).Sigils s s') ∧
          (¬ Number.Fits i →
            d.parse written = .error ⟨.integerLiteralRange, some ⟨written, span⟩, []⟩)) ∧
    (∀ (negative : Bool) (digits : List Char) (n : Int64),
      Number.readDigits? negative digits = some n ↔
      n.toInt = if negative then -digitsValue digits else digitsValue digits) ∧
    Fault.integerLiteralRange.kind = .parse := by
  refine ⟨fun {source before literal after outer sigil name i span} hwords hbefore hliteral =>
    ⟨fun hfits => ?_, ?_⟩,
    fun hd source s a hs ha => ?_, fun _ _ _ => Number.readDigits?_eq_some, rfl⟩
  · obtain ⟨n, hn⟩ := Number.fits_iff.1 hfits
    have hread := hliteral.readsArgument hn
    exact ⟨n, hn, Reading.run_argument hread outer sigil name,
      fun s hs => mem_arguments_of_parse hwords hbefore hread hs⟩
  · exact parse_eq_error_of_integer hwords hbefore hliteral
  · obtain ⟨before, old, after, us, hsource, hspan, ⟨outer, sigil, name, hus⟩, hplace⟩ :=
      exists_integer_place hd hs ha
    refine ⟨before, old, after, hsource, hspan, fun {text i} htext => ?_⟩
    obtain ⟨ts, vs, hwords, hts, hread⟩ := hplace text i htext
    refine ⟨fun hfits => ?_, parse_eq_error_of_integer hwords hus hts⟩
    obtain ⟨n, hn⟩ := Number.fits_iff.1 hfits
    have hliteral := hts.readsArgument hn
    obtain ⟨s', hs', hk⟩ := hread _ hliteral
    have hparse := parse_of_renders hd hs'
    exact ⟨n, s', hn, hparse, mem_arguments_of_parse hwords hus hliteral hparse, hk⟩

end

/-- The least integer with a blank after its minus sign and its opposite with zeros in front, in the
place of a nested argument, and what is one less in a source that is cut off after it, between
delimiters that are not clean. -/
theorem parse_integer_least :
    WritesInteger "- 9223372036854775808".toList Int64.minValue.toInt ∧
    (∃ s, Delimiters.square.parse "[A=[B=- 9223372036854775808].C]" = .ok s ∧
      .literal (.integer Int64.minValue) ⟨6, 27⟩ ∈ s.arguments) ∧
    Delimiters.square.parse "[A=[B=009223372036854775808].C]" =
      .error ⟨.integerLiteralRange, some ⟨"[A=[B=009223372036854775808].C]", ⟨6, 27⟩⟩, []⟩ ∧
    let d : Delimiters := ⟨['-', '['], [']'], by simp, by simp, by simp⟩
    d.parse "-[A=-9223372036854775809'" =
      .error ⟨.integerLiteralRange, some ⟨"-[A=-9223372036854775809'", ⟨4, 24⟩⟩, []⟩ := by
  have hleast : WritesInteger "- 9223372036854775808".toList Int64.minValue.toInt :=
    @WritesInteger.negative [' '] "9223372036854775808".toList (List.all_eq_true.1 rfl) (by decide)
      (List.all_eq_true.1 rfl)
  have hopposite : WritesInteger "009223372036854775808".toList 9223372036854775808 :=
    .digits (by decide) (List.all_eq_true.1 rfl)
  have hparse : Delimiters.square.parse "[A=[B=X].C]" = .ok (.mk
      (.withArgument ⟨"A", ⟨1, 2⟩⟩ (.sigil (.mk
        (.withArgument ⟨"B", ⟨4, 5⟩⟩ (.variable ⟨"X", ⟨6, 7⟩⟩)) [] ⟨3, 8⟩)))
      [.bare ⟨"C", ⟨9, 10⟩⟩] ⟨0, 11⟩) := by cbv
  obtain ⟨before, old, after, hsource, hspan, hwrite⟩ :=
    (parse_integer Delimiters.square).2.1 Delimiters.square_clean
    hparse (List.mem_cons_of_mem _ List.mem_cons_self)
  have hsource : "[A=[B=".toList ++ ['X'] ++ "].C]".toList = before ++ old ++ after := hsource
  obtain ⟨rfl, rfl, rfl⟩ := part_unique hsource hspan
  refine ⟨hleast, ?_, (hwrite hopposite).2 (by decide), ?_⟩
  · obtain ⟨n, s, hn, hs, hmem, -⟩ := (hwrite hleast).1 (by decide)
    obtain rfl := Int64.toInt_inj.1 hn
    exact ⟨s, hs, hmem⟩
  · intro d
    have hwords : (d.lex "-[A=-9223372036854775809'").words =
        [⟨.opening, 0, ['-', '[']⟩, ⟨.identifier, 2, ['A']⟩, ⟨.equals, 3, ['=']⟩] ++
          ([⟨.minus, 4, ['-']⟩, ⟨.number, 5, "9223372036854775809".toList⟩] ++ []) := by cbv
    exact ((parse_integer d).1 hwords rfl (.negative rfl rfl)).2 (by decide)

end Interpolation
