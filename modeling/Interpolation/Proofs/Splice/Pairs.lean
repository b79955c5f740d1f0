import Interpolation.Proofs.Extraction.Spans
import Interpolation.Proofs.Sigil.Location
import Interpolation.Proofs.Sigil.Replacement
import Interpolation.Proofs.Splice.Asks

/-!
# Which pairs of delimiters delimit sigils

Any two texts that are not empty and differ make a pair. Of the pairs without the characters of
other tokens, those can be used in which the closing delimiter does not begin with the opening one
(`Delimiters.delimits_iff`). In the others it is never seen: extraction and the lexer look for an
opening delimiter first.
-/

namespace Interpolation

open Text

variable {σ : Type} {d : Delimiters} {name : String}

/-! ## A name between delimiters -/

namespace Delimiters

/-- `name` between the delimiters, without blanks. -/
def wrap (d : Delimiters) (name : String) :
    String := String.ofList (d.opening ++ (name.toList ++ d.closing))

/-- A name between the delimiters is a sigil. It is extracted, it is parsed as that name alone, and
an engine that writes texts as they are splices it to the text that the name is bound to, if that
holds no opening delimiter and no other value is kept of the sigil. -/
structure Delimits (d : Delimiters) (name : String) : Prop where
  sigils : (d.extract (d.wrap name)).sigils = [d.wrap name]
  spans : (d.extract (d.wrap name)).spans = [⟨0, byteLength (d.wrap name).toList⟩]
  parses : ∃ a, d.parse (d.wrap name) = .ok a ∧ a.names = [name]
  splices : ∀ {σ : Type} (e : Engine σ) (c : Context) (value : String) (s : σ), e.delimiters = d →
    c.get? name = some (.str value) →
    (∀ v, e.kept? (d.wrap name) c.cache = some v → v = .str value) →
    (∀ t, (e.format (.str value)).run t = (.ok value, t)) → occurs d.opening value.toList = false →
    ∃ c', (e.splice c (d.wrap name)).run s = ((.ok value, c'), s)

theorem toList_wrap :
    (d.wrap name).toList = d.opening ++ (name.toList ++ d.closing) := String.toList_ofList

theorem isReserved_of_isIdentifier (hname : IsIdentifier name) :
    ∀ c ∈ name.toList, isReserved c = true := by
  obtain ⟨c, cs, hcs, hc, hmore⟩ := hname
  rw [hcs]
  exact List.forall_mem_cons.2
    ⟨isReserved_of_continuesIdentifier (continuesIdentifier_of_startsIdentifier hc),
      fun c hc => isReserved_of_continuesIdentifier (hmore c hc)⟩

theorem mayHoldSigil_of_not_occurs {text : String} (h : occurs d.opening text.toList = false) :
    d.mayHoldSigil text = false := by
  rw [mayHoldSigil, Option.not_isSome_iff_eq_none.1 (Bool.eq_false_iff.1 h)]

theorem stripStart?_closing (hbegins : ¬ d.opening <+: d.closing) :
    stripStart? d.opening d.closing = none :=
  Option.eq_none_iff_forall_ne_some.2 fun _ h => hbegins ⟨_, (stripStart?_eq_some.1 h).symm⟩

section
variable (hd : ∀ c ∈ d.opening ++ d.closing, isReserved c = false) (hname : IsIdentifier name)
include hd hname

theorem close?_wrap (depth : Nat) : d.close? depth (name.toList ++ d.closing) =
    (d.close? depth d.closing).map fun (inside, after) => (name.toList ++ inside, after) :=
  close?_append_of_skips (skips_of_isReserved hd (isReserved_of_isIdentifier hname)) depth

theorem balancesQuotes_wrap : balancesQuotes (d.wrap name).toList = true := by
  obtain ⟨c, cs, hcs, hc, hmore⟩ := hname
  have hquote : ∀ q, isQuote q = true → q ∉ (d.wrap name).toList := by
    intro q hq hmem
    have hreserved : isReserved q = true := by simp [isReserved, hq]
    have hword : ∀ c ∈ name.toList, isQuote c = false := by
      rw [hcs]
      exact List.forall_mem_cons.2
        ⟨isQuote_of_continuesIdentifier (continuesIdentifier_of_startsIdentifier hc),
          fun c hc => isQuote_of_continuesIdentifier (hmore c hc)⟩
    rw [toList_wrap] at hmem
    rcases List.mem_append.1 hmem with hmem | hmem
    · exact absurd (hd q (List.mem_append_left _ hmem)) (by simp [hreserved])
    rcases List.mem_append.1 hmem with hmem | hmem
    · exact absurd (hword q hmem) (by simp [hq])
    · exact absurd (hd q (List.mem_append_right _ hmem)) (by simp [hreserved])
  rw [balancesQuotes, List.count_eq_zero.2 (hquote '\'' (by decide)),
    List.count_eq_zero.2 (hquote '"' (by decide))]
  rfl

/-- What a name between delimiters (`wrap`) begins with, as tokens. -/
theorem words_wrap :
    ∃ opening t : Token, opening.kind = .opening ∧ t.kind = .identifier ∧ t.name.text = name ∧
    (d.lexFrom 0 (d.wrap name).toList).words =
      opening :: t :: (d.lexFrom (t.start + byteLength t.text) d.closing).words ∧
    (d.lexFrom 0 (d.wrap name).toList).fault =
      (d.lexFrom (t.start + byteLength t.text) d.closing).fault := by
  obtain ⟨c, cs, hcs, hc, hmore⟩ := hname
  have hidentifier : d.lexeme c (cs ++ d.closing) = .token .identifier (c :: cs) d.closing :=
    lexeme_of_identifier hd hc hmore (by simpa using continuesIdentifier_of_closing hd [])
  refine ⟨⟨.opening, 0, d.opening⟩, ⟨.identifier, 0 + byteLength d.opening, c :: cs⟩,
    rfl, rfl, ?_, ?_⟩
  · rw [← String.toList_inj, hcs]
    exact String.toList_ofList
  · rw [toList_wrap, lexFrom_opening, hcs, List.cons_append, lexFrom_of_lexeme hidentifier]
    exact ⟨rfl, rfl⟩

/-! ## Where the closing delimiter is seen -/

section
variable (hbegins : ¬ d.opening <+: d.closing)
include hbegins

theorem isSigil_wrap : d.IsSigil (d.wrap name).toList := by
  have hclosing : stripStart? d.closing d.closing = some [] :=
    stripStart?_eq_some.2 (List.append_nil _).symm
  have hclose : d.close? 0 (name.toList ++ d.closing) = some (name.toList ++ d.closing, []) := by
    rw [close?_wrap hd hname, close?_of_closing (stripStart?_closing hbegins) hclosing]
    rfl
  have hquotes := balancesQuotes_wrap hd hname
  rw [toList_wrap] at hquotes ⊢
  exact isSigil_of_close? hclose hquotes

theorem parse_wrap : ∃ (n : Name) (span : Span), n.text = name ∧
    d.parse (d.wrap name) = .ok (.mk (.bare n) [] span) := by
  obtain ⟨opening, t, ho, ht, htext, hwords, hfault⟩ := words_wrap hd hname
  have hlex (offset : Nat) : d.lexFrom offset d.closing =
      ⟨[⟨.closing, offset, d.closing⟩], none⟩ := by
    have hclosing := stripStart?_closing hbegins
    rw [← List.append_nil d.closing] at hclosing
    have hlex := lexFrom_closing hclosing offset
    rwa [lexFrom, List.append_nil] at hlex
  rw [hlex] at hwords hfault
  let closing : Token := ⟨.closing, t.start + byteLength t.text, d.closing⟩
  have hsigil := readsSigil_bare ho ht (show closing.kind = .closing from rfl)
  refine ⟨t.name, opening.span.join closing.span, htext, parse_eq_ok.2 ⟨?_, hfault⟩⟩
  rw [hwords]
  exact Reading.run_sigil hsigil _ _ .start

theorem resolve_wrap {e : Engine σ} (he : e.delimiters = d) {find? : String → Option Value}
    {value : String} (hfind : find? name = some (.str value)) :
    e.resolve find? (d.wrap name) = pure (.str value) := by
  subst he
  obtain ⟨n, span, hn, hparse⟩ := parse_wrap hd hname hbegins
  rw [resolve_of_parse hparse, Scene.evalSigil_bare, Scene.evalName, Scene.lookup]
  dsimp only
  rw [hn, hfind]
  rfl

theorem splice_wrap {e : Engine σ} (he : e.delimiters = d) {c : Context} {value : String} {s : σ}
    (hbound : c.get? name = some (.str value))
    (hkept : ∀ v, e.kept? (d.wrap name) c.cache = some v → v = .str value)
    (hformat : ∀ t, (e.format (.str value)).run t = (.ok value, t))
    (hvalue : occurs d.opening value.toList = false) :
    ∃ c', (e.splice c (d.wrap name)).run s = ((.ok value, c'), s) := by
  subst he
  obtain ⟨w, hw, hhost⟩ : ∃ w, (e.value c.get? (e.delimiters.wrap name)).run ⟨c.cache, s⟩ =
      (.ok (.str value), w) ∧
      w.host = s := by
    cases hk : e.kept? (e.delimiters.wrap name) c.cache with
    | some v =>
      obtain rfl := hkept v hk
      exact ⟨_, Engine.run_value_of_kept hk, rfl⟩
    | none =>
      refine ⟨_, Engine.run_value_of_ok hk (s := s) ?_, rfl⟩
      rw [resolve_wrap hd hname hbegins rfl hbound]
      rfl
  exact ⟨_, Engine.run_splice_of_value (isSigil_wrap hd hname hbegins).scan hw rfl
    (hhost ▸ hformat w.host) (mayHoldSigil_of_not_occurs hvalue)⟩

end

/-! ## Where it is not seen -/

section
variable (hbegins : d.opening <+: d.closing)
include hbegins

/-- The closing delimiter is taken for an opening one, and what is left of it is too short for
another. -/
theorem scan_wrap : d.scan (d.wrap name).toList = ⟨[], (d.wrap name).toList⟩ := by
  obtain ⟨more, hmore⟩ := hbegins
  have hopening : stripStart? d.opening d.closing = some more := stripStart?_eq_some.2 hmore.symm
  have hclose : d.close? 1 more = none := by
    refine Option.eq_none_iff_forall_ne_some.2 fun (inside, after) hclose => ?_
    have hlength := (closing_suffix_of_close? hclose).length_le
    have hshort := length_lt_of_stripStart? d.opening_ne_nil hopening
    rw [eq_of_close? hclose, List.length_append] at hshort
    omega
  have hnone : d.close? 0 (name.toList ++ d.closing) = none := by
    rw [close?_wrap hd hname, close?_of_opening hopening, hclose]
    rfl
  rw [toList_wrap, scan_of_close?_eq_none hnone]

theorem parse_wrap_eq_error : ∃ err, d.parse (d.wrap name) = .error err ∧ err.kind = .parse := by
  obtain ⟨opening, t, ho, ht, -, hwords, -⟩ := words_wrap hd hname
  obtain ⟨more, hmore⟩ := hbegins
  rw [← hmore, lexFrom_opening, Lexed.words_cons, if_neg nofun] at hwords
  cases hparse : d.parse (d.wrap name) with
  | error err => exact ⟨err, rfl, kind_of_parse hparse⟩
  | ok a =>
    obtain ⟨hrun, -⟩ := parse_eq_ok.1 hparse
    rw [hwords, Reading.run_cons (.opening .start ho),
      Reading.run_cons (.name .root (.inl ht))] at hrun
    cases hrun

end

end

/-- **A pair of delimiters delimits sigils unless the closing one begins with the opening one.**
Take delimiters without the characters of other tokens, and an identifier. Between them it is
extracted, parsed and spliced as a sigil (`Delimits`) exactly if the closing delimiter does not
begin with the opening one. If it does, nothing is extracted from that text, it is refused as not in
the grammar, and it is spliced to itself. -/
theorem delimits_iff (hd : ∀ c ∈ d.opening ++ d.closing, isReserved c = false)
    (hname : IsIdentifier name) :
    (d.Delimits name ↔ ¬ d.opening <+: d.closing) ∧
    (d.opening <+: d.closing →
      (d.extract (d.wrap name)).sigils = [] ∧
      (∃ err, d.parse (d.wrap name) = .error err ∧ err.kind = .parse) ∧
      ∀ {σ : Type} (e : Engine σ) (c : Context) (s : σ), e.delimiters = d →
        (e.splice c (d.wrap name)).run s = ((.ok (d.wrap name), c), s)) := by
  have hnone (hbegins : d.opening <+: d.closing) : (d.extract (d.wrap name)).sigils = [] := by
    rw [extract, scan_wrap hd hname hbegins]
    rfl
  refine ⟨⟨fun h hbegins => ?_, fun hbegins => ⟨?_, ?_, ?_, ?_⟩⟩,
    fun hbegins => ⟨hnone hbegins, ?_, ?_⟩⟩
  · cases h.sigils.symm.trans (hnone hbegins)
  · exact sigils_of_extract (isSigil_wrap hd hname hbegins).scan
  · exact (isSigil_wrap hd hname hbegins).spans
  · obtain ⟨n, span, hn, hparse⟩ := parse_wrap hd hname hbegins
    exact ⟨_, hparse, congrArg (fun text => [text]) hn⟩
  · intro σ e c value s he hbound hkept hformat hvalue
    exact splice_wrap hd hname hbegins he hbound hkept hformat hvalue
  · exact parse_wrap_eq_error hd hname hbegins
  · rintro σ e c s rfl
    exact Engine.run_splice_of_no_sigils (hnone hbegins) s

/-- The closing delimiter is the opening one without its end. -/
theorem delimits_iff_doubled :
    let d : Delimiters := ⟨['<', '<'], ['<'], by simp, by simp, by simp⟩
    let e : Engine Unit := { Engine.new Host.echo with delimiters := d }
    let c : Context := ⟨0, Table.empty.insert "A" (.str "x>"), [], ∅⟩
    (∀ c ∈ d.opening ++ d.closing, isReserved c = false) ∧ IsIdentifier "A" ∧ d.Delimits "A" ∧
    ∃ c', (e.splice c "<<A<").run () = ((.ok "x>", c'), ()) := by
  intro d e c
  have hd : ∀ c ∈ d.opening ++ d.closing, isReserved c = false :=
    List.forall_mem_cons.2 ⟨by decide,
      List.forall_mem_cons.2 ⟨by decide, List.forall_mem_singleton.2 (by decide)⟩⟩
  have hname : IsIdentifier "A" := ⟨'A', [], rfl, by decide, List.forall_mem_nil _⟩
  have hdelimits := (delimits_iff hd hname).1.2 (by decide)
  refine ⟨hd, hname, hdelimits, hdelimits.splices e c "x>" () rfl rfl ?_ (fun _ => rfl) (by decide)⟩
  rintro v ⟨⟩

/-- **Not every pair of delimiters delimits sigils.** Nothing is extracted from `<A<<` if the
opening delimiter is `<` and the closing one is `<<`. -/
theorem not_delimits :
    ¬ ∀ (d : Delimiters) (name : String), (∀ c ∈ d.opening ++ d.closing, isReserved c = false) →
    IsIdentifier name → (d.extract (d.wrap name)).sigils = [d.wrap name] := by
  intro h
  let d : Delimiters := ⟨['<'], ['<', '<'], by simp, by simp, by simp⟩
  have hd : ∀ c ∈ d.opening ++ d.closing, isReserved c = false :=
    List.forall_mem_cons.2 ⟨by decide,
      List.forall_mem_cons.2 ⟨by decide, List.forall_mem_singleton.2 (by decide)⟩⟩
  have hname : IsIdentifier "A" := ⟨'A', [], rfl, by decide, List.forall_mem_nil _⟩
  have hsigils := h d "A" hd hname
  rw [extract, scan_wrap hd hname (by decide)] at hsigils
  cases hsigils

end Delimiters
end Interpolation
