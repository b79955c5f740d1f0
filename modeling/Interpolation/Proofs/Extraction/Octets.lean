import Interpolation.Proofs.Extraction.Pieces
import Interpolation.Proofs.Text.Encoding

/-!
# Extraction byte by byte

A text can be read as the bytes of its UTF-8, with an offset into them, a count of the regions that
are open, and the offset at which the outermost one was opened (`regionsFrom`). That reading steps
over bytes inside characters, too. It finds a delimiter only where one stands in the text, at the
border of two characters, hence its regions are those of the sigils that are extracted
(`regions_eq_spans`).
-/

namespace Interpolation

open Text

/-- The number of quotes of either kind among the bytes is even. -/
def balancesQuoteOctets (bytes : List UInt8) :
    Bool := bytes.count 0x27 % 2 == 0 && bytes.count 0x22 % 2 == 0

namespace Delimiters

theorem byteLength_opening_pos (d : Delimiters) : 0 < byteLength d.opening :=
  Nat.pos_of_ne_zero fun h => d.opening_ne_nil (byteLength_eq_zero.1 h)

theorem byteLength_closing_pos (d : Delimiters) : 0 < byteLength d.closing :=
  Nat.pos_of_ne_zero fun h => d.closing_ne_nil (byteLength_eq_zero.1 h)

/-- The regions with balanced quotes between delimiters, found from byte `i` on. There `depth`
regions are open, the outermost one from byte `start` on. -/
def regionsFrom (d : Delimiters) (bytes : List UInt8) (depth start i : Nat) : List Span :=
  if i < bytes.length then
    if encode d.opening <+: bytes.drop i then
      regionsFrom d bytes (depth + 1) (if depth = 0 then i else start) (i + byteLength d.opening)
    else if 0 < depth ∧ encode d.closing <+: bytes.drop i then
      let stop := i + byteLength d.closing
      let regions := regionsFrom d bytes (depth - 1) start stop
      if depth = 1 ∧ balancesQuoteOctets ((bytes.take stop).drop start) then
        ⟨start, stop⟩ :: regions
      else regions
    else regionsFrom d bytes depth start (i + 1)
  else []
termination_by bytes.length - i
decreasing_by
  · have := d.byteLength_opening_pos
    omega
  · have := d.byteLength_closing_pos
    omega
  · omega

/-- The regions of a text that is read byte by byte, by `regionsFrom`. -/
def regions (d : Delimiters) (bytes : List UInt8) : List Span := d.regionsFrom bytes 0 0 0

variable {d : Delimiters} {whole before cs rest : List Char} {depth start : Nat}

/-! ## Bytes and characters -/

theorem drop_encode (before cs : List Char) :
    (encode (before ++ cs)).drop (byteLength before) = encode cs := by
  rw [encode_append, ← length_encode, List.drop_left]

/-- The bytes from one border of characters to another. -/
theorem drop_take_encode (before region after : List Char) :
    ((encode (before ++ region ++ after)).take (byteLength (before ++ region))).drop
      (byteLength before) =
      encode region := by
  rw [encode_append, ← length_encode (before ++ region), List.take_left, drop_encode]

/-- Where `part` stands in the bytes of a text, it stands in the text. -/
theorem encode_prefix_drop_iff {part : List Char} (hw : whole = before ++ cs) :
    encode part <+: (encode whole).drop (byteLength before) ↔
    (stripStart? part cs).isSome = true := by
  rw [hw, drop_encode, encode_prefix_encode_iff, Option.isSome_iff_exists]
  exact exists_congr fun rest => eq_comm.trans stripStart?_eq_some.symm

theorem append_of_stripStart? {part : List Char} (hw : whole = before ++ cs)
    (h : stripStart? part cs = some rest) :
    whole = before ++ part ++ rest := by
  rw [hw, stripStart?_eq_some.1 h, List.append_assoc]

theorem balancesQuoteOctets_encode (cs : List Char) :
    balancesQuoteOctets (encode cs) = balancesQuotes cs := by
  have hsingle : (encode cs).count 0x27 = cs.count '\'' := count_encode (q := '\'') (by decide) cs
  have hdouble : (encode cs).count 0x22 = cs.count '"' := count_encode (q := '"') (by decide) cs
  rw [balancesQuoteOctets, balancesQuotes, hsingle, hdouble]

/-! ## The steps of the reading -/

theorem length_lt_of_append (hw : whole = before ++ cs) (hne : cs ≠ []) :
    byteLength before < (encode whole).length := by
  have := Nat.pos_of_ne_zero fun h => hne (byteLength_eq_zero.1 h)
  rw [hw, length_encode, byteLength_append]
  omega

theorem length_lt_of_part {part : List Char} (hw : whole = before ++ cs) (hp : part ≠ [])
    (h : stripStart? part cs = some rest) : byteLength before < (encode whole).length :=
  length_lt_of_append hw (List.ne_nil_of_length_pos
    (Nat.zero_lt_of_lt (length_lt_of_stripStart? hp h)))

theorem regionsFrom_nil : d.regionsFrom (encode whole) depth start (byteLength whole) = [] := by
  rw [regionsFrom, if_neg]
  simp

theorem regionsFrom_of_opening (hw : whole = before ++ cs)
    (h : stripStart? d.opening cs = some rest) :
    d.regionsFrom (encode whole) depth start (byteLength before) =
      d.regionsFrom (encode whole) (depth + 1) (if depth = 0 then byteLength before else start)
        (byteLength (before ++ d.opening)) := by
  have hprefix : encode d.opening <+: (encode whole).drop (byteLength before) := by
    rw [encode_prefix_drop_iff hw, h]
    rfl
  rw [regionsFrom, if_pos (length_lt_of_part hw d.opening_ne_nil h), if_pos hprefix,
    byteLength_append]

theorem regionsFrom_of_closing (hw : whole = before ++ cs) (ho : stripStart? d.opening cs = none)
    (hc : stripStart? d.closing cs = some rest) :
    d.regionsFrom (encode whole) (depth + 1) start (byteLength before) =
      let stop := byteLength (before ++ d.closing)
      let regions := d.regionsFrom (encode whole) depth start stop
      if depth = 0 ∧ balancesQuoteOctets (((encode whole).take stop).drop start) then
        ⟨start, stop⟩ :: regions
      else regions := by
  have hopening : ¬ encode d.opening <+: (encode whole).drop (byteLength before) := by
    rw [encode_prefix_drop_iff hw, ho]
    exact nofun
  have hclosing : encode d.closing <+: (encode whole).drop (byteLength before) := by
    rw [encode_prefix_drop_iff hw, hc]
    rfl
  rw [regionsFrom, if_pos (length_lt_of_part hw d.closing_ne_nil hc), if_neg hopening,
    if_pos ⟨Nat.succ_pos depth, hclosing⟩, byteLength_append]
  simp only [Nat.add_sub_cancel, Nat.add_eq_right]

/-- Bytes inside a character are stepped over. -/
theorem regionsFrom_of_continues {bytes bs more : List UInt8} {i : Nat}
    (h : bytes.drop i = bs ++ more) (hbs : ∀ b ∈ bs, continues b = true) :
    d.regionsFrom bytes depth start i = d.regionsFrom bytes depth start (i + bs.length) := by
  induction bs generalizing i with
  | nil => rfl
  | cons b bs ih =>
    obtain ⟨hb, hbs⟩ := List.forall_mem_cons.1 hbs
    have hlt : i < bytes.length := by
      have hlen := congrArg List.length h
      simp only [List.length_drop, List.cons_append, List.length_cons] at hlen
      omega
    have hnext : bytes.drop (i + 1) = bs ++ more := by
      rw [← List.drop_drop, h]
      rfl
    rw [regionsFrom, if_pos hlt, h, List.cons_append,
      if_neg (not_encode_prefix_of_continues d.opening_ne_nil hb),
      if_neg fun hc => not_encode_prefix_of_continues d.closing_ne_nil hb hc.2,
        ih hnext hbs, List.length_cons,
      Nat.add_assoc, Nat.add_comm 1]

/-- A character at which no delimiter stands is stepped over. -/
theorem regionsFrom_of_none {c : Char} (hw : whole = before ++ c :: cs)
    (ho : stripStart? d.opening (c :: cs) = none)
    (hc : 0 < depth → stripStart? d.closing (c :: cs) = none) :
    d.regionsFrom (encode whole) depth start (byteLength before) =
      d.regionsFrom (encode whole) depth start (byteLength (before ++ [c])) := by
  obtain ⟨b, bs, hbytes, -, hbs⟩ := exists_encodeChar c
  have hdrop : (encode whole).drop (byteLength before) = b :: (bs ++ encode cs) := by
    rw [hw, drop_encode, encode_cons, hbytes, List.cons_append]
  have hnext : (encode whole).drop (byteLength before + 1) = bs ++ encode cs := by
    rw [← List.drop_drop, hdrop]
    rfl
  have hopening : ¬ encode d.opening <+: (encode whole).drop (byteLength before) := by
    rw [encode_prefix_drop_iff hw, ho]
    exact nofun
  have hclosing : ¬ (0 < depth ∧ encode d.closing <+: (encode whole).drop (byteLength before)) := by
    rintro ⟨hd, h⟩
    rw [encode_prefix_drop_iff hw, hc hd] at h
    exact absurd h nofun
  have hsize : byteLength (before ++ [c]) = byteLength before + 1 + bs.length := by
    have hlen := String.length_utf8EncodeChar c
    rw [hbytes, List.length_cons] at hlen
    rw [byteLength_append, byteLength_cons, byteLength_nil, ← hlen]
    omega
  rw [regionsFrom, if_pos (length_lt_of_append hw nofun), if_neg hopening, if_neg hclosing,
    regionsFrom_of_continues hnext hbs, hsize]

/-! ## What is found -/

/-- A region that is open is found where `close?` finds its end, and what follows it is read by
itself. -/
theorem regionsFrom_of_close? {region cs inside after : List Char}
    (hw : whole = before ++ region ++ cs) (h : d.close? depth cs = some (inside, after)) :
    d.regionsFrom (encode whole) (depth + 1) (byteLength before) (byteLength (before ++ region)) =
      let stop := byteLength (before ++ (region ++ inside))
      let regions := d.regionsFrom (encode whole) 0 (byteLength before) stop
      if balancesQuotes (region ++ inside) then ⟨byteLength before, stop⟩ :: regions
      else regions := by
  -- along the steps of `close?`, where `region` grows by what each step reads
  fun_induction close? d depth cs generalizing region inside with
  | case1 => cases h
  | case2 depth c cs rest hs _ ih =>
    obtain ⟨⟨i, a⟩, hr, heq⟩ := Option.map_eq_some_iff.1 h
    obtain ⟨rfl, rfl⟩ := Prod.mk.inj heq
    have hrest : whole = before ++ (region ++ d.opening) ++ rest := by
      rw [← List.append_assoc]
      exact append_of_stripStart? hw hs
    rw [regionsFrom_of_opening hw hs, if_neg (Nat.succ_ne_zero depth),
      List.append_assoc, ih hrest hr]
    simp only [List.append_assoc]
  | case3 c cs ho rest hs =>
    obtain ⟨rfl, rfl⟩ := Prod.mk.inj (Option.some.inj h)
    have hregion : whole = before ++ (region ++ d.closing) ++ rest := by
      rw [← List.append_assoc]
      exact append_of_stripStart? hw hs
    have hquotes : ((encode whole).take (byteLength (before ++ (region ++ d.closing)))).drop
        (byteLength before) =
        encode (region ++ d.closing) := by
      rw [hregion, drop_take_encode]
    rw [regionsFrom_of_closing hw ho hs]
    simp only [List.append_assoc, hquotes, balancesQuoteOctets_encode, true_and]
  | case4 c cs ho rest hs _ depth ih =>
    obtain ⟨⟨i, a⟩, hr, heq⟩ := Option.map_eq_some_iff.1 h
    obtain ⟨rfl, rfl⟩ := Prod.mk.inj heq
    have hrest : whole = before ++ (region ++ d.closing) ++ rest := by
      rw [← List.append_assoc]
      exact append_of_stripStart? hw hs
    rw [regionsFrom_of_closing hw ho hs]
    dsimp only
    rw [if_neg fun h => Nat.succ_ne_zero depth h.1, List.append_assoc, ih hrest hr]
    simp only [List.append_assoc]
  | case5 depth c cs ho hc ih =>
    obtain ⟨⟨i, a⟩, hr, heq⟩ := Option.map_eq_some_iff.1 h
    obtain ⟨rfl, rfl⟩ := Prod.mk.inj heq
    have hrest : whole = before ++ (region ++ [c]) ++ cs := by
      rw [hw]
      simp only [List.append_assoc, List.singleton_append]
    rw [regionsFrom_of_none hw ho fun _ => hc, List.append_assoc, ih hrest hr]
    simp only [List.append_assoc, List.singleton_append]

/-- Nothing is found in a region that is never closed. -/
theorem regionsFrom_of_not_closed (hw : whole = before ++ cs) (h : d.close? depth cs = none) :
    d.regionsFrom (encode whole) (depth + 1) start (byteLength before) = [] := by
  fun_induction close? d depth cs generalizing before with
  | case1 =>
    rw [List.append_nil] at hw
    rw [← hw, regionsFrom_nil]
  | case2 depth c cs rest hs _ ih =>
    have hrest : whole = before ++ d.opening ++ rest := append_of_stripStart? hw hs
    rw [regionsFrom_of_opening hw hs, if_neg (Nat.succ_ne_zero depth),
      ih hrest (Option.map_eq_none_iff.1 h)]
  | case3 => cases h
  | case4 c cs ho rest hs _ depth ih =>
    have hrest : whole = before ++ d.closing ++ rest := append_of_stripStart? hw hs
    rw [regionsFrom_of_closing hw ho hs]
    dsimp only
    rw [if_neg fun h => Nat.succ_ne_zero depth h.1, ih hrest (Option.map_eq_none_iff.1 h)]
  | case5 depth c cs ho hc ih =>
    have hrest : whole = before ++ [c] ++ cs := by
      rw [hw, List.append_assoc, List.singleton_append]
    rw [regionsFrom_of_none hw ho fun _ => hc, ih hrest (Option.map_eq_none_iff.1 h)]

end Delimiters

theorem Extraction.spansFrom_prepend (e : Extraction) (offset : Nat) (plain : List Char) :
    spansFrom offset (e.prepend plain).pieces = spansFrom (offset + byteLength plain) e.pieces := by
  obtain ⟨pieces, tail⟩ := e
  cases pieces with
  | nil => rfl
  | cons p ps => simp only [prepend, spansFrom, byteLength_append, Nat.add_assoc]

namespace Delimiters

variable {d : Delimiters}

theorem regionsFrom_eq_spansFrom (whole cs : List Char) :
    ∀ (before : List Char) (start : Nat), whole = before ++ cs →
      d.regionsFrom (encode whole) 0 start (byteLength before) =
        Extraction.spansFrom (byteLength before) (d.scan cs).pieces := by
  fun_induction scan d cs with
  | case1 =>
    intro before start hw
    rw [List.append_nil] at hw
    rw [← hw, regionsFrom_nil]
    rfl
  | case2 c cs hs ih =>
    intro before start hw
    have hrest : whole = before ++ [c] ++ cs := by
      rw [hw, List.append_assoc, List.singleton_append]
    rw [regionsFrom_of_none hw hs (absurd · (Nat.lt_irrefl 0)), ih _ _ hrest,
      Extraction.spansFrom_prepend,
      byteLength_append]
  | case3 c cs rest hs hc =>
    intro before start hw
    have hrest : whole = before ++ d.opening ++ rest := append_of_stripStart? hw hs
    rw [regionsFrom_of_opening hw hs, regionsFrom_of_not_closed hrest hc]
    rfl
  | case4 c cs rest hs inside after hc _ sigil e hq ih =>
    intro before start hw
    have hrest : whole = before ++ d.opening ++ rest := append_of_stripStart? hw hs
    have hafter : whole = before ++ sigil ++ after := by
      rw [hrest, eq_of_close? hc]
      simp only [sigil, List.append_assoc]
    rw [regionsFrom_of_opening hw hs, if_pos rfl, regionsFrom_of_close? hrest hc]
    dsimp only
    rw [if_pos hq, ih _ _ hafter]
    simp only [Extraction.spansFrom, byteLength_nil, Nat.add_zero, byteLength_append, sigil, e]
  | case5 c cs rest hs inside after hc _ sigil e hq ih =>
    intro before start hw
    have hrest : whole = before ++ d.opening ++ rest := append_of_stripStart? hw hs
    have hafter : whole = before ++ sigil ++ after := by
      rw [hrest, eq_of_close? hc]
      simp only [sigil, List.append_assoc]
    rw [regionsFrom_of_opening hw hs, if_pos rfl, regionsFrom_of_close? hrest hc]
    dsimp only
    rw [if_neg hq, ih _ _ hafter, Extraction.spansFrom_prepend, byteLength_append]

/-- **Reading a text byte by byte, `regions` finds the sigils that are extracted from it.** -/
theorem regions_eq_spans (d : Delimiters) (text : String) :
    d.regions (octets text) = (d.extract text).spans := by
  rw [octets_eq_encode]
  exact regionsFrom_eq_spansFrom text.toList text.toList [] 0 rfl

end Delimiters
end Interpolation
