import Interpolation.Proofs.Token.Layout

/-!
# Tokens in a part of a source

Where tokens stand in a source, the first of them stand in a first part of it that ends where they
do, and the others in the rest (`Layout.split`); the blanks in front of tokens can be left to what
is before (`Layout.trim`). The same tokens stand in the same text wherever that is in a source
(`Layout.move`).
-/

namespace Interpolation

open Text

/-- The token without where it stands. -/
def Token.erase (t : Token) : Token := { t with start := 0 }

theorem Token.erase_eq_erase {t t' : Token} (h : t'.erase = t.erase) :
    t'.kind = t.kind ∧ t'.text = t.text := by
  obtain ⟨hkind, -, htext⟩ := Token.mk.inj h
  exact ⟨hkind, htext⟩

namespace Layout

variable [IdentifierRule] {d : Delimiters} {offset : Nat} {ts us : List Token} {cs : List Char}

theorem move (h : Layout d offset ts cs) (offset' : Nat) :
    ∃ ts', ts'.map Token.erase = ts.map Token.erase ∧ Layout d offset' ts' cs := by
  induction h generalizing offset' with
  | nil => exact ⟨[], rfl, .nil⟩
  | @blank offset c cs ts hc _ ih =>
    obtain ⟨ts', hts', h'⟩ := ih (offset' + c.utf8Size)
    exact ⟨ts', hts', .blank hc h'⟩
  | @token offset kind text cs ts hs _ ih =>
    obtain ⟨ts', hts', h'⟩ := ih (offset' + byteLength text)
    refine ⟨⟨kind, offset', text⟩ :: ts', ?_, .token hs h'⟩
    rw [List.map_cons, List.map_cons, hts']
    rfl

/-- The first part ends where its last token does. -/
theorem split (h : Layout d offset (ts ++ us) cs) :
    ∃ first rest, cs = first ++ rest ∧ Layout d offset ts first ∧
    Layout d (offset + byteLength first) us rest ∧
      ∀ t ∈ ts.getLast?, t.span.stop = offset + byteLength first := by
  generalize hall : ts ++ us = all at h
  induction h generalizing ts with
  | nil =>
    obtain ⟨rfl, rfl⟩ := List.append_eq_nil_iff.1 hall
    exact ⟨[], [], rfl, .nil, .nil, fun _ => by simp⟩
  | @blank offset c cs all hc h ih =>
    cases ts with
    | nil =>
      cases hall
      exact ⟨[], c :: cs, rfl, .nil, .blank hc h, fun _ => by simp⟩
    | cons t ts =>
      obtain ⟨first, rest, rfl, hfirst, hrest, hlast⟩ := ih hall
      rw [Nat.add_assoc, ← byteLength_cons] at hrest hlast
      exact ⟨c :: first, rest, rfl, .blank hc hfirst, hrest, hlast⟩
  | @token offset kind text cs all hs h ih =>
    cases ts with
    | nil =>
      cases hall
      exact ⟨[], text ++ cs, rfl, .nil, .token hs h, fun _ => by simp⟩
    | cons t ts =>
      obtain ⟨rfl, htail⟩ := List.cons.inj hall
      cases ts with
      | nil =>
        cases htail
        refine ⟨text, cs, rfl, .single hs, h, ?_⟩
        rintro _ ⟨⟩
        rfl
      | cons t ts =>
        obtain ⟨first, rest, rfl, hfirst, hrest, hlast⟩ := ih htail
        rw [Nat.add_assoc, ← byteLength_append] at hrest hlast
        exact ⟨text ++ first, rest, (List.append_assoc ..).symm, .token hs hfirst, hrest, hlast⟩

/-- What is left begins where its first token does. -/
theorem trim (h : Layout d offset ts cs) :
    ∃ blanks rest, cs = blanks ++ rest ∧ (∀ c ∈ blanks, isTokenBlank c = true) ∧
      Layout d (offset + byteLength blanks) ts rest ∧
      ∀ t ∈ ts.head?, t.start = offset + byteLength blanks := by
  induction h with
  | nil => exact ⟨[], [], rfl, List.forall_mem_nil _, .nil, fun _ => by simp⟩
  | @blank offset c cs ts hc _ ih =>
    obtain ⟨blanks, rest, rfl, hblanks, hrest, hfirst⟩ := ih
    rw [Nat.add_assoc, ← byteLength_cons] at hrest hfirst
    exact ⟨c :: blanks, rest, rfl, List.forall_mem_cons.2 ⟨hc, hblanks⟩, hrest, hfirst⟩
  | @token offset kind text cs ts hs h =>
    refine ⟨[], text ++ cs, rfl, List.forall_mem_nil _, .token hs h, ?_⟩
    rintro _ ⟨⟩
    rfl

theorem bounds (h : Layout d offset ts cs) :
    ∀ t ∈ ts, offset ≤ t.start ∧ t.span.stop ≤ offset + byteLength cs := by
  induction h with
  | nil => exact List.forall_mem_nil _
  | @blank offset c cs ts hc _ ih =>
    intro t ht
    obtain ⟨hstart, hstop⟩ := ih t ht
    rw [byteLength_cons]
    omega
  | @token offset kind text cs ts hs h ih =>
    rw [byteLength_append]
    refine List.forall_mem_cons.2 ⟨⟨Nat.le_refl _,
      Nat.add_le_add_left (Nat.le_add_right ..) _⟩, fun t ht => ?_⟩
    obtain ⟨hstart, hstop⟩ := ih t ht
    omega

/-- Tokens that begin and end a text take all of it. -/
theorem join_eq (h : Layout d offset ts cs) {first last : Token} (hfirst : first ∈ ts)
    (hlast : last ∈ ts) (hstart : first.start = offset)
    (hstop : last.span.stop = offset + byteLength cs) :
    first.span.join last.span = ⟨offset, offset + byteLength cs⟩ := by
  have hmin : first.start ≤ last.start := hstart ▸ (h.bounds last hlast).1
  have hmax : first.span.stop ≤ last.span.stop := hstop ▸ (h.bounds first hfirst).2
  rw [Span.join, Nat.max_eq_right hmax, hstop]
  exact congrArg (Span.mk · _) ((Nat.min_eq_left hmin).trans hstart)

end Layout
end Interpolation
