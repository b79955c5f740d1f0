import Interpolation.Error.Pretty
import Interpolation.Proofs.Text.Regions
import Interpolation.Proofs.Text.Runs
import Mathlib.Data.List.DropRight

/-!
# Drawing errors

The line of a place is looked for by its offset: line after line is passed, with one byte for the
line feed behind each (`findOffset?_append_feed`), up to the one that the offset is in. That is the
line around the place, and the columns before it are those of what stands before it there
(`findOffset?_lines`). At the end of a source that ends with a line feed no line begins; there the
place is the end of the last line (`findOffset?_lines_end`).

So at a region of the source the drawing never fails (`Location.exists_draw?`), and it shows the
region by carets below it (`Error.draws_pretty`).
-/

namespace Interpolation

open Text

variable {l cs before rest : List Char}

/-! ## Lines -/

/-- The text before the first line feed, all of it if there is none. -/
def firstLine (cs : List Char) : List Char := cs.takeWhile (· ≠ '\n')

/-- The text after the last line feed, all of it if there is none. -/
def lastLine (cs : List Char) : List Char := cs.rtakeWhile (· ≠ '\n')

theorem firstLine_append (hl : '\n' ∉ l) (cs : List Char) :
    firstLine (l ++ cs) = l ++ firstLine cs :=
  List.takeWhile_append_of_pos (forall_ne_of_not_mem hl)

theorem lastLine_of_not_mem (hl : '\n' ∉ l) : lastLine l = l :=
  List.rtakeWhile_eq_self_iff.2 (forall_ne_of_not_mem hl)

theorem lastLine_append_feed (l cs : List Char) : lastLine (l ++ '\n' :: cs) = lastLine cs := by
  induction cs using List.reverseRecOn with
  | nil => exact List.rtakeWhile_concat_neg _ _ _ (by simp)
  | append_singleton cs c ih =>
    rw [← List.cons_append, ← List.append_assoc, lastLine, lastLine, List.rtakeWhile_concat,
      List.rtakeWhile_concat]
    rw [lastLine, lastLine] at ih
    rw [ih]

/-- A text line by line. There is no line feed behind the last one. -/
theorem line_induction {p : List Char → Prop} (last : ∀ l, '\n' ∉ l → p l)
    (line : ∀ l cs, '\n' ∉ l → p cs → p (l ++ '\n' :: cs)) (cs : List Char) : p cs := by
  -- character by character, with the beginning of the line in hand
  suffices h : ∀ l, '\n' ∉ l → p (l ++ cs) from h [] List.not_mem_nil
  induction cs with
  | nil =>
    intro l hl
    rw [List.append_nil]
    exact last l hl
  | cons c cs ih =>
    intro l hl
    by_cases hc : c = '\n'
    · subst hc
      exact line l cs hl (ih [] List.not_mem_nil)
    · rw [List.append_cons]
      exact ih (l ++ [c]) (by simp [hl, Ne.symm hc])

theorem lines_append_feed (hl : '\n' ∉ l) (cs : List Char) :
    lines (l ++ '\n' :: cs) = l :: lines cs := by
  induction l with
  | nil => exact if_pos rfl
  | cons c l ih =>
    obtain ⟨hc, hl⟩ := not_or.1 (mt List.mem_cons.2 hl)
    rw [List.cons_append, lines, if_neg (Ne.symm hc), ih hl]

theorem lines_of_not_mem (hl : '\n' ∉ l) (hne : l ≠ []) : lines l = [l] := by
  induction l with
  | nil => exact absurd rfl hne
  | cons c l ih =>
    obtain ⟨hc, hl⟩ := not_or.1 (mt List.mem_cons.2 hl)
    rw [lines, if_neg (Ne.symm hc)]
    cases l with
    | nil => rfl
    | cons c' l => rw [ih hl nofun]

/-- Every text but the empty one has a first line. -/
theorem exists_lines_eq_cons (hne : cs ≠ []) : ∃ more, lines cs = firstLine cs :: more := by
  induction cs using line_induction with
  | last l hl =>
    refine ⟨[], ?_⟩
    rw [lines_of_not_mem hl hne, firstLine, List.takeWhile_eq_self_iff.2 (forall_ne_of_not_mem hl)]
  | line l cs hl _ =>
    refine ⟨lines cs, ?_⟩
    rw [lines_append_feed hl, firstLine_append hl]
    exact congrArg (· :: lines cs) (List.append_nil l).symm

theorem count_append_feed (hl : '\n' ∉ l) (cs : List Char) :
    (l ++ '\n' :: cs).count '\n' = cs.count '\n' + 1 := by
  rw [List.count_append, List.count_eq_zero.2 hl, Nat.zero_add, List.count_cons_self]

theorem byteLength_append_feed (l cs : List Char) :
    byteLength (l ++ '\n' :: cs) = byteLength l + 1 + byteLength cs := by
  rw [byteLength_append, byteLength_cons, Nat.add_assoc]
  rfl

/-- A text that ends with a line feed has as many lines as line feeds. -/
theorem lines_append_singleton (cs : List Char) :
    (lines (cs ++ ['\n'])).length = cs.count '\n' + 1 ∧
    (lines (cs ++ ['\n'])).getLast? = some (lastLine cs) := by
  induction cs using line_induction with
  | last l hl =>
    rw [lines_append_feed hl, lastLine_of_not_mem hl, List.count_eq_zero.2 hl]
    exact ⟨rfl, rfl⟩
  | line l cs hl ih =>
    obtain ⟨hlength, hlast⟩ := ih
    rw [List.append_assoc, List.cons_append, lines_append_feed hl, count_append_feed hl,
      lastLine_append_feed]
    refine ⟨congrArg (· + 1) hlength, ?_⟩
    rw [List.getLast?_cons, hlast]
    rfl

/-! ## The line of a place -/

/-- A place after which a line goes on, the beginning of an empty source, or the end of a source
that ends with a line feed. -/
theorem place_cases (before rest : List Char) :
    lastLine before ++ rest ≠ [] ∨ before = [] ∧ rest = [] ∨
    (∃ cs, before = cs ++ ['\n']) ∧ rest = [] := by
  by_cases hne : lastLine before ++ rest = []
  · obtain ⟨hlast, hrest⟩ := List.append_eq_nil_iff.1 hne
    rcases List.eq_nil_or_concat' before with rfl | ⟨cs, c, rfl⟩
    · exact .inr (.inl ⟨rfl, hrest⟩)
    · refine .inr (.inr ⟨⟨cs, ?_⟩, hrest⟩)
      by_cases hc : c = '\n'
      · rw [hc]
      · rw [lastLine, List.rtakeWhile_concat_pos _ _ c (decide_eq_true hc)] at hlast
        simp at hlast
  · exact .inl hne

section
variable [DisplayWidth] (k : Nat) (last : List Char)

/-- `findOffset?` passes a line with the line feed behind it. -/
theorem findOffset?_append_feed (hl : '\n' ∉ l) (n : Nat) (cs : List Char) :
    findOffset? k last (byteLength l + 1 + n) (lines (l ++ '\n' :: cs)) =
      findOffset? (k + 1) l n (lines cs) := by
  rw [lines_append_feed hl, findOffset?, if_neg (by omega), Nat.add_sub_cancel_left]

/-- **The line around a place is found**, with the number of line feeds before it and the columns of
what stands before the place in it. -/
theorem findOffset?_lines (hne : lastLine before ++ rest ≠ []) :
    findOffset? k last (byteLength before) (lines (before ++ rest)) =
      some (lastLine before ++ firstLine rest, k + before.count '\n', width (lastLine before)) := by
  induction before using line_induction generalizing k last with
  | last l hl =>
    rw [lastLine_of_not_mem hl] at hne ⊢
    obtain ⟨more, hmore⟩ := exists_lines_eq_cons hne
    have hwithin : byteLength l < byteLength (l ++ firstLine rest) + 1 := by
      rw [byteLength_append]
      omega
    rw [hmore, firstLine_append hl, findOffset?, if_pos hwithin, splitAtByte?_append,
      List.count_eq_zero.2 hl]
    rfl
  | line l cs hl ih =>
    rw [lastLine_append_feed] at hne ⊢
    rw [List.append_assoc, List.cons_append, byteLength_append_feed,
      findOffset?_append_feed k last hl, ih (k + 1) l hne, count_append_feed hl,
      Nat.add_comm (cs.count '\n'), Nat.add_assoc]

/-- After a line feed at the end of a source the place is the end of the line before. -/
theorem findOffset?_lines_end (before : List Char) :
    findOffset? k last (byteLength (before ++ ['\n'])) (lines (before ++ ['\n'])) =
      some (lastLine before, k + before.count '\n', width (lastLine before)) := by
  induction before using line_induction generalizing k last with
  | last l hl =>
    rw [byteLength_append_feed, findOffset?_append_feed k last hl, lastLine_of_not_mem hl,
      List.count_eq_zero.2 hl]
    rfl
  | line l cs hl ih =>
    rw [List.append_assoc, List.cons_append, byteLength_append_feed,
      findOffset?_append_feed k last hl, ih (k + 1) l,
      lastLine_append_feed, count_append_feed hl, Nat.add_comm (cs.count '\n'), Nat.add_assoc]

end

/-! ## What is drawn -/

section
variable [DisplayWidth]

/-- A line of a source with its number, and below it carets and a message. What stands before the
carets is wider than what stands before the line by `column`. -/
def Draws (drawn : String) (number : Nat) (line : List Char) (column carets : Nat)
    (message : String) : Prop :=
  ∃ top margin indent : List Char,
    drawn.toList = '\n' :: top ++ ('\n' :: margin ++ line) ++
      ('\n' :: indent ++ List.replicate carets '^' ++ ' ' :: message.toList) ++ ['\n'] ∧
    margin = ' ' :: (toString number).toList ++ [' ', '|', ' '] ∧
    (∀ c ∈ top ++ indent, c = ' ' ∨ c = '|') ∧
    width indent = width margin + column

namespace Location

variable {l : Location} {line region : List Char} {k column : Nat}

theorem exists_draws
    (hfound : findOffset? 0 [] l.span.start (lines l.source.toList) = some (line, k, column))
    (hregion : slice? l.span.start l.span.stop l.source.toList = some region) (message : String) :
    ∃ drawn, l.draw? message = some drawn ∧
    Draws drawn (k + 1) line column (max 1 (width region)) message := by
  let number := toString (k + 1)
  let gutter := List.replicate number.length ' '
  let margin := ' ' :: number.toList ++ [' ', '|', ' ']
  let indent := ' ' :: gutter ++ [' ', '|', ' '] ++ List.replicate column ' '
  have hblank : ∀ c ∈ ' ' :: gutter ++ [' ', '|'] ++ indent, c = ' ' ∨ c = '|' := by
    simp only [indent, gutter, List.mem_append, List.mem_cons, List.mem_replicate, List.not_mem_nil]
    grind
  have hmargin : ∀ c ∈ margin, c = ' ' ∨ c = '|' ∨ c.isDigit = true := by
    have hdigits : ∀ c ∈ number.toList, c.isDigit = true := by
      intro c hc
      rw [show number.toList = Nat.toDigits 10 (k + 1) from Nat.toList_repr] at hc
      exact Nat.isDigit_of_mem_toDigits (by decide) (by decide) hc
    simp only [margin, List.mem_append, List.mem_cons, List.not_mem_nil]
    grind
  have hindent : ∀ c ∈ indent, c = ' ' ∨ c = '|' ∨ c.isDigit = true := fun c hc =>
    (hblank c (List.mem_append_right _ hc)).imp_right .inl
  rw [draw?, hfound, hregion]
  refine ⟨_, rfl, ' ' :: gutter ++ [' ', '|'], margin, indent, ?_, rfl, hblank, ?_⟩
  · simp [indent, margin, gutter, number]
  · rw [width_eq_length hindent, width_eq_length hmargin]
    simp only [indent, margin, gutter, List.length_append, List.length_cons, List.length_replicate,
      String.length_toList]

/-- **An error that is reported at a region of its source (`Span.IsRegion`) can be drawn.** -/
theorem exists_draw? {l : Location} (h : l.span.IsRegion l.source.toList) (message : String) :
    ∃ drawn, l.draw? message = some drawn := by
  obtain ⟨region, hregion⟩ := h.slice
  obtain ⟨before, rest, hsource, hstart⟩ := h.start
  obtain ⟨⟨line, k, column⟩, hfound⟩ :
      ∃ found, findOffset? 0 [] l.span.start (lines l.source.toList) = some found := by
    rw [hsource, hstart]
    rcases place_cases before rest with hne | ⟨rfl, rfl⟩ | ⟨⟨cs, rfl⟩, rfl⟩
    · exact ⟨_, findOffset?_lines 0 [] hne⟩
    · exact ⟨_, rfl⟩
    · rw [List.append_nil]
      exact ⟨_, findOffset?_lines_end 0 [] cs⟩
  obtain ⟨drawn, hdrawn, -⟩ := exists_draws hfound hregion message
  exact ⟨drawn, hdrawn⟩

end Location

namespace Error

variable {e : Error} {source : String} {region after : List Char}

/-- **What an error shows.** Take an error that is reported at a region of its source which no line
feed is in. The line around the place is shown (`Draws`), with one more than the number of line
feeds before it as its number. The carets are below it as many columns on as what stands before the
place in that line is wide. There are as many as the region is wide, but at least one. At the end of
a source that ends with a line feed, the place is the end of the last line instead. So it is for any
`DisplayWidth`. -/
theorem draws_pretty
    (hlocation : e.location = some ⟨source,
      ⟨byteLength before, byteLength before + byteLength region⟩⟩)
    (hsource : source.toList = before ++ region ++ after) (hregion : '\n' ∉ region) :
    (¬ (region ++ after = [] ∧ before.getLast? = some '\n') →
      Draws e.pretty (before.count '\n' + 1) (lastLine before ++ region ++ firstLine after)
        (width (lastLine before))
        (max 1 (width region)) e.message) ∧
    (region ++ after = [] ∧ before.getLast? = some '\n' →
      ∃ line, (lines source.toList).getLast? = some line ∧
      Draws e.pretty (lines source.toList).length line (width line) 1 e.message) := by
  let l : Location := ⟨source, ⟨byteLength before, byteLength before + byteLength region⟩⟩
  have hslice : slice? l.span.start l.span.stop l.source.toList = some region := by
    have hslice := slice?_append before region after
    rwa [byteLength_append, ← hsource] at hslice
  have hdraws {line : List Char} {k column : Nat}
      (hfound : findOffset? 0 [] (byteLength before) (lines source.toList) =
        some (line, k, column)) :
      Draws e.pretty (k + 1) line column (max 1 (width region)) e.message := by
    obtain ⟨drawn, hdrawn, h⟩ := Location.exists_draws (l := l) hfound hslice e.message
    rw [pretty, hlocation]
    change Draws ((l.draw? e.message).getD e.message) _ _ _ _ _
    rwa [hdrawn]
  constructor
  · intro hplace
    refine hdraws ?_
    rw [hsource, List.append_assoc]
    rcases place_cases before (region ++ after) with hne | ⟨rfl, hnil⟩ | ⟨⟨cs, rfl⟩, hnil⟩
    · rw [findOffset?_lines 0 [] hne, Nat.zero_add, firstLine_append hregion, List.append_assoc]
    · obtain ⟨rfl, rfl⟩ := List.append_eq_nil_iff.1 hnil
      rfl
    · exact absurd ⟨hnil, List.getLast?_concat⟩ hplace
  · rintro ⟨hnil, hlast⟩
    obtain ⟨cs, rfl⟩ := List.getLast?_eq_some_iff.1 hlast
    obtain ⟨rfl, rfl⟩ := List.append_eq_nil_iff.1 hnil
    rw [List.append_nil, List.append_nil] at hsource
    obtain ⟨hlength, hline⟩ := lines_append_singleton cs
    rw [← hsource] at hlength hline
    have hfound : findOffset? 0 [] (byteLength (cs ++ ['\n'])) (lines source.toList) =
        some (lastLine cs, cs.count '\n', width (lastLine cs)) := by
      rw [hsource, findOffset?_lines_end, Nat.zero_add]
    have hempty : width [] = 0 := width_eq_length (List.forall_mem_nil _)
    have hdrawn := hdraws hfound
    rw [hempty, ← hlength] at hdrawn
    exact ⟨lastLine cs, hline, hdrawn⟩

end Error

end

/-- A region after a wide character, and the end of a source that ends with a line feed. -/
theorem Error.draws_pretty_wide :
    let e (source : String) (span : Span) : Error := ⟨.undelimitedString, some ⟨source, span⟩, []⟩
    "a\n[界é]".toList = "a\n[界".toList ++ ['é'] ++ [']'] ∧ '\n' ∉ ['é'] ∧
    Draws (e "a\n[界é]" ⟨6, 8⟩).pretty 2 "[界é]".toList 3 1 (e "a\n[界é]" ⟨6, 8⟩).message ∧
    ∃ line, (lines "[A\n".toList).getLast? = some line ∧
      Draws (e "[A\n" ⟨3, 3⟩).pretty 1 line 2 1 (e "[A\n" ⟨3, 3⟩).message := by
  intro e
  have hwide := (@Error.draws_pretty "a\n[界".toList _ (e "a\n[界é]" ⟨6, 8⟩) _ ['é'] [']']
    rfl rfl (by decide)).1 (by decide)
  have hline : lastLine "a\n[界".toList ++ ['é'] ++ firstLine [']'] = "[界é]".toList := by decide
  have hcolumn : width (lastLine "a\n[界".toList) = 3 := by decide +kernel
  have hcarets : max 1 (width ['é']) = 1 := by decide +kernel
  rw [hline, hcolumn, hcarets] at hwide
  obtain ⟨line, hlast, hend⟩ := (@Error.draws_pretty "[A\n".toList _ (e "[A\n" ⟨3, 3⟩) _ [] []
    rfl rfl (by decide)).2 (by decide)
  obtain rfl : line = "[A".toList := Option.some.inj (hlast.symm.trans (by decide))
  have hwidth : width "[A".toList = 2 := by decide
  rw [hwidth] at hend
  exact ⟨rfl, by decide, hwide, _, hlast, hend⟩

end Interpolation
