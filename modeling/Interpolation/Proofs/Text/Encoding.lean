import Interpolation.Text.Octets
import Interpolation.Text.Utf8

/-!
# Characters and the bytes of their UTF-8

The bytes of two characters agree up to a place at which the lesser character has the lesser byte
(`precedes_of_lt`). Hence texts are ordered as their bytes are (`octets_lt_octets_iff`), and UTF-8
is a prefix code: the bytes of a text begin with those of another exactly if the text begins with
the other (`encode_prefix_encode_iff`). The bytes of a text begin with those of another at the
boundaries between characters alone, since no first byte of a character goes on with one
(`not_encode_prefix_of_continues`).
-/

namespace Interpolation.Text

/-- The bytes of a text. -/
def encode (cs : List Char) : List UInt8 := cs.flatMap String.utf8EncodeChar

@[simp] theorem encode_nil : encode [] = [] := rfl

@[simp] theorem encode_cons (c : Char) (cs : List Char) :
    encode (c :: cs) = String.utf8EncodeChar c ++ encode cs := List.flatMap_cons

@[simp] theorem encode_append (a b : List Char) :
    encode (a ++ b) = encode a ++ encode b := List.flatMap_append

@[simp] theorem length_encode (cs : List Char) : (encode cs).length = byteLength cs := by
  induction cs with
  | nil => rfl
  | cons c cs ih =>
    rw [encode_cons, List.length_append, ih, String.length_utf8EncodeChar, byteLength_cons]

theorem encode_ne_nil {cs : List Char} (h : cs ≠ []) : encode cs ≠ [] := by
  intro he
  have hlen := length_encode cs
  rw [he] at hlen
  exact h (byteLength_eq_zero.1 hlen.symm)

theorem toList_loop (bs : ByteArray) (i : Nat) (read : List UInt8) :
    ByteArray.toList.loop bs i read = read.reverse ++ bs.data.toList.drop i := by
  fun_induction ByteArray.toList.loop bs i read with
  | case1 i read hi ih =>
    have hlt : i < bs.data.toList.length := hi
    have hget : bs.data.toList[i] = bs.get! i := by
      rw [Array.getElem_toList]
      exact (getElem!_pos bs.data i hi).symm
    rw [ih, List.drop_eq_getElem_cons hlt, hget, List.reverse_cons, List.append_assoc,
      List.singleton_append]
  | case2 i read hi =>
    have hle : bs.data.toList.length ≤ i := Nat.le_of_not_lt hi
    rw [List.drop_eq_nil_of_le hle, List.append_nil]

theorem octets_eq_encode (s : String) : octets s = encode s.toList := by
  have hbytes : s.toByteArray = (encode s.toList).toByteArray := String.utf8Encode_toList.symm
  rw [octets, String.toUTF8_eq_toByteArray, hbytes, ByteArray.toList, toList_loop,
    List.toList_data_toByteArray]
  rfl

/-! ## The bytes of a character -/

/-- A character takes one to four bytes, of which the first tells how many. -/
theorem encodeChar_cases (c : Char) :
    c.toNat < 0x80 ∧ String.utf8EncodeChar c = [.ofNat c.toNat] ∨
    (0x80 ≤ c.toNat ∧ c.toNat < 0x800) ∧
      String.utf8EncodeChar c = [.ofNat (0xC0 + c.toNat / 64), .ofNat (0x80 + c.toNat % 64)] ∨
    (0x800 ≤ c.toNat ∧ c.toNat < 0x10000) ∧
      String.utf8EncodeChar c =
        [.ofNat (0xE0 + c.toNat / 4096), .ofNat (0x80 + c.toNat / 64 % 64),
          .ofNat (0x80 + c.toNat % 64)] ∨
    (0x10000 ≤ c.toNat ∧ c.toNat < 0x110000) ∧
      String.utf8EncodeChar c =
        [.ofNat (0xF0 + c.toNat / 262144), .ofNat (0x80 + c.toNat / 4096 % 64),
          .ofNat (0x80 + c.toNat / 64 % 64),
          .ofNat (0x80 + c.toNat % 64)] := by
  have hlt : c.toNat < 0x110000 := by
    rcases c.valid with h | h
    · exact Nat.lt_trans h (by decide)
    · exact h.2
  have hval : c.val.toNat = c.toNat := rfl
  unfold String.utf8EncodeChar
  rw [hval]
  dsimp only
  generalize c.toNat = n at hlt
  split
  · exact .inl ⟨by omega, rfl⟩
  split
  · have hlead : n / 64 % 32 + 0xC0 = 0xC0 + n / 64 := by omega
    rw [hlead, Nat.add_comm _ 0x80]
    exact .inr (.inl ⟨by omega, rfl⟩)
  split
  · have hlead : n / 4096 % 16 + 0xE0 = 0xE0 + n / 4096 := by omega
    rw [hlead, Nat.add_comm _ 0x80, Nat.add_comm _ 0x80]
    exact .inr (.inr (.inl ⟨by omega, rfl⟩))
  · have hlead : n / 262144 % 8 + 0xF0 = 0xF0 + n / 262144 := by omega
    rw [hlead, Nat.add_comm _ 0x80, Nat.add_comm _ 0x80, Nat.add_comm _ 0x80]
    exact .inr (.inr (.inr ⟨by omega, rfl⟩))

/-- The byte goes on with a character. -/
def continues (b : UInt8) : Bool := 0x80 ≤ b.toNat && b.toNat < 0xC0

theorem continues_ofNat {n : Nat} (h : n < 256) :
    continues (.ofNat n) = true ↔ 0x80 ≤ n ∧ n < 0xC0 := by
  rw [continues, UInt8.toNat_ofNat_of_lt' h]
  simp

/-- A character is a byte that begins it and bytes that go on with it. -/
theorem exists_encodeChar (c : Char) :
    ∃ b bs, String.utf8EncodeChar c = b :: bs ∧ continues b = false ∧
    ∀ b ∈ bs, continues b = true := by
  have hfirst {n : Nat} (hn : n < 0x80 ∨ 0xC0 ≤ n) (hlt : n < 256) :
      continues (.ofNat n) = false := by
    refine Bool.eq_false_iff.2 fun h => ?_
    have := (continues_ofNat hlt).1 h
    omega
  have hnext (n : Nat) : continues (.ofNat (0x80 + n % 64)) = true :=
    (continues_ofNat (by omega)).2 (by omega)
  rcases encodeChar_cases c with ⟨hc, heq⟩ | ⟨hc, heq⟩ | ⟨hc, heq⟩ | ⟨hc, heq⟩
  · exact ⟨_, _, heq, hfirst (by omega) (by omega), nofun⟩
  · refine ⟨_, _, heq, hfirst (by omega) (by omega), ?_⟩
    exact List.forall_mem_singleton.2 (hnext _)
  · refine ⟨_, _, heq, hfirst (by omega) (by omega), ?_⟩
    exact List.forall_mem_cons.2 ⟨hnext _, List.forall_mem_singleton.2 (hnext _)⟩
  · refine ⟨_, _, heq, hfirst (by omega) (by omega), ?_⟩
    exact List.forall_mem_cons.2 ⟨hnext _,
      List.forall_mem_cons.2 ⟨hnext _, List.forall_mem_singleton.2 (hnext _)⟩⟩

/-! ## Texts side by side -/

/-- The bytes agree up to a place, and there `as` has the lesser byte. -/
def Precedes (as bs : List UInt8) : Prop :=
  ∃ common a as' b bs', as = common ++ a :: as' ∧ bs = common ++ b :: bs' ∧ a < b

theorem precedes_cons {a b : Nat} {as bs : List UInt8} (hb : b < 256) (hle : a ≤ b)
    (h : a = b → Precedes as bs) :
    Precedes (.ofNat a :: as) (.ofNat b :: bs) := by
  rcases Nat.lt_or_eq_of_le hle with hlt | rfl
  · refine ⟨[], _, _, _, _, rfl, rfl, UInt8.lt_iff_toNat_lt.2 ?_⟩
    rw [UInt8.toNat_ofNat_of_lt' hb, UInt8.toNat_ofNat_of_lt' (Nat.lt_trans hlt hb)]
    exact hlt
  · obtain ⟨common, a', as', b', bs', rfl, rfl, hlt⟩ := h rfl
    exact ⟨_ :: common, _, _, _, _, rfl, rfl, hlt⟩

/-- **The lesser character has the lesser bytes.** -/
theorem precedes_of_lt {c c' : Char} (h : c < c') :
    Precedes (String.utf8EncodeChar c) (String.utf8EncodeChar c') := by
  have hlt : c.toNat < c'.toNat := h
  rcases encodeChar_cases c with ⟨hc, heq⟩ | ⟨hc, heq⟩ | ⟨hc, heq⟩ | ⟨hc, heq⟩ <;>
    rcases encodeChar_cases c' with ⟨hc', heq'⟩ | ⟨hc', heq'⟩ | ⟨hc', heq'⟩ | ⟨hc', heq'⟩ <;>
    rw [heq, heq']
  -- characters that take as many bytes differ first at some byte, others at the first one
  case inl.inl => exact precedes_cons (by omega) (by omega) (by omega)
  case inr.inl.inr.inl =>
    exact precedes_cons (by omega) (by omega) fun _ =>
      precedes_cons (by omega) (by omega) (by omega)
  case inr.inr.inl.inr.inr.inl =>
    exact precedes_cons (by omega) (by omega) fun _ => precedes_cons (by omega) (by omega) fun _ =>
      precedes_cons (by omega) (by omega) (by omega)
  case inr.inr.inr.inr.inr.inr =>
    exact precedes_cons (by omega) (by omega) fun _ => precedes_cons (by omega) (by omega) fun _ =>
      precedes_cons (by omega) (by omega) fun _ => precedes_cons (by omega) (by omega) (by omega)
  all_goals exact precedes_cons (by omega) (by omega) (by omega)

/-- Where one list has the lesser element, neither begins with the other. -/
theorem Precedes.not_begins {as bs xs ys : List UInt8} (h : Precedes as bs) :
    ¬ as ++ xs <+: bs ++ ys ∧ ¬ bs ++ ys <+: as ++ xs := by
  obtain ⟨common, a, as', b, bs', rfl, rfl, hlt⟩ := h
  have hne : a ≠ b := by
    rintro rfl
    exact absurd hlt (UInt8.lt_irrefl a)
  simp [List.append_assoc, List.prefix_append_right_inj, List.cons_prefix_cons, hne, hne.symm]

/-- **UTF-8 is a prefix code**: `encode` neither makes nor loses prefixes. -/
theorem encode_prefix_encode_iff {part cs : List Char} :
    encode part <+: encode cs ↔ part <+: cs := by
  constructor
  · intro h
    induction part generalizing cs with
    | nil => exact List.nil_prefix
    | cons p part ih =>
      cases cs with
      | nil => exact absurd (List.prefix_nil.1 h) (encode_ne_nil nofun)
      | cons c cs =>
        rw [encode_cons, encode_cons] at h
        rcases Nat.lt_trichotomy p.toNat c.toNat with hlt | heq | hlt
        · exact absurd h (precedes_of_lt hlt).not_begins.1
        · obtain rfl : p = c := Char.toNat_inj.1 heq
          exact List.cons_prefix_cons.2 ⟨rfl, ih ((List.prefix_append_right_inj _).1 h)⟩
        · exact absurd h (precedes_of_lt hlt).not_begins.2
  · rintro ⟨rest, rfl⟩
    exact ⟨encode rest, (encode_append part rest).symm⟩

/-- The bytes of a text do not begin inside a character. -/
theorem not_encode_prefix_of_continues {part : List Char} {b : UInt8} {bs : List UInt8}
    (hne : part ≠ []) (hb : continues b = true) : ¬ encode part <+: b :: bs := by
  intro h
  obtain ⟨p, part, rfl⟩ := List.exists_cons_of_ne_nil hne
  obtain ⟨b', bs', heq, hb', -⟩ := exists_encodeChar p
  rw [encode_cons, heq, List.cons_append] at h
  obtain ⟨rfl, -⟩ := List.cons_prefix_cons.1 h
  exact absurd hb (by simp [hb'])

theorem Precedes.lt {as bs xs ys : List UInt8} (h : Precedes as bs) : as ++ xs < bs ++ ys := by
  obtain ⟨common, a, as', b, bs', rfl, rfl, hlt⟩ := h
  induction common with
  | nil => exact List.cons_lt_cons_iff.2 (.inl hlt)
  | cons c common ih => exact List.cons_lt_cons_iff.2 (.inr ⟨rfl, ih⟩)

theorem encode_lt_encode {as bs : List Char} (h : as < bs) : encode as < encode bs := by
  induction as generalizing bs with
  | nil =>
    cases bs with
    | nil => exact absurd h (List.lt_irrefl [])
    | cons b bs =>
      obtain ⟨x, xs, heq⟩ := List.exists_cons_of_ne_nil (encode_ne_nil (List.cons_ne_nil b bs))
      rw [heq]
      exact List.nil_lt_cons x xs
  | cons a as ih =>
    cases bs with
    | nil => exact absurd h (List.not_lt_nil _)
    | cons b bs =>
      rw [encode_cons, encode_cons]
      rcases List.cons_lt_cons_iff.1 h with hlt | ⟨rfl, hlt⟩
      · exact (precedes_of_lt hlt).lt
      · exact List.append_left_lt (ih hlt)

/-- **Texts are ordered as their bytes are.** -/
theorem octets_lt_octets_iff {s t : String} : octets s < octets t ↔ s < t := by
  have hlt {s t : String} (h : s < t) : octets s < octets t := by
    rw [octets_eq_encode, octets_eq_encode]
    exact encode_lt_encode h
  refine ⟨fun h => Decidable.byContradiction fun hs => ?_, hlt⟩
  have hle : t ≤ s := String.not_lt.1 hs
  by_cases ht : t < s
  · exact List.lt_asymm h (hlt ht)
  · obtain rfl := String.le_antisymm hle (String.not_lt.1 ht)
    exact List.lt_irrefl _ h

/-- The byte of a character that takes one is in no other character. -/
theorem eq_of_mem_encodeChar {q c : Char} (hq : q.toNat < 0x80)
    (h : UInt8.ofNat q.toNat ∈ String.utf8EncodeChar c) : c = q := by
  have heq {n : Nat} (hlt : n < 256) (h : UInt8.ofNat q.toNat = .ofNat n) : q.toNat = n := by
    have := congrArg UInt8.toNat h
    rwa [UInt8.toNat_ofNat_of_lt' (Nat.lt_trans hq (by decide)),
      UInt8.toNat_ofNat_of_lt' hlt] at this
  have hnext (n : Nat) : UInt8.ofNat q.toNat ≠ .ofNat (0x80 + n % 64) := by
    intro h
    have := heq (by omega) h
    omega
  rcases encodeChar_cases c with ⟨hc, hbytes⟩ | ⟨hc, hbytes⟩ | ⟨hc, hbytes⟩ | ⟨hc, hbytes⟩ <;>
    rw [hbytes] at h
  · exact Char.toNat_inj.1 (heq (by omega) (List.mem_singleton.1 h)).symm
  all_goals
    have hfirst := heq (by omega) ((List.mem_cons.1 h).resolve_right fun h => ?_)
    · omega
    · simp only [List.mem_cons, List.not_mem_nil, or_false, hnext] at h

/-- A character that takes one byte is found in the bytes as often as in the text. -/
theorem count_encode {q : Char} (hq : q.toNat < 0x80) (cs : List Char) :
    (encode cs).count (.ofNat q.toNat) = cs.count q := by
  induction cs with
  | nil => rfl
  | cons c cs ih =>
    rw [encode_cons, List.count_append, ih, List.count_cons, Nat.add_comm]
    congr 1
    by_cases hc : c = q
    · subst hc
      have hbytes : String.utf8EncodeChar c = [.ofNat c.toNat] := by
        rcases encodeChar_cases c with ⟨-, heq⟩ | ⟨hc, -⟩ | ⟨hc, -⟩ | ⟨hc, -⟩
        · exact heq
        all_goals omega
      rw [hbytes, List.count_singleton_self, if_pos (beq_self_eq_true c)]
    · rw [if_neg (by simpa using hc)]
      exact List.count_eq_zero.2 fun h => hc (eq_of_mem_encodeChar hq h)

end Interpolation.Text
