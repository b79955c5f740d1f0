import Interpolation.Value

/-!
# Entries of maps

The entries of a map as a list of pairs, `Entries.toList`. The keys in it increase
(`Entries.pairwise_toList`), so that entries are known by their list (`Entries.toList_inj`) and are
made again by inserting its pairs (`Entries.ofPairs_toList`).
-/

namespace Interpolation.Entries

/-- Induction on entries, one entry at a time. -/
@[elab_as_elim, induction_eliminator]
theorem induction {motive : {after : Option String} → Entries after → Prop}
    (nil : ∀ {after : Option String}, motive (nil : Entries after))
    (cons : ∀ {after : Option String} (key : String) (h : ∀ k ∈ after, k < key) (value : Value)
      (rest : Entries (some key)), motive rest → motive (cons key h value rest))
    {after : Option String} (entries : Entries after) : motive entries :=
  match entries with
  | .nil => nil
  | .cons key h value rest => cons key h value rest (induction nil cons rest)

variable {after : Option String} {entries : Entries after}

theorem lt_of_mem_toList {entry : String × Value} (h : entry ∈ entries.toList) :
    ∀ k ∈ after, k < entry.1 := by
  induction entries with
  | nil => cases h
  | cons key hkey value rest ih =>
    intro k hk
    rcases List.mem_cons.1 h with rfl | h
    · exact hkey k hk
    · exact Std.lt_trans (hkey k hk) (ih h key rfl)

/-- **The keys of a map come in increasing order.** -/
theorem pairwise_toList (entries : Entries after) :
    entries.toList.Pairwise fun a b => a.1 < b.1 := by
  induction entries with
  | nil => exact .nil
  | cons key h value rest ih =>
    exact List.pairwise_cons.2 ⟨fun b hb => lt_of_mem_toList hb key rfl, ih⟩

/-- Entries are known by the pairs of `toList`. -/
theorem toList_inj {entries' : Entries after} :
    entries.toList = entries'.toList ↔ entries = entries' := by
  refine ⟨fun h => ?_, congrArg toList⟩
  induction entries with
  | nil =>
    cases entries' with
    | nil => rfl
    | cons => cases h
  | cons key _ value rest ih =>
    cases entries' with
    | nil => cases h
    | cons key' _ value' rest' =>
      obtain ⟨hentry, hrest⟩ := List.cons.inj h
      cases hentry
      rw [ih hrest]

theorem mem_toList_insertAfter {key : String} {h : ∀ k ∈ after, k < key} {value : Value}
    {entry : String × Value} (hentry : entry ∈ (entries.insertAfter key h value).toList) :
    entry = (key, value) ∨ entry ∈ entries.toList := by
  induction entries with
  | nil => exact .inl (List.mem_singleton.1 hentry)
  | cons k _ v rest ih =>
    rw [insertAfter] at hentry
    split at hentry
    · exact List.mem_cons.1 hentry
    split at hentry
    · next heq =>
      rcases List.mem_cons.1 hentry with rfl | hentry
      · exact .inl (congrArg (·, value) heq.symm)
      · exact .inr (List.mem_cons_of_mem _ hentry)
    · rcases List.mem_cons.1 hentry with rfl | hentry
      · exact .inr List.mem_cons_self
      · exact (ih hentry).imp_right (List.mem_cons_of_mem _)

/-- What is in a map after an insertion is what was inserted or was there. -/
theorem mem_toList_insert {entries : Entries none} {key : String} {value : Value}
    {entry : String × Value} (h : entry ∈ (entries.insert key value).toList) :
    entry = (key, value) ∨ entry ∈ entries.toList :=
  mem_toList_insertAfter h

theorem toList_insertAfter_of_forall_lt {key : String} {h : ∀ k ∈ after, k < key}
    (hlast : ∀ entry ∈ entries.toList, entry.1 < key) (value : Value) :
    (entries.insertAfter key h value).toList = entries.toList ++ [(key, value)] := by
  induction entries with
  | nil => rfl
  | cons k _ v rest ih =>
    obtain ⟨hk, hrest⟩ := List.forall_mem_cons.1 hlast
    rw [insertAfter, dif_neg (String.lt_asymm hk), dif_neg (String.ne_of_lt hk).symm]
    exact congrArg ((k, v) :: ·) (ih hrest)

/-- `insert` puts an entry whose key comes after all others at the end. -/
theorem toList_insert_of_forall_lt {entries : Entries none} {key : String}
    (h : ∀ entry ∈ entries.toList, entry.1 < key) (value : Value) :
    (entries.insert key value).toList = entries.toList ++ [(key, value)] :=
  toList_insertAfter_of_forall_lt h value

/-- Pairs in increasing order are inserted one after another. -/
theorem toList_foldl_insert {pairs : List (String × Value)} {before : Entries none}
    (h : (before.toList ++ pairs).Pairwise fun a b => a.1 < b.1) :
    (pairs.foldl (fun entries (key, value) => entries.insert key value) before).toList =
      before.toList ++ pairs := by
  induction pairs generalizing before with
  | nil => exact (List.append_nil _).symm
  | cons pair pairs ih =>
    have hlast : ∀ entry ∈ before.toList, entry.1 < pair.1 := fun entry hentry =>
      (List.pairwise_append.1 h).2.2 entry hentry pair List.mem_cons_self
    have hinsert := toList_insert_of_forall_lt hlast pair.2
    rw [List.foldl_cons, ih (by rwa [hinsert, List.append_assoc]), hinsert, List.append_assoc]
    rfl

/-- **`ofPairs` makes a map again from its pairs.** -/
theorem ofPairs_toList (entries : Entries none) : ofPairs entries.toList = entries := by
  have hlist : (ofPairs entries.toList).toList = nil.toList ++ entries.toList :=
    toList_foldl_insert entries.pairwise_toList
  exact toList_inj.1 hlist

end Interpolation.Entries
