import Mathlib.Data.List.Perm.Subperm
import QueryGuard.Members

/-!
# Laws of ordered members

Looking a name up, membership of the list, and what writing and removing do to
both. `Matched` compares two lists of members without looking at their order;
`Matched.symm` turns such a comparison round where no name stands twice.
-/

namespace QueryGuard.Members

variable {α β : Type} {members : Members α} {name other : String} {value : α}

-- ---------------------------------------------------------------------------
-- Looking up
-- ---------------------------------------------------------------------------

theorem get?_cons (name other : String) (value : α) (rest : Members α) :
    get? ((other, value) :: rest) name = if name = other then some value else get? rest name := by
  by_cases h : name = other
  · simp [get?, h]
  · simp [get?, List.lookup_cons, beq_false_of_ne h, h]

theorem get?_nil (name : String) : get? ([] : Members α) name = none := rfl

theorem get?_append (members others : Members α) (name : String) :
    get? (members ++ others) name = (members.get? name).or (get? others name) :=
  List.lookup_append

theorem mem_of_get? (h : members.get? name = some value) : (name, value) ∈ members := by
  induction members with
  | nil => simp [get?] at h
  | cons entry rest ih =>
    obtain ⟨other, old⟩ := entry
    rw [get?_cons] at h
    split at h
    · next he => subst he; cases h; simp
    · exact List.mem_cons_of_mem _ (ih h)

theorem mem_names (h : (name, value) ∈ members) : name ∈ members.names :=
  List.mem_map.mpr ⟨(name, value), h, rfl⟩

theorem get?_eq_none_iff : members.get? name = none ↔ name ∉ members.names := by
  induction members with
  | nil => simp [get?, names]
  | cons entry rest ih =>
    obtain ⟨other, old⟩ := entry
    rw [get?_cons]
    by_cases h : name = other
    · simp [h, names]
    · simpa [h, names] using ih

theorem exists_get?_of_mem_names (h : name ∈ members.names) :
    ∃ value, members.get? name = some value := by
  cases hg : members.get? name with
  | none => exact absurd h (get?_eq_none_iff.mp hg)
  | some value => exact ⟨value, rfl⟩

theorem get?_of_mem (hd : members.Distinct) (h : (name, value) ∈ members) :
    members.get? name = some value := by
  induction members with
  | nil => simp at h
  | cons entry rest ih =>
    obtain ⟨other, old⟩ := entry
    obtain ⟨hnot, hrest⟩ := List.nodup_cons.mp hd
    rw [get?_cons]
    rcases List.mem_cons.mp h with he | hm
    · cases he; simp
    · have hne : name ≠ other := by
        intro he
        exact hnot (he ▸ mem_names hm)
      simpa [hne] using ih hrest hm

theorem get?_filter (hd : members.Distinct) (keep : α → Bool) (name : String) :
    get? (members.filter fun entry => keep entry.2) name = (members.get? name).filter keep := by
  induction members with
  | nil => rfl
  | cons entry rest ih =>
    obtain ⟨other, value⟩ := entry
    obtain ⟨hnot, hrest⟩ := List.nodup_cons.mp hd
    have ih := ih hrest
    by_cases he : name = other
    · subst he
      have hnone : get? rest name = none := get?_eq_none_iff.mpr hnot
      rw [hnone] at ih
      cases hk : keep value <;> simp [get?_cons, Option.filter, hk, ih]
    · cases hk : keep value <;> simp [get?_cons, hk, ih, he]

theorem Distinct.filter_name (hd : members.Distinct) (name : String) :
    (members.filter fun entry => entry.1 == name).map Prod.snd = (members.get? name).toList := by
  induction members with
  | nil => rfl
  | cons entry rest ih =>
    obtain ⟨other, value⟩ := entry
    obtain ⟨hnot, hrest⟩ := List.nodup_cons.mp hd
    have ih := ih hrest
    by_cases he : name = other
    · subst he
      rw [get?_eq_none_iff.mpr hnot] at ih
      simpa [get?_cons] using ih
    · simpa [get?_cons, he, Ne.symm he] using ih

theorem Distinct.eq_of_mem (hd : members.Distinct) {first second : α}
    (hf : (name, first) ∈ members) (hs : (name, second) ∈ members) : first = second := by
  have h := (get?_of_mem hd hf).symm.trans (get?_of_mem hd hs)
  exact Option.some.inj h

theorem Distinct.perm {others : Members α} (hd : members.Distinct) (hp : members.Perm others) :
    others.Distinct :=
  (hp.map Prod.fst).nodup_iff.mp hd

-- ---------------------------------------------------------------------------
-- Writing
-- ---------------------------------------------------------------------------

theorem get?_put (name other : String) (value : α) (members : Members α) :
    (members.put name value).get? other =
      if other = name then some value else members.get? other := by
  split
  · next h => subst h; exact get?_put_self ..
  · next h => exact get?_put_of_ne h ..

theorem put_of_get?_eq_none (h : members.get? name = none) (value : α) :
    members.put name value = members ++ [(name, value)] := by
  induction members with
  | nil => rfl
  | cons entry rest ih =>
    obtain ⟨other, old⟩ := entry
    rw [get?_cons] at h
    split at h
    · cases h
    · next hne => simp [put, Ne.symm hne, ih h]

theorem put_of_get?_eq_some (h : members.get? name = some value) :
    members.put name value = members := by
  induction members with
  | nil => simp [get?] at h
  | cons entry rest ih =>
    obtain ⟨other, old⟩ := entry
    rw [get?_cons] at h
    split at h
    · next he => subst he; cases h; simp [put]
    · next hne => simp [put, Ne.symm hne, ih h]

theorem put_put_self (old value : α) :
    (members.put name old).put name value = members.put name value := by
  induction members with
  | nil => simp [put]
  | cons entry rest ih =>
    obtain ⟨first, held⟩ := entry
    by_cases h : first = name
    · simp [put, h]
    · simp [put, h, ih]

theorem put_comm (h : members.get? name ≠ none) (hne : other ≠ name) (value new : α) :
    (members.put name value).put other new = (members.put other new).put name value := by
  induction members with
  | nil => exact absurd rfl h
  | cons entry rest ih =>
    obtain ⟨first, held⟩ := entry
    rw [get?_cons] at h
    by_cases hf : first = name
    · subst hf
      simp [put, Ne.symm hne]
    · rw [if_neg (Ne.symm hf)] at h
      by_cases ho : first = other
      · simp [put, ho, hne]
      · simp [put, hf, ho, ih h]

theorem mem_of_mem_put {entry : String × α} (h : entry ∈ members.put name value) :
    entry = (name, value) ∨ entry ∈ members := by
  induction members with
  | nil => exact .inl (by simpa [put] using h)
  | cons first rest ih =>
    obtain ⟨other, old⟩ := first
    simp only [put] at h
    split at h
    · rcases List.mem_cons.mp h with he | hm
      · exact .inl he
      · exact .inr (List.mem_cons_of_mem _ hm)
    · rcases List.mem_cons.mp h with he | hm
      · exact .inr (he ▸ List.mem_cons_self)
      · exact (ih hm).imp_right (List.mem_cons_of_mem _)

theorem Distinct.put (h : members.Distinct) (name : String) (value : α) :
    (members.put name value).Distinct := by
  unfold Distinct at h ⊢
  rw [names_put]
  split
  · exact h
  · next hn =>
    refine List.nodup_append.mpr ⟨h, by simp, ?_⟩
    rintro own ho _ (_ | _) rfl
    · exact hn ho
    · contradiction

-- ---------------------------------------------------------------------------
-- Removing
-- ---------------------------------------------------------------------------

theorem remove_sublist (name : String) (members : Members α) :
    (members.remove name).Sublist members := by
  induction members with
  | nil => exact List.Sublist.slnil
  | cons entry rest ih =>
    obtain ⟨other, old⟩ := entry
    simp only [remove]
    split
    · exact List.sublist_cons_self ..
    · exact ih.cons_cons _

theorem Distinct.remove (h : members.Distinct) (name : String) :
    (members.remove name).Distinct :=
  List.Nodup.sublist ((remove_sublist name members).map Prod.fst) h

theorem get?_remove_of_ne (h : other ≠ name) (members : Members α) :
    (members.remove name).get? other = members.get? other := by
  induction members with
  | nil => rfl
  | cons entry rest ih =>
    obtain ⟨first, old⟩ := entry
    simp only [remove]
    split
    · next he => subst he; simp [get?_cons, h]
    · simp [get?_cons, ih]

theorem get?_remove_self (h : members.Distinct) (name : String) :
    (members.remove name).get? name = none := by
  induction members with
  | nil => rfl
  | cons entry rest ih =>
    obtain ⟨first, old⟩ := entry
    obtain ⟨hnot, hrest⟩ := List.nodup_cons.mp h
    simp only [remove]
    split
    · next he => subst he; exact get?_eq_none_iff.mpr hnot
    · next hne => simpa [get?_cons, Ne.symm hne] using ih hrest

theorem remove_of_get?_eq_none (h : members.get? name = none) : members.remove name = members := by
  induction members with
  | nil => rfl
  | cons entry rest ih =>
    obtain ⟨first, old⟩ := entry
    rw [get?_cons] at h
    split at h
    · cases h
    · next hne => rw [remove, if_neg (Ne.symm hne), ih h]

-- ---------------------------------------------------------------------------
-- Ascending names
-- ---------------------------------------------------------------------------

theorem putAscending_last (h : ∀ other ∈ members.names, other < name) (value : α) :
    members.putAscending name value = members ++ [(name, value)] := by
  induction members with
  | nil => rfl
  | cons entry rest ih =>
    obtain ⟨first, old⟩ := entry
    obtain ⟨hfirst, hrest⟩ := List.forall_mem_cons.mp h
    have hfirst : first < name := hfirst
    have hne : first ≠ name := by
      rintro rfl
      exact String.lt_irrefl _ hfirst
    rw [putAscending, if_neg (String.lt_asymm hfirst), if_neg hne, ih hrest]
    rfl

theorem Ascending.ascending_eq (h : members.Ascending) : ascending members = members := by
  suffices hfold : ∀ earlier rest : Members α, Ascending (earlier ++ rest) →
      rest.foldl (fun members entry => Members.putAscending entry.1 entry.2 members) earlier =
        earlier ++ rest from hfold [] members h
  intro earlier rest
  induction rest generalizing earlier with
  | nil => simp
  | cons entry rest ih =>
    intro h
    have hlast : ∀ other ∈ names earlier, other < entry.1 := by
      rw [Ascending, names, List.map_append] at h
      exact fun other ho => (List.pairwise_append.mp h).2.2 other ho entry.1 (by simp)
    rw [List.foldl_cons, putAscending_last hlast, ih _ (List.append_cons .. ▸ h),
      ← List.append_cons]

-- ---------------------------------------------------------------------------
-- Comparing without order
-- ---------------------------------------------------------------------------

/-- Every member of the first list has its like under the same name in the
second. -/
def Matched (like : α → β → Prop) (first : Members α) (second : Members β) : Prop :=
  ∀ entry ∈ first, ∃ value, second.get? entry.1 = some value ∧ like entry.2 value

section
variable {like : α → β → Prop} {first : Members α} {second : Members β}

theorem Matched.names_subset (h : Matched like first second) : first.names ⊆ second.names := by
  intro name hn
  obtain ⟨entry, he, rfl⟩ := List.mem_map.mp hn
  obtain ⟨value, hv, _⟩ := h entry he
  exact mem_names (mem_of_get? hv)

/-- Two lists of one length that name the same once each: counting gives the
names of the second list in the first. -/
theorem Matched.names_perm (h : Matched like first second) (hf : first.Distinct)
    (hl : second.length ≤ first.length) : first.names.Perm second.names := by
  have hsub : first.names.Subperm second.names := List.subperm_of_subset hf h.names_subset
  exact hsub.perm_of_length_le (by simpa [names] using hl)

theorem Matched.symm {back : β → α → Prop} (h : Matched like first second)
    (hf : first.Distinct) (hs : second.Distinct) (hl : second.length ≤ first.length)
    (hback : ∀ entry ∈ first, ∀ value, (entry.1, value) ∈ second → like entry.2 value →
      back value entry.2) : Matched back second first := by
  rintro ⟨name, value⟩ hm
  have hn : name ∈ first.names := (h.names_perm hf hl).mem_iff.mpr (mem_names hm)
  obtain ⟨own, ho⟩ := exists_get?_of_mem_names hn
  obtain ⟨found, hfound, hlike⟩ := h (name, own) (mem_of_get? ho)
  have heq : found = value := hs.eq_of_mem (mem_of_get? hfound) hm
  subst heq
  exact ⟨own, ho, hback _ (mem_of_get? ho) _ hm hlike⟩

end

theorem matched_iff {like : α → β → Prop} {first : Members α} {second : Members β}
    (hf : first.Distinct) (hs : second.Distinct) :
    first.length = second.length ∧ Matched like first second ↔
      (∀ name, name ∈ first.names ↔ name ∈ second.names) ∧
        ∀ name a b, (name, a) ∈ first → (name, b) ∈ second → like a b := by
  constructor
  · rintro ⟨hl, hm⟩
    refine ⟨fun name => (hm.names_perm hf (Nat.le_of_eq hl.symm)).mem_iff, ?_⟩
    intro name a b ha hb
    obtain ⟨found, hfound, hlike⟩ := hm (name, a) ha
    obtain rfl := hs.eq_of_mem (mem_of_get? hfound) hb
    exact hlike
  · rintro ⟨hnames, hvalues⟩
    have hperm : first.names.Perm second.names := (List.perm_ext_iff_of_nodup hf hs).mpr hnames
    refine ⟨by simpa [names] using hperm.length_eq, fun entry he => ?_⟩
    obtain ⟨value, hv⟩ := exists_get?_of_mem_names ((hnames entry.1).mp (mem_names he))
    exact ⟨value, hv, hvalues _ _ _ he (mem_of_get? hv)⟩

theorem Matched.trans {γ : Type} {first : Members α} {second : Members β} {third : Members γ}
    {ab : α → β → Prop} {bc : β → γ → Prop} {ac : α → γ → Prop}
    (hab : Matched ab first second) (hbc : Matched bc second third)
    (h : ∀ a ∈ first, ∀ b c, (a.1, b) ∈ second → (a.1, c) ∈ third → ab a.2 b → bc b c → ac a.2 c) :
    Matched ac first third := by
  intro entry he
  obtain ⟨b, hb, hlike⟩ := hab entry he
  obtain ⟨c, hc, hlike'⟩ := hbc (entry.1, b) (mem_of_get? hb)
  exact ⟨c, hc, h entry he b c (mem_of_get? hb) (mem_of_get? hc) hlike hlike'⟩

section
variable {like : α → α → Prop}

theorem matched_of_perm {members others : Members α} (hd : members.Distinct)
    (hp : members.Perm others) (hrefl : ∀ entry ∈ members, like entry.2 entry.2) :
    members.length = others.length ∧ Matched like members others := by
  refine ⟨hp.length_eq, fun entry he => ?_⟩
  exact ⟨entry.2, get?_of_mem (hd.perm hp) (hp.mem_iff.mp he), hrefl entry he⟩

variable {before after : Members α} {new : α}

theorem Distinct.replaced (hd : Distinct (before ++ (name, value) :: after)) :
    Distinct (before ++ (name, new) :: after) := by
  simpa [Distinct, names] using hd

theorem matched_replaced (hd : Distinct (before ++ (name, value) :: after))
    (h : like value new)
    (hrefl : ∀ entry ∈ before ++ (name, value) :: after, like entry.2 entry.2) :
    (before ++ (name, value) :: after).length = (before ++ (name, new) :: after).length ∧
      Matched like (before ++ (name, value) :: after) (before ++ (name, new) :: after) := by
  refine ⟨by simp, fun entry he => ?_⟩
  have hfind : ∀ found ∈ before ++ (name, new) :: after,
      get? (before ++ (name, new) :: after) found.1 = some found.2 :=
    fun found hm => get?_of_mem hd.replaced hm
  by_cases hm : entry ∈ before ++ (name, new) :: after
  · exact ⟨entry.2, hfind entry hm, hrefl entry he⟩
  · obtain rfl : entry = (name, value) := by
      simp only [List.mem_append, List.mem_cons] at he hm
      grind
    exact ⟨new, hfind (name, new) (by simp), h⟩

end

end QueryGuard.Members
