/-!
# Ordered members

The named parts of an object, in the order in which the names first came.
Writing over a name keeps its place; removing one keeps the order of the rest.
-/

namespace QueryGuard

/-- Named values in order. Every operation below leaves each name at most once
when it was at most once before. -/
abbrev Members (α : Type) := List (String × α)

namespace Members

variable {α : Type}

def get? (members : Members α) (name : String) : Option α :=
  members.lookup name

def has (members : Members α) (name : String) : Bool :=
  (members.get? name).isSome

def names (members : Members α) : List String :=
  members.map Prod.fst

/-- A name already present keeps its place; a new one goes last. -/
def put (name : String) (value : α) : Members α → Members α
  | [] => [(name, value)]
  | (other, old) :: rest =>
    if other = name then (name, value) :: rest else (other, old) :: put name value rest

def remove (name : String) : Members α → Members α
  | [] => []
  | (other, value) :: rest =>
    if other = name then rest else (other, value) :: remove name rest

/-- One name at a time: the last value of a repeated name wins, in the place
of its first. -/
def ofList (entries : List (String × α)) : Members α :=
  entries.foldl (fun members entry => put entry.1 entry.2 members) []

-- ---------------------------------------------------------------------------
-- Order by name
-- ---------------------------------------------------------------------------

/-- Names ascend, so that each stands once. -/
def Ascending (members : Members α) : Prop :=
  members.names.Pairwise (· < ·)

/-- Keeps names ascending; a name already present gets the new value. -/
def putAscending (name : String) (value : α) : Members α → Members α
  | [] => [(name, value)]
  | (other, old) :: rest =>
    if name < other then (name, value) :: (other, old) :: rest
    else if other = name then (name, value) :: rest
    else (other, old) :: putAscending name value rest

def ascending (entries : List (String × α)) : Members α :=
  entries.foldl (fun members entry => putAscending entry.1 entry.2 members) []

-- ---------------------------------------------------------------------------
-- Names
-- ---------------------------------------------------------------------------

/-- No name stands twice. -/
def Distinct (members : Members α) : Prop :=
  members.names.Nodup

instance (members : Members α) : Decidable members.Distinct :=
  inferInstanceAs (Decidable (List.Nodup _))

theorem get?_put_self (name : String) (value : α) (members : Members α) :
    (members.put name value).get? name = some value := by
  induction members with
  | nil => simp [put, get?]
  | cons entry rest ih =>
    obtain ⟨other, old⟩ := entry
    by_cases h : other = name
    · simp [put, h, get?]
    · have h' : (name == other) = false := by simpa using Ne.symm h
      simpa [put, h, get?, List.lookup_cons, h'] using ih

theorem get?_put_of_ne {name other : String} (h : other ≠ name) (value : α)
    (members : Members α) : (members.put name value).get? other = members.get? other := by
  induction members with
  | nil =>
    have h' : (other == name) = false := by simpa using h
    simp [put, get?, List.lookup_cons, h']
  | cons entry rest ih =>
    obtain ⟨first, old⟩ := entry
    by_cases hf : first = name
    · have h' : (other == name) = false := by simpa using h
      simp [put, hf, get?, List.lookup_cons, h']
    · by_cases ho : other = first
      · simp [put, hf, get?, ho]
      · have h' : (other == first) = false := by simpa using ho
        simpa [put, hf, get?, List.lookup_cons, h'] using ih

theorem names_put (name : String) (value : α) (members : Members α) :
    (members.put name value).names =
      if name ∈ members.names then members.names else members.names ++ [name] := by
  induction members with
  | nil => simp [put, names]
  | cons entry rest ih =>
    obtain ⟨other, old⟩ := entry
    by_cases h : other = name
    · simp [put, h, names]
    · have hn : name ≠ other := Ne.symm h
      simp only [names] at ih
      by_cases hm : name ∈ rest.map Prod.fst <;> simp [put, h, names, ih, hm, hn]

theorem mem_names_putAscending {name other : String} {value : α} {members : Members α}
    (h : other ∈ (members.putAscending name value).names) :
    other = name ∨ other ∈ members.names := by
  induction members with
  | nil => simpa [putAscending, names] using h
  | cons entry rest ih =>
    obtain ⟨first, old⟩ := entry
    simp only [putAscending] at h
    split at h
    · simpa [names] using h
    · split at h
      · next he => subst he; simp only [names, List.map_cons, List.mem_cons] at h ⊢; grind
      · simp only [names, List.map_cons, List.mem_cons] at h ih ⊢; grind

theorem Ascending.putAscending {members : Members α} (h : members.Ascending) (name : String)
    (value : α) : (members.putAscending name value).Ascending := by
  induction members with
  | nil => simp [Members.putAscending, Ascending, names]
  | cons entry rest ih =>
    obtain ⟨first, old⟩ := entry
    obtain ⟨hfirst, hrest⟩ := List.pairwise_cons.mp h
    simp only [Members.putAscending]
    split
    · next hlt =>
      refine List.pairwise_cons.mpr ⟨?_, h⟩
      intro other ho
      rcases List.mem_cons.mp ho with rfl | ho
      · exact hlt
      · exact String.lt_trans hlt (hfirst other ho)
    · split
      · next he => subst he; exact List.pairwise_cons.mpr ⟨hfirst, hrest⟩
      · next hlt hne =>
        refine List.pairwise_cons.mpr ⟨?_, ih hrest⟩
        intro other ho
        rcases mem_names_putAscending ho with rfl | ho
        · exact Std.lt_of_le_of_ne (String.not_lt.mp hlt) hne
        · exact hfirst other ho

theorem ascending_ascending (entries : List (String × α)) : (ascending entries).Ascending := by
  suffices h : ∀ start : Members α, start.Ascending →
      (entries.foldl (fun members entry => putAscending entry.1 entry.2 members) start).Ascending by
    exact h [] List.Pairwise.nil
  induction entries with
  | nil => exact fun _ h => h
  | cons entry rest ih => exact fun start h => ih _ (h.putAscending entry.1 entry.2)

end Members

end QueryGuard
