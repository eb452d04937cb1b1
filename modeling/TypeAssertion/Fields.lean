/-!
Entries under distinct text keys, in ascending order of the keys. Text is ordered by its
characters, which is also the order of its UTF-8 bytes. Plain entry lists serve values and
documents, which nest; `Fields` carries its order as a proof and serves specifications and records.
-/

set_option autoImplicit false

namespace TypeAssertion

/-- Puts an item under a key of an ascending list, replacing the one already there. -/
def insertEntry {α : Type} (key : String) (item : α) : List (String × α) → List (String × α)
  | [] => [(key, item)]
  | (k, x) :: rest =>
    if key < k then (key, item) :: (k, x) :: rest
    else if key = k then (key, item) :: rest
    else (k, x) :: insertEntry key item rest

/-- The entries in ascending order; of several under one key the last one stays. -/
def sortEntries {α : Type} (entries : List (String × α)) : List (String × α) :=
  entries.foldl (fun sorted entry => insertEntry entry.1 entry.2 sorted) []

/-- The keys of the entries are strictly ascending. -/
def Ascending {α : Type} (entries : List (String × α)) : Prop :=
  (entries.map Prod.fst).Pairwise (· < ·)

instance {α : Type} (entries : List (String × α)) : Decidable (Ascending entries) :=
  inferInstanceAs (Decidable ((entries.map Prod.fst).Pairwise (· < ·)))

private theorem lt_of_not_lt {a b : String} (h : ¬a < b) (k : a ≠ b) : b < a := by
  by_cases l : b < a
  · exact l
  · exact absurd (String.le_antisymm (String.not_lt.1 l) (String.not_lt.1 h)) k

theorem mem_insertEntry {α : Type} {key : String} {item : α} {entry : String × α}
    {entries : List (String × α)} (h : entry ∈ insertEntry key item entries) :
    entry = (key, item) ∨ entry ∈ entries := by
  induction entries with
  | nil => simpa [insertEntry] using h
  | cons head tail ih =>
    obtain ⟨k, x⟩ := head
    unfold insertEntry at h
    split at h
    · simpa using h
    · split at h
      · rcases List.mem_cons.1 h with h | h
        · exact .inl h
        · exact .inr (List.mem_cons_of_mem _ h)
      · rcases List.mem_cons.1 h with h | h
        · exact .inr (h ▸ List.mem_cons_self)
        · exact (ih h).imp id (List.mem_cons_of_mem _)

theorem mem_sortEntries {α : Type} {entry : String × α} {entries : List (String × α)}
    (h : entry ∈ sortEntries entries) : entry ∈ entries := by
  have fold (rest sorted : List (String × α))
      (h : entry ∈ rest.foldl (fun sorted entry => insertEntry entry.1 entry.2 sorted) sorted) :
      entry ∈ sorted ∨ entry ∈ rest := by
    induction rest generalizing sorted with
    | nil => exact .inl h
    | cons head tail ih =>
      rcases ih _ h with h | h
      · rcases mem_insertEntry h with rfl | h
        · exact .inr List.mem_cons_self
        · exact .inl h
      · exact .inr (List.mem_cons_of_mem _ h)
  exact (fold entries [] h).resolve_left List.not_mem_nil

/-- Inserting keeps the keys ascending. -/
theorem ascending_insertEntry {α : Type} (key : String) (item : α) {entries : List (String × α)}
    (h : Ascending entries) : Ascending (insertEntry key item entries) := by
  induction entries with
  | nil => simp [insertEntry, Ascending]
  | cons head tail ih =>
    obtain ⟨k, x⟩ := head
    unfold Ascending at h ih ⊢
    rw [List.map_cons, List.pairwise_cons] at h
    unfold insertEntry
    split
    · next lt =>
      rw [List.map_cons, List.pairwise_cons, List.map_cons, List.pairwise_cons]
      refine ⟨fun k' hk => ?_, h⟩
      rcases List.mem_cons.1 hk with rfl | hk
      · exact lt
      · exact String.lt_trans lt (h.1 k' hk)
    · split
      · next eq => rw [List.map_cons, List.pairwise_cons]; exact ⟨eq ▸ h.1, h.2⟩
      · next nlt ne =>
        rw [List.map_cons, List.pairwise_cons]
        refine ⟨fun k' hk => ?_, ih h.2⟩
        obtain ⟨entry, he, rfl⟩ := List.mem_map.1 hk
        rcases mem_insertEntry he with rfl | he
        · exact lt_of_not_lt nlt ne
        · exact h.1 _ (List.mem_map_of_mem he)

/-- Sorting gives ascending keys. -/
theorem ascending_sortEntries {α : Type} (entries : List (String × α)) :
    Ascending (sortEntries entries) := by
  unfold sortEntries
  generalize h : ([] : List (String × α)) = sorted
  have hs : Ascending sorted := by subst h; simp [Ascending]
  clear h
  induction entries generalizing sorted with
  | nil => exact hs
  | cons entry rest ih => exact ih _ (ascending_insertEntry _ _ hs)

/-- A look-up tries the first entry, then the others. -/
theorem lookup_entry {α : Type} (name key : String) (item : α) (rest : List (String × α)) :
    List.lookup name ((key, item) :: rest) = if name = key then some item else rest.lookup name := by
  rw [List.lookup_cons]
  by_cases h : name = key
  · subst h; simp
  · have : (name == key) = false := by simpa using h
    simp [this, h]

/-- An inserted item is found under its key, and every other key keeps its item. -/
theorem lookup_insertEntry {α : Type} (name key : String) (item : α)
    (entries : List (String × α)) :
    (insertEntry key item entries).lookup name =
      if name = key then some item else entries.lookup name := by
  induction entries with
  | nil => simp [insertEntry, lookup_entry]
  | cons head tail ih =>
    obtain ⟨k, x⟩ := head
    unfold insertEntry
    split
    · rw [lookup_entry]
    · split
      · next eq =>
        subst eq
        rw [lookup_entry, lookup_entry]
        by_cases h : name = key <;> simp [h]
      · next ne =>
        rw [lookup_entry, lookup_entry, ih]
        by_cases h : name = key
        · subst h; simp [ne]
        · simp [h]

/-- A look-up among mapped items maps the item found. -/
theorem lookup_map {α β : Type} (f : String → α → β) (name : String)
    (entries : List (String × α)) :
    (entries.map fun entry => (entry.1, f entry.1 entry.2)).lookup name =
      (entries.lookup name).map (f name) := by
  induction entries with
  | nil => rfl
  | cons head tail ih =>
    obtain ⟨k, x⟩ := head
    rw [List.map_cons, lookup_entry, lookup_entry, ih]
    by_cases h : name = k
    · subst h; simp
    · simp [h]

/-- A look-up among the entries whose keys pass a test. -/
theorem lookup_filter {α : Type} (keep : String → Bool) (name : String)
    (entries : List (String × α)) :
    (entries.filter fun entry => keep entry.1).lookup name =
      if keep name then entries.lookup name else none := by
  induction entries with
  | nil => simp
  | cons head tail ih =>
    obtain ⟨k, x⟩ := head
    by_cases kept : keep k = true
    · rw [List.filter_cons_of_pos (by simpa using kept), lookup_entry, lookup_entry, ih]
      by_cases h : name = k
      · subst h; simp [kept]
      · simp [h]
    · rw [List.filter_cons_of_neg (by simpa using kept), lookup_entry, ih]
      by_cases h : name = k
      · subst h; simp [kept]
      · simp [h]

/-- Entries under distinct keys in ascending order. -/
structure Fields (α : Type) where
  entries : List (String × α)
  ascending : Ascending entries

namespace Fields

variable {α β : Type}

def empty : Fields α := ⟨[], by simp [Ascending]⟩

/-- Adds a field, or replaces the one of that name. -/
def insert (fields : Fields α) (name : String) (item : α) : Fields α :=
  ⟨insertEntry name item fields.entries, ascending_insertEntry name item fields.ascending⟩

/-- The fields of a list of entries; of several under one name the last one stays. -/
def ofList (entries : List (String × α)) : Fields α :=
  ⟨sortEntries entries, ascending_sortEntries entries⟩

def get? (fields : Fields α) (name : String) : Option α := fields.entries.lookup name

def names (fields : Fields α) : List String := fields.entries.map Prod.fst

def size (fields : Fields α) : Nat := fields.entries.length

def map (f : α → β) (fields : Fields α) : Fields β :=
  ⟨fields.entries.map fun entry => (entry.1, f entry.2), by
    have h := fields.ascending
    unfold Ascending at h ⊢
    rwa [List.map_map]⟩

def filter (keep : String → Bool) (fields : Fields α) : Fields α :=
  ⟨fields.entries.filter fun entry => keep entry.1,
    fields.ascending.sublist (List.filter_sublist.map Prod.fst)⟩

/-- Replaces the item of a field that is there; other names change nothing. -/
def set (fields : Fields α) (name : String) (item : α) : Fields α :=
  ⟨fields.entries.map fun entry => (entry.1, if entry.1 = name then item else entry.2), by
    have h := fields.ascending
    unfold Ascending at h ⊢
    rwa [List.map_map]⟩

/-- Two field lists with the same names and related items. -/
def all₂ (related : α → β → Bool) (first : Fields α) (second : Fields β) : Bool :=
  first.names == second.names &&
    (first.entries.zip second.entries).all fun pair => related pair.1.2 pair.2.2

theorem get?_insert (fields : Fields α) (name key : String) (item : α) :
    (fields.insert key item).get? name = if name = key then some item else fields.get? name :=
  lookup_insertEntry name key item fields.entries

@[simp] theorem names_set (fields : Fields α) (name : String) (item : α) :
    (fields.set name item).names = fields.names := by
  simp [set, names, Function.comp_def]

@[simp] theorem names_map (fields : Fields α) (f : α → β) : (fields.map f).names = fields.names := by
  simp [map, names, Function.comp_def]

theorem isSome_get?_iff (fields : Fields α) (name : String) :
    (fields.get? name).isSome = true ↔ name ∈ fields.names := by
  simp [get?, names, List.lookup_isSome_iff]

theorem mem_names_of_get? {fields : Fields α} {name : String} {item : α}
    (found : fields.get? name = some item) : name ∈ fields.names :=
  (isSome_get?_iff fields name).1 (Option.isSome_of_eq_some found)

theorem exists_get?_of_mem {fields : Fields α} {name : String} (named : name ∈ fields.names) :
    ∃ item, fields.get? name = some item :=
  Option.isSome_iff_exists.1 ((isSome_get?_iff fields name).2 named)

theorem names_filter (fields : Fields α) (keep : String → Bool) :
    (fields.filter keep).names = fields.names.filter keep := by
  simp [filter, names, List.filter_map, Function.comp_def]

theorem get?_filter (fields : Fields α) (keep : String → Bool) (name : String) :
    (fields.filter keep).get? name = if keep name then fields.get? name else none :=
  lookup_filter keep name fields.entries

theorem get?_set (fields : Fields α) (name key : String) (item : α) :
    (fields.set key item).get? name =
      (fields.get? name).map fun old => if name = key then item else old :=
  lookup_map (fun k old => if k = key then item else old) name fields.entries

theorem get?_map (fields : Fields α) (f : α → β) (name : String) :
    (fields.map f).get? name = (fields.get? name).map f :=
  lookup_map (fun _ => f) name fields.entries

end Fields

end TypeAssertion
