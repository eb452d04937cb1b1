import Mathlib.Data.List.Perm.Basic
import TypeAssertion.Fields

/-!
Ascending entries are told by their look-ups: an entry is there when a look-up finds it, and two
ascending lists in which every look-up finds the same are one list.
-/

set_option autoImplicit false

namespace TypeAssertion

variable {α β : Type}

theorem Ascending.tail {entry : String × α} {rest : List (String × α)}
    (h : Ascending (entry :: rest)) : Ascending rest := (List.pairwise_cons.1 h).2

theorem Ascending.head_lt {entry other : String × α} {rest : List (String × α)}
    (h : Ascending (entry :: rest)) (member : other ∈ rest) : entry.1 < other.1 :=
  (List.pairwise_cons.1 h).1 other.1 (List.mem_map_of_mem member)

theorem Ascending.pairwise {entries : List (String × α)} (h : Ascending entries) :
    entries.Pairwise fun a b => a.1 < b.1 := List.pairwise_map.1 h

theorem lookup_eq_some_iff_mem {entries : List (String × α)} (h : Ascending entries) {name : String}
    {item : α} : entries.lookup name = some item ↔ (name, item) ∈ entries := by
  induction entries with
  | nil => simp
  | cons entry rest ih =>
    obtain ⟨key, first⟩ := entry
    rw [lookup_entry, List.mem_cons]
    by_cases same : name = key
    · subst same
      have absent : (name, item) ∉ rest := fun member =>
        String.lt_irrefl name (h.head_lt member)
      simp [absent, eq_comm]
    · rw [if_neg same, ih h.tail]
      simp [same]

theorem entries_ext {first second : List (String × α)} (hf : Ascending first)
    (hs : Ascending second) (h : ∀ name, first.lookup name = second.lookup name) :
    first = second := by
  have distinct {entries : List (String × α)} (ascending : Ascending entries) : entries.Nodup := by
    refine ascending.pairwise.imp ?_
    rintro a _ lt rfl
    exact String.lt_irrefl a.1 lt
  have same : first.Perm second := by
    rw [List.perm_ext_iff_of_nodup (distinct hf) (distinct hs)]
    intro entry
    rw [← lookup_eq_some_iff_mem hf, ← lookup_eq_some_iff_mem hs, h]
  exact same.eq_of_pairwise (fun a b _ _ ab ba => absurd ab (String.lt_asymm ba)) hf.pairwise
    hs.pairwise

/-- A key that is above all others is put at the end. -/
theorem insertEntry_eq_concat {key : String} {item : α} {entries : List (String × α)}
    (h : ∀ entry ∈ entries, entry.1 < key) :
    insertEntry key item entries = entries ++ [(key, item)] := by
  induction entries with
  | nil => rfl
  | cons entry rest ih =>
    obtain ⟨k, x⟩ := entry
    have above : k < key := h (k, x) List.mem_cons_self
    have different : key ≠ k := by
      rintro rfl
      exact String.lt_irrefl key above
    rw [insertEntry, if_neg (String.lt_asymm above), if_neg different,
      ih fun other member => h other (List.mem_cons_of_mem _ member), List.cons_append]

theorem sortEntries_eq_self {entries : List (String × α)} (h : Ascending entries) :
    sortEntries entries = entries := by
  have fold (rest sorted : List (String × α)) (h : Ascending (sorted ++ rest)) :
      rest.foldl (fun sorted entry => insertEntry entry.1 entry.2 sorted) sorted =
        sorted ++ rest := by
    induction rest generalizing sorted with
    | nil => simp
    | cons entry rest ih =>
      have above : ∀ other ∈ sorted, other.1 < entry.1 := by
        unfold Ascending at h
        rw [List.map_append, List.pairwise_append] at h
        exact fun other member => h.2.2 _ (List.mem_map_of_mem member) _ (by simp)
      rw [List.foldl_cons, insertEntry_eq_concat above, ih _ (by simpa using h), List.append_assoc]
      rfl
  exact fold entries [] h

theorem Fields.get?_ofList {entries : List (String × α)} (h : Ascending entries) (name : String) :
    (ofList entries).get? name = entries.lookup name :=
  congrArg (List.lookup name) (sortEntries_eq_self h)

theorem Fields.names_ofList {entries : List (String × α)} (h : Ascending entries) :
    (ofList entries).names = entries.map Prod.fst :=
  congrArg (List.map Prod.fst) (sortEntries_eq_self h)

theorem Fields.ofList_entries (fields : Fields α) : ofList fields.entries = fields := by
  obtain ⟨entries, ascending⟩ := fields
  simp only [ofList, sortEntries_eq_self ascending]

/-- A list of fields is related to itself when each of its items is. -/
theorem Fields.all₂_self {related : α → α → Bool} (h : ∀ item, related item item = true)
    (fields : Fields α) : fields.all₂ related fields = true := by
  have pairs (entries : List (String × α)) :
      (entries.zip entries).all (fun pair => related pair.1.2 pair.2.2) = true := by
    induction entries with
    | nil => rfl
    | cons entry rest ih => simp [h, ih]
  simp [all₂, pairs]

/-! ### Entries under a partial function -/

theorem ascending_filterMap (f : α → Option β) {entries : List (String × α)}
    (h : Ascending entries) :
    Ascending (entries.filterMap fun entry => (f entry.2).map fun item => (entry.1, item)) := by
  unfold Ascending at *
  rw [List.pairwise_map] at *
  refine h.filterMap _ fun a b below c kept d kept' => ?_
  obtain ⟨_, _, rfl⟩ := Option.map_eq_some_iff.1 kept
  obtain ⟨_, _, rfl⟩ := Option.map_eq_some_iff.1 kept'
  exact below

theorem lookup_filterMap (f : α → Option β) {entries : List (String × α)} (h : Ascending entries)
    (name : String) :
    (entries.filterMap fun entry => (f entry.2).map fun item => (entry.1, item)).lookup name =
      (entries.lookup name).bind f := by
  ext item
  rw [lookup_eq_some_iff_mem (ascending_filterMap f h), List.mem_filterMap, Option.bind_eq_some_iff]
  constructor
  · rintro ⟨⟨key, old⟩, member, kept⟩
    obtain ⟨_, found, e⟩ := Option.map_eq_some_iff.1 kept
    obtain ⟨rfl, rfl⟩ := Prod.mk.inj e
    exact ⟨old, (lookup_eq_some_iff_mem h).2 member, found⟩
  · rintro ⟨old, member, found⟩
    exact ⟨(name, old), (lookup_eq_some_iff_mem h).1 member, by rw [found]; rfl⟩

end TypeAssertion
