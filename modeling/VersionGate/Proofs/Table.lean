import Mathlib.Data.List.Induction
import VersionGate.Table

/-!
# Tables with distinct names

A list of entries with distinct names is the table of these entries, and entering a value
under one of the names changes that entry alone.
-/

namespace VersionGate.Table

variable {α : Type}

/-- A new name is put at the end. -/
theorem insertEntry_of_not_mem {name : String} {value : α} {entries : List (String × α)}
    (hname : name ∉ entries.map Prod.fst) :
    insertEntry name value entries = entries ++ [(name, value)] := by
  induction entries with
  | nil => rfl
  | cons entry entries ih =>
    simp only [List.map_cons, List.mem_cons, not_or] at hname
    rw [insertEntry, if_neg (by simpa using hname.1), ih hname.2, List.cons_append]

/-- Entering the value that a name has already changes nothing. -/
theorem insert_of_get? {table : Table α} {name : String} {value : α}
    (hvalue : table.get? name = some value) : table.insert name value = table := by
  obtain ⟨entries⟩ := table
  rw [insert, mk.injEq]
  unfold get? at hvalue
  induction entries with
  | nil => cases hvalue
  | cons entry entries ih =>
    obtain ⟨key, held⟩ := entry
    rw [lookup_cons_eq_ite] at hvalue
    rw [insertEntry]
    by_cases hname : name = key
    · rw [if_pos hname, Option.some.injEq] at hvalue
      rw [if_pos (by simpa using hname), hname, hvalue]
    · rw [if_neg hname] at hvalue
      rw [if_neg (by simpa using hname), ih hvalue]

/-- Entries with distinct names are entered one after the other. -/
theorem foldl_insert_of_nodup {entries : List (String × α)} (table : Table α)
    (hnames : (table.names ++ entries.map Prod.fst).Nodup) :
    entries.foldl (fun table entry => table.insert entry.1 entry.2) table =
      ⟨table.entries ++ entries⟩ := by
  induction entries generalizing table with
  | nil => simp
  | cons entry entries ih =>
    have hnew : entry.1 ∉ table.names := by
      intro hmem
      rw [List.nodup_append] at hnames
      exact hnames.2.2 _ hmem _ (by simp) rfl
    have hinsert : table.insert entry.1 entry.2 = ⟨table.entries ++ [entry]⟩ := by
      rw [insert, insertEntry_of_not_mem hnew]
    rw [List.foldl_cons, hinsert, ih]
    · simp
    · simpa [names] using hnames

/-- A list of entries with distinct names is a table as it stands. -/
theorem ofList_of_nodup {entries : List (String × α)} (hnames : (entries.map Prod.fst).Nodup) :
    ofList entries = ⟨entries⟩ := by
  simpa [ofList] using foldl_insert_of_nodup {} hnames

/-- Of several entries of one name the last one counts. -/
theorem get?_ofList (entries : List (String × α)) (name : String) :
    (ofList entries).get? name =
      (entries.filterMap fun entry => if entry.1 = name then some entry.2 else none).getLast? := by
  induction entries using List.reverseRecOn with
  | nil => rfl
  | append_singleton entries last ih =>
    have hstep : ofList (entries ++ [last]) = (ofList entries).insert last.1 last.2 := by
      simp [ofList]
    rw [hstep, get?_insert, ih, List.filterMap_append]
    by_cases hname : name = last.1
    · simp [hname]
    · simp [hname, Ne.symm hname]

section Entries

variable {before after : List (String × α)} {name : String} {value : α}

/-- Nothing is found under a name that no entry has. -/
theorem get?_ofList_of_forall_ne {entries : List (String × α)}
    (hentries : ∀ entry ∈ entries, entry.1 ≠ name) : (ofList entries).get? name = none := by
  rw [get?_ofList, List.getLast?_eq_none_iff, List.filterMap_eq_nil_iff]
  exact fun entry hentry => if_neg (hentries entry hentry)

/-- An entry is found when no later one has its name. -/
theorem get?_ofList_append_cons_self (hafter : ∀ entry ∈ after, entry.1 ≠ name) :
    (ofList (before ++ (name, value) :: after)).get? name = some value := by
  have hlater := get?_ofList_of_forall_ne hafter
  rw [get?_ofList, List.getLast?_eq_none_iff] at hlater
  rw [get?_ofList, List.filterMap_append, List.filterMap_cons, if_pos rfl, hlater]
  simp

/-- An entry does not matter to a look-up of another name. -/
theorem get?_ofList_append_cons_of_ne {other : String} (hother : other ≠ name) :
    (ofList (before ++ (name, value) :: after)).get? other =
      (ofList (before ++ after)).get? other := by
  simp [get?_ofList, hother.symm]

end Entries

variable {ι : Type} {items : List ι} {name : ι → String} {value : ι → α} {item : ι}

/-- The value of an item is found under its name. -/
theorem get?_map_of_nodup (hnames : (items.map name).Nodup) (hitem : item ∈ items) :
    (Table.mk (items.map fun item => (name item, value item))).get? (name item) =
      some (value item) := by
  induction items with
  | nil => cases hitem
  | cons other items ih =>
    simp only [List.map_cons, List.nodup_cons, List.mem_map, not_exists, not_and] at hnames
    simp only [get?, List.map_cons, lookup_cons_eq_ite]
    rcases List.mem_cons.mp hitem with rfl | hitem
    · rw [if_pos rfl]
    · rw [if_neg (hnames.1 item hitem)]
      exact ih hnames.2 hitem

/-- Entering a value under the name of an item leaves all other items as they are. -/
theorem insert_map_of_nodup {held : α} (hnames : (items.map name).Nodup) (hitem : item ∈ items)
    {value' : ι → α} (hheld : value' item = held)
    (hother : ∀ other ∈ items, name other ≠ name item → value' other = value other) :
    (Table.mk (items.map fun item => (name item, value item))).insert (name item) held =
      ⟨items.map fun item => (name item, value' item)⟩ := by
  rw [insert, mk.injEq]
  induction items with
  | nil => cases hitem
  | cons other items ih =>
    simp only [List.map_cons, List.nodup_cons, List.mem_map, not_exists, not_and] at hnames
    simp only [List.map_cons, insertEntry, beq_iff_eq]
    rcases List.mem_cons.mp hitem with rfl | hitem
    · rw [if_pos rfl, hheld]
      congr 1
      refine List.map_congr_left fun other hmem => ?_
      rw [hother other (List.mem_cons_of_mem _ hmem) (hnames.1 other hmem)]
    · have hne : name item ≠ name other := hnames.1 item hitem
      rw [if_neg hne, hother other List.mem_cons_self hne.symm, ih hnames.2 hitem]
      exact fun other hmem => hother other (List.mem_cons_of_mem _ hmem)

/-- Nothing is found under a name that no item has. -/
theorem get?_map_of_not_mem {key : String} (hkey : key ∉ items.map name) :
    (Table.mk (items.map fun item => (name item, value item))).get? key = none := by
  simp only [get?, List.lookup_eq_none_iff, List.forall_mem_map, bne_iff_ne]
  rintro item hitem rfl
  exact hkey (List.mem_map_of_mem hitem)

/-- The order of items with distinct names does not matter to a look-up. -/
theorem get?_map_of_perm {items' : List ι} (hnames : (items.map name).Nodup)
    (hperm : items.Perm items') (key : String) :
    (Table.mk (items.map fun item => (name item, value item))).get? key =
      (Table.mk (items'.map fun item => (name item, value item))).get? key := by
  by_cases hkey : key ∈ items.map name
  · obtain ⟨item, hitem, rfl⟩ := List.mem_map.mp hkey
    rw [get?_map_of_nodup hnames hitem,
      get?_map_of_nodup ((hperm.map name).nodup hnames) (hperm.subset hitem)]
  · rw [get?_map_of_not_mem hkey, get?_map_of_not_mem (mt (hperm.map name).mem_iff.mpr hkey)]

end VersionGate.Table
