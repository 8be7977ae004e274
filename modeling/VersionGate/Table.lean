/-!
# Tables

Finite maps from names to values that keep the order in which names were first
entered. Entering a name again replaces its value in place.
-/

namespace VersionGate

/-- A list of named entries. -/
structure Table (α : Type) where
  entries : List (String × α) := []
deriving Repr

namespace Table

variable {α : Type}

/-- The value of a name, if the table has it. -/
def get? (table : Table α) (name : String) : Option α :=
  table.entries.lookup name

/-- Whether a table has a name. -/
def contains (table : Table α) (name : String) : Bool :=
  (table.get? name).isSome

/-- The names of a table. -/
def names (table : Table α) : List String :=
  table.entries.map Prod.fst

/-- Entries with a value replaced, or put at the end when the name is new. -/
def insertEntry (name : String) (value : α) : List (String × α) → List (String × α)
  | [] => [(name, value)]
  | entry :: rest =>
    if name == entry.1 then (name, value) :: rest else entry :: insertEntry name value rest

/-- A table with a value entered under a name. -/
def insert (table : Table α) (name : String) (value : α) : Table α :=
  ⟨insertEntry name value table.entries⟩

/-- The table of a list of entries; of several entries of one name the last counts. -/
def ofList (entries : List (String × α)) : Table α :=
  entries.foldl (fun table entry => table.insert entry.1 entry.2) {}

/-- The empty table has no name. -/
@[simp] theorem get?_empty (name : String) : ({} : Table α).get? name = none := rfl

/-- A look-up compares the name with that of the first entry, then goes on. -/
theorem lookup_cons_eq_ite (name key : String) (value : α) (rest : List (String × α)) :
    List.lookup name ((key, value) :: rest) =
      if name = key then some value else List.lookup name rest := by
  by_cases h : name = key
  · simp [h]
  · simp [List.lookup_cons, h, beq_eq_false_iff_ne.2 h]

/-- After entering a value its name has it, and all other names are as before. -/
theorem get?_insert (table : Table α) (name : String) (value : α) (other : String) :
    (table.insert name value).get? other =
      if other = name then some value else table.get? other := by
  unfold get? insert
  induction table.entries with
  | nil => simp [insertEntry, lookup_cons_eq_ite]
  | cons entry rest ih =>
    obtain ⟨key, held⟩ := entry
    by_cases hname : name = key
    · by_cases h : other = name <;> simp_all [insertEntry, lookup_cons_eq_ite]
    · by_cases h : other = key
      · simp_all [insertEntry, Ne.symm hname]
      · simp_all [insertEntry, lookup_cons_eq_ite]

/-- A value that was entered is found under its name. -/
@[simp] theorem get?_insert_self (table : Table α) (name : String) (value : α) :
    (table.insert name value).get? name = some value := by
  simp [get?_insert]

end Table

end VersionGate
