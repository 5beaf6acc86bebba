/-!
# Tables in insertion order

Variables, command parameters and settings are looked up by name and listed in the
order in which the names were first written.  Writing a name again changes its value
and keeps its place.
-/

namespace DeckScript

/-- A table from names to values, in the order in which the names were first written. -/
structure Table (α : Type) where
  entries : List (String × α)
deriving Repr

namespace Table

variable {α : Type}

instance : Inhabited (Table α) := ⟨⟨[]⟩⟩

/-- The table without entries. -/
def empty : Table α := ⟨[]⟩

/-- The value of the first entry with a name. -/
def findEntry (name : String) : List (String × α) → Option α
  | [] => none
  | entry :: rest => if entry.1 = name then some entry.2 else findEntry name rest

/-- The value under a name. -/
def get? (table : Table α) (name : String) : Option α :=
  findEntry name table.entries

/-- Whether a name has a value. -/
def contains (table : Table α) (name : String) : Bool :=
  (table.get? name).isSome

/-- The names in order. -/
def names (table : Table α) : List String :=
  table.entries.map Prod.fst

/-- Writes `value` under `name`: in place if the name is there, else at the end. -/
def insertEntry (name : String) (value : α) : List (String × α) → List (String × α)
  | [] => [(name, value)]
  | entry :: rest =>
    if entry.1 = name then (name, value) :: rest else entry :: insertEntry name value rest

/-- Writes `value` under `name`. -/
def insert (table : Table α) (name : String) (value : α) : Table α :=
  ⟨insertEntry name value table.entries⟩

/-- The table that results from writing pairs one after the other. -/
def ofList (pairs : List (String × α)) : Table α :=
  pairs.foldl (fun table pair => table.insert pair.1 pair.2) empty

/-- Writes all entries of a second table. -/
def update (table other : Table α) : Table α :=
  other.entries.foldl (fun table pair => table.insert pair.1 pair.2) table

@[simp] theorem get?_empty (name : String) : (empty : Table α).get? name = none := rfl

@[simp] theorem get?_insert (table : Table α) (name other : String) (value : α) :
    (table.insert name value).get? other = if other = name then some value else table.get? other := by
  obtain ⟨entries⟩ := table
  simp only [get?, insert]
  induction entries with
  | nil => simp [insertEntry, findEntry, eq_comm]
  | cons entry rest ih =>
    by_cases hname : entry.1 = name
    · subst hname
      by_cases h : other = entry.1 <;> simp [insertEntry, findEntry, h, eq_comm]
    · by_cases h : entry.1 = other
      · subst h
        simp [insertEntry, hname, findEntry]
      · simp [insertEntry, hname, findEntry, h, ih]

end Table

end DeckScript
