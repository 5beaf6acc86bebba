import DeckScript.Table

/-!
# Tables without repetitions

Writing never repeats a name.  `Table.Every` says that names are distinct and that every
entry has a property; writing an entry with the property keeps this.  Under a new name
the entry comes last.
-/

namespace DeckScript.Table

variable {α β : Type}

/-! ## Names -/

theorem findEntry_eq_none_iff {name : String} {entries : List (String × α)} :
    findEntry name entries = none ↔ name ∉ entries.map Prod.fst := by
  induction entries with
  | nil => simp [findEntry]
  | cons entry rest ih =>
    by_cases hname : entry.1 = name
    · simp [findEntry, hname]
    · simp [findEntry, hname, ih, Ne.symm hname]

theorem mem_of_get? {table : Table α} {name : String} {value : α}
    (h : table.get? name = some value) : (name, value) ∈ table.entries := by
  obtain ⟨entries⟩ := table
  rw [get?] at h
  induction entries with
  | nil => cases h
  | cons entry rest ih =>
    rw [findEntry] at h
    split at h
    · next hname =>
      cases h
      rw [← hname]
      exact List.mem_cons_self ..
    · exact List.mem_cons_of_mem _ (ih h)

/-! ## Writing -/

theorem insertEntry_of_notMem {name : String} {entries : List (String × α)}
    (hnew : name ∉ entries.map Prod.fst) (value : α) :
    insertEntry name value entries = entries ++ [(name, value)] := by
  induction entries with
  | nil => rfl
  | cons entry rest ih =>
    rw [List.map_cons, List.mem_cons, not_or] at hnew
    rw [insertEntry, if_neg (Ne.symm hnew.1), ih hnew.2, List.cons_append]

/-- An entry with a new name comes last. -/
theorem insert_of_get?_eq_none {table : Table α} {name : String} (hnew : table.get? name = none)
    (value : α) : table.insert name value = ⟨table.entries ++ [(name, value)]⟩ :=
  congrArg Table.mk (insertEntry_of_notMem (findEntry_eq_none_iff.1 hnew) value)

theorem mem_insertEntry {name : String} {value : α} {entries : List (String × α)}
    {entry : String × α} (h : entry ∈ insertEntry name value entries) :
    entry = (name, value) ∨ entry ∈ entries := by
  induction entries with
  | nil => exact .inl (List.mem_singleton.1 h)
  | cons first rest ih =>
    rw [insertEntry] at h
    split at h
    · exact (List.mem_cons.1 h).imp_right (List.mem_cons_of_mem _)
    · rcases List.mem_cons.1 h with rfl | hrest
      · exact .inr (List.mem_cons_self ..)
      · exact (ih hrest).imp_right (List.mem_cons_of_mem _)

theorem nodup_insertEntry (name : String) (value : α) {entries : List (String × α)}
    (h : (entries.map Prod.fst).Nodup) : ((insertEntry name value entries).map Prod.fst).Nodup := by
  induction entries with
  | nil => simp [insertEntry]
  | cons entry rest ih =>
    rw [List.map_cons, List.nodup_cons] at h
    rw [insertEntry]
    split
    · next hname =>
      rw [List.map_cons, List.nodup_cons, ← hname]
      exact h
    · next hname =>
      rw [List.map_cons, List.nodup_cons]
      refine ⟨?_, ih h.2⟩
      rw [List.mem_map]
      rintro ⟨other, hother, hsame⟩
      rcases mem_insertEntry hother with rfl | hother
      · exact hname hsame.symm
      · exact h.1 (List.mem_map.2 ⟨other, hother, hsame⟩)

theorem insertEntry_insertEntry (name : String) (first second : α)
    (entries : List (String × α)) :
    insertEntry name second (insertEntry name first entries) =
      insertEntry name second entries := by
  induction entries with
  | nil => simp [insertEntry]
  | cons entry rest ih =>
    by_cases hname : entry.1 = name
    · simp [insertEntry, hname]
    · simp [insertEntry, hname, ih]

/-- The second of two values under the same name counts. -/
@[simp] theorem insert_insert (table : Table α) (name : String) (first second : α) :
    (table.insert name first).insert name second = table.insert name second :=
  congrArg Table.mk (insertEntry_insertEntry name first second table.entries)

/-! ## Writing pairs one after the other -/

/-- The table after pairs have been written to it. -/
def insertAll (table : Table α) (pairs : List (String × α)) : Table α :=
  pairs.foldl (fun table pair => table.insert pair.1 pair.2) table

theorem ofList_eq_insertAll (pairs : List (String × α)) : ofList pairs = empty.insertAll pairs :=
  rfl

theorem insertAll_cons (table : Table α) (pair : String × α) (rest : List (String × α)) :
    table.insertAll (pair :: rest) = (table.insert pair.1 pair.2).insertAll rest := rfl

theorem insertAll_append (table : Table α) (pairs more : List (String × α)) :
    table.insertAll (pairs ++ more) = (table.insertAll pairs).insertAll more :=
  List.foldl_append

theorem names_insert (table : Table α) (name : String) (value : α) :
    (table.insert name value).names =
      if name ∈ table.names then table.names else table.names ++ [name] := by
  obtain ⟨entries⟩ := table
  show (insertEntry name value entries).map Prod.fst =
    if name ∈ entries.map Prod.fst then entries.map Prod.fst else entries.map Prod.fst ++ [name]
  induction entries with
  | nil => rfl
  | cons entry rest ih =>
    by_cases hname : entry.1 = name
    · simp [insertEntry, hname]
    · rw [insertEntry, if_neg hname, List.map_cons, ih]
      simp only [List.map_cons, List.mem_cons, Ne.symm hname, false_or]
      split <;> rfl

/-- New names follow those that are there, each at the place of its first pair. -/
theorem names_insertAll (table : Table α) (pairs : List (String × α)) :
    (table.insertAll pairs).names =
      table.names ++ ((pairs.map Prod.fst).filter (· ∉ table.names)).eraseDups := by
  induction pairs generalizing table with
  | nil => simp [insertAll]
  | cons pair rest ih =>
    rw [insertAll_cons, ih, names_insert]
    by_cases hname : pair.1 ∈ table.names
    · simp [hname]
    · have hlater : (rest.map Prod.fst).filter (· ∉ table.names ++ [pair.1]) =
          ((rest.map Prod.fst).filter (· ∉ table.names)).filter fun name => !name == pair.1 := by
        rw [List.filter_filter]
        apply List.filter_congr
        intro name _
        by_cases hold : name ∈ table.names <;> by_cases hsame : name = pair.1 <;>
          simp [hold, hsame]
      rw [if_neg hname, List.map_cons, List.filter_cons_of_pos (by simpa using hname),
        List.eraseDups_cons, hlater, List.append_assoc, List.singleton_append]

theorem names_ofList (pairs : List (String × α)) :
    (ofList pairs).names = (pairs.map Prod.fst).eraseDups := by
  have hnames := names_insertAll empty pairs
  have hall : (pairs.map Prod.fst).filter (· ∉ (empty : Table α).names) = pairs.map Prod.fst := by
    rw [List.filter_eq_self]
    intro name _
    simp [names, empty]
  rw [hall] at hnames
  exact hnames

theorem get?_insertAll_of_notMem (table : Table α) {name : String} {pairs : List (String × α)}
    (hname : name ∉ pairs.map Prod.fst) : (table.insertAll pairs).get? name = table.get? name := by
  induction pairs generalizing table with
  | nil => rfl
  | cons pair rest ih =>
    rw [List.map_cons, List.mem_cons, not_or] at hname
    rw [insertAll_cons, ih _ hname.2, get?_insert, if_neg hname.1]

/-- The last value written under a name counts. -/
theorem get?_ofList {name : String} {before after : List (String × α)} (value : α)
    (hlast : name ∉ after.map Prod.fst) :
    (ofList (before ++ (name, value) :: after)).get? name = some value := by
  rw [ofList_eq_insertAll, insertAll_append, insertAll_cons, get?_insertAll_of_notMem _ hlast,
    get?_insert, if_pos rfl]

/-- Pairs with distinct names are kept as they are. -/
theorem entries_insertAll (table : Table α) {pairs : List (String × α)}
    (hnodup : (pairs.map Prod.fst).Nodup) (hnew : ∀ pair ∈ pairs, table.get? pair.1 = none) :
    (table.insertAll pairs).entries = table.entries ++ pairs := by
  induction pairs generalizing table with
  | nil => exact (List.append_nil _).symm
  | cons pair rest ih =>
    rw [List.map_cons, List.nodup_cons] at hnodup
    rw [List.forall_mem_cons] at hnew
    have hnew' : ∀ other ∈ rest, (table.insert pair.1 pair.2).get? other.1 = none := by
      intro other hother
      have hne : other.1 ≠ pair.1 := fun heq => hnodup.1 (List.mem_map.2 ⟨other, hother, heq⟩)
      rw [get?_insert, if_neg hne]
      exact hnew.2 other hother
    rw [insertAll_cons, ih _ hnodup.2 hnew', insert_of_get?_eq_none hnew.1, List.append_assoc,
      List.singleton_append]

theorem entries_ofList {pairs : List (String × α)} (hnodup : (pairs.map Prod.fst).Nodup) :
    (ofList pairs).entries = pairs :=
  entries_insertAll empty hnodup fun _ _ => rfl

/-! ## Changing all values -/

/-- The table with all values changed. -/
def map (f : α → β) (table : Table α) : Table β :=
  ⟨table.entries.map fun entry => (entry.1, f entry.2)⟩

theorem map_insert (f : α → β) (table : Table α) (name : String) (value : α) :
    (table.insert name value).map f = (table.map f).insert name (f value) := by
  obtain ⟨entries⟩ := table
  refine congrArg Table.mk ?_
  show (insertEntry name value entries).map _ = insertEntry name (f value) (entries.map _)
  induction entries with
  | nil => rfl
  | cons entry rest ih =>
    by_cases hname : entry.1 = name
    · simp [insertEntry, hname]
    · simp [insertEntry, hname, ih]

/-- Writing the value that is there changes nothing. -/
theorem insert_of_get?_eq_some {table : Table α} {name : String} {value : α}
    (h : table.get? name = some value) : table.insert name value = table := by
  obtain ⟨entries⟩ := table
  refine congrArg Table.mk ?_
  rw [get?] at h
  induction entries with
  | nil => cases h
  | cons entry rest ih =>
    rw [findEntry] at h
    rw [insertEntry]
    split at h
    · next hname =>
      cases h
      rw [if_pos hname, ← hname]
    · next hname => rw [if_neg hname, ih h]

theorem get?_map (f : α → β) (table : Table α) (name : String) :
    (table.map f).get? name = (table.get? name).map f := by
  obtain ⟨entries⟩ := table
  show findEntry name (entries.map _) = (findEntry name entries).map f
  induction entries with
  | nil => rfl
  | cons entry rest ih =>
    by_cases hname : entry.1 = name
    · simp [findEntry, hname]
    · simp [findEntry, hname, ih]

/-! ## Leaving out a name -/

/-- The table without the entries of a name. -/
def without (table : Table α) (name : String) : Table α :=
  ⟨table.entries.filter fun entry => entry.1 ≠ name⟩

theorem get?_without_of_ne (table : Table α) {name other : String} (hother : other ≠ name) :
    (table.without name).get? other = table.get? other := by
  obtain ⟨entries⟩ := table
  simp only [get?, without]
  induction entries with
  | nil => rfl
  | cons entry rest ih =>
    by_cases hname : entry.1 = name
    · have hskipped : entry.1 ≠ other := fun heq => hother (heq.symm.trans hname)
      rw [List.filter_cons_of_neg (by simpa using hname), ih, findEntry, if_neg hskipped]
    · rw [List.filter_cons_of_pos (by simpa using hname), findEntry, findEntry, ih]

theorem without_insert_self (table : Table α) (name : String) (value : α) :
    (table.insert name value).without name = table.without name := by
  obtain ⟨entries⟩ := table
  refine congrArg Table.mk ?_
  simp only [insert]
  induction entries with
  | nil => simp [insertEntry]
  | cons entry rest ih =>
    rw [insertEntry]
    split
    · next hname => simp [hname]
    · next hname =>
      rw [List.filter_cons_of_pos (by simpa using hname), ih,
        List.filter_cons_of_pos (by simpa using hname)]

theorem without_insert_of_ne (table : Table α) {name other : String} (hother : other ≠ name)
    (value : α) :
    (table.insert other value).without name = (table.without name).insert other value := by
  obtain ⟨entries⟩ := table
  refine congrArg Table.mk ?_
  simp only [insert, without]
  induction entries with
  | nil => simp [insertEntry, hother]
  | cons entry rest ih =>
    by_cases hname : entry.1 = name
    · have hskipped : entry.1 ≠ other := fun heq => hother (heq.symm.trans hname)
      rw [insertEntry, if_neg hskipped, List.filter_cons_of_neg (by simpa using hname), ih,
        List.filter_cons_of_neg (by simpa using hname)]
    · rw [List.filter_cons_of_pos (by simpa using hname), insertEntry, insertEntry]
      split
      · rw [List.filter_cons_of_pos (by simpa using hother)]
      · rw [List.filter_cons_of_pos (by simpa using hname), ih]

/-! ## Entries with a property -/

/-- The names are distinct, and all entries have the property. -/
structure Every (P : String → α → Prop) (table : Table α) : Prop where
  nodup : table.names.Nodup
  holds : ∀ entry ∈ table.entries, P entry.1 entry.2

namespace Every

variable {P : String → α → Prop} {table : Table α}

theorem empty (P : String → α → Prop) : Every P (Table.empty : Table α) :=
  ⟨List.nodup_nil, fun _ h => nomatch h⟩

theorem insert (h : table.Every P) {name : String} {value : α} (hentry : P name value) :
    (table.insert name value).Every P := by
  refine ⟨nodup_insertEntry name value h.nodup, fun entry hmem => ?_⟩
  rcases mem_insertEntry hmem with rfl | hmem
  · exact hentry
  · exact h.holds entry hmem

theorem ofList {pairs : List (String × α)} (hpairs : ∀ pair ∈ pairs, P pair.1 pair.2) :
    (Table.ofList pairs).Every P := by
  have hinsertAll : ∀ table : Table α, table.Every P → (table.insertAll pairs).Every P := by
    induction pairs with
    | nil => exact fun _ h => h
    | cons pair rest ih =>
      rw [List.forall_mem_cons] at hpairs
      intro table h
      rw [insertAll_cons]
      exact ih hpairs.2 _ (h.insert hpairs.1)
  exact hinsertAll _ (.empty P)

theorem get? (h : table.Every P) {name : String} {value : α} (hget : table.get? name = some value) :
    P name value :=
  h.holds _ (mem_of_get? hget)

theorem mono {Q : String → α → Prop} (h : table.Every P)
    (himp : ∀ name value, P name value → Q name value) : table.Every Q :=
  ⟨h.nodup, fun entry hmem => himp _ _ (h.holds entry hmem)⟩

theorem and {Q : String → α → Prop} (h : table.Every P) (h' : table.Every Q) :
    table.Every fun name value => P name value ∧ Q name value :=
  ⟨h.nodup, fun entry hmem => ⟨h.holds entry hmem, h'.holds entry hmem⟩⟩

theorem map {Q : String → β → Prop} {f : α → β} (h : table.Every P)
    (himp : ∀ name value, P name value → Q name (f value)) : (table.map f).Every Q := by
  refine ⟨?_, fun entry hmem => ?_⟩
  · have hnames : (table.map f).names = table.names := by simp [names, Table.map]
    rw [hnames]
    exact h.nodup
  · obtain ⟨original, horiginal, rfl⟩ := List.mem_map.1 hmem
    exact himp _ _ (h.holds original horiginal)

end Every

end DeckScript.Table
