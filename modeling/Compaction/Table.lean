/-!
# Tables

* `Table` : values under distinct names, in ascending order of the names' code points;
* `Table.insert` : puts a value under a name and replaces the one that was there;
* `Table.find?`, `Table.contains`, `Table.names` : look-up, membership, and the names in order;
* `Table.Ascending` : the names ascend strictly, so that none stands in the table twice, as in every table that is
  built up entry by entry (`Table.ascending_insert`, `Table.ascending_ofEntries`);
* `Table.mem_names_insert`, `Table.mem_names_ofEntries` : the names in a table are those put into it;
* `Table.perm_ofEntries` : the table of entries under distinct names holds just these entries;
* `Table.find?_insert_self`, `Table.find?_insert_of_ne` : an insertion shows under its own name only;
* `Table.find?_ofEntries_of_mem` : so every entry under a name of its own is found there.
-/

namespace Compaction

/-- Values under names, in ascending order of the names' code points. -/
abbrev Table (α : Type) := List (String × α)

namespace Table

variable {α : Type}

/-- Puts a value under a name and replaces the one that was there. -/
def insert (name : String) (value : α) : Table α → Table α
  | [] => [(name, value)]
  | entry :: entries =>
    if name < entry.1 then (name, value) :: entry :: entries
    else if name = entry.1 then (name, value) :: entries
    else entry :: insert name value entries

def find? (table : Table α) (name : String) : Option α := table.lookup name

def contains (table : Table α) (name : String) : Bool := (table.find? name).isSome

def names (table : Table α) : List String := table.map Prod.fst

/-- The table of a list of entries, of which the last under each name counts. -/
def ofEntries (entries : List (String × α)) : Table α :=
  entries.foldl (fun table entry => insert entry.1 entry.2 table) []

def Ascending (table : Table α) : Prop := table.names.Pairwise (· < ·)

/-! ## One entry -/

theorem mem_names_insert {name other : String} {value : α} {table : Table α} :
    other ∈ (insert name value table).names ↔ other = name ∨ other ∈ table.names := by
  induction table with
  | nil => simp [insert, names]
  | cons entry entries ih =>
    rw [insert]
    by_cases hlt : name < entry.1
    · rw [if_pos hlt]
      simp [names]
    · rw [if_neg hlt]
      by_cases heq : name = entry.1
      · rw [if_pos heq]
        simp [names, heq]
      · rw [if_neg heq]
        simp only [names, List.map_cons, List.mem_cons] at ih ⊢
        rw [ih]
        exact or_left_comm

theorem ascending_insert {name : String} {value : α} {table : Table α} (h : table.Ascending) :
    (insert name value table).Ascending := by
  induction table with
  | nil => simp [insert, Ascending, names]
  | cons entry entries ih =>
    have hcons : (∀ other ∈ names entries, entry.1 < other) ∧ Ascending entries :=
      List.pairwise_cons.mp h
    obtain ⟨hfirst, hrest⟩ := hcons
    rw [insert]
    by_cases hlt : name < entry.1
    · rw [if_pos hlt]
      refine List.pairwise_cons.mpr ⟨?_, h⟩
      intro other hother
      rcases List.mem_cons.mp hother with rfl | hmem
      · exact hlt
      · exact String.lt_trans hlt (hfirst other hmem)
    · rw [if_neg hlt]
      by_cases heq : name = entry.1
      · rw [if_pos heq]
        exact List.pairwise_cons.mpr ⟨heq ▸ hfirst, hrest⟩
      · rw [if_neg heq]
        refine List.pairwise_cons.mpr ⟨?_, ih hrest⟩
        intro other hother
        rcases mem_names_insert.mp hother with rfl | hmem
        · exact Std.lt_of_le_of_ne (String.not_lt.mp hlt) (Ne.symm heq)
        · exact hfirst other hmem

@[simp] theorem find?_insert_self (name : String) (value : α) (table : Table α) :
    (insert name value table).find? name = some value := by
  induction table with
  | nil => rw [insert, find?, List.lookup_cons_self]
  | cons entry entries ih =>
    rw [insert]
    split
    · rw [find?, List.lookup_cons_self]
    · split
      · rw [find?, List.lookup_cons_self]
      · rename_i hne
        rw [find?, List.lookup_cons, beq_eq_false_iff_ne.mpr hne]
        exact ih

theorem find?_insert_of_ne {name other : String} (hne : other ≠ name) (value : α) (table : Table α) :
    (insert name value table).find? other = table.find? other := by
  induction table with
  | nil => rw [insert, find?, find?, List.lookup_cons, beq_eq_false_iff_ne.mpr hne]
  | cons entry entries ih =>
    rw [insert]
    split
    · rw [find?, find?, List.lookup_cons, beq_eq_false_iff_ne.mpr hne]
    · split
      · rename_i heq
        rw [find?, find?, List.lookup_cons, List.lookup_cons, ← heq, beq_eq_false_iff_ne.mpr hne]
      · rw [find?, find?, List.lookup_cons, List.lookup_cons]
        split
        · rfl
        · exact ih

theorem find?_map {β : Type} (f : α → β) (table : Table α) (name : String) :
    find? (table.map fun entry => (entry.1, f entry.2)) name = (table.find? name).map f := by
  induction table with
  | nil => rfl
  | cons entry entries ih =>
    rw [List.map_cons, find?, find?, List.lookup_cons, List.lookup_cons]
    split
    · rfl
    · exact ih

/-- A name that is new only adds its entry. -/
theorem perm_insert {name : String} {value : α} {table : Table α} (h : name ∉ table.names) :
    (insert name value table).Perm ((name, value) :: table) := by
  induction table with
  | nil => exact List.Perm.refl _
  | cons entry entries ih =>
    simp only [names, List.map_cons, List.mem_cons, not_or] at h ih
    rw [insert]
    by_cases hlt : name < entry.1
    · rw [if_pos hlt]
    · rw [if_neg hlt, if_neg h.1]
      exact ((ih h.2).cons entry).trans (List.Perm.swap (name, value) entry entries)

/-! ## All entries -/

/-- The entries are put into the table one by one, so the statements on `ofEntries` are proved for every
table to start with. -/
theorem ascending_foldl {table : Table α} (h : table.Ascending) (entries : List (String × α)) :
    Ascending (entries.foldl (fun table entry => insert entry.1 entry.2 table) table) := by
  induction entries generalizing table with
  | nil => exact h
  | cons entry entries ih => exact ih (ascending_insert h)

theorem mem_names_foldl {name : String} {table : Table α} (entries : List (String × α)) :
    name ∈ names (entries.foldl (fun table entry => insert entry.1 entry.2 table) table) ↔
      name ∈ entries.map Prod.fst ∨ name ∈ table.names := by
  induction entries generalizing table with
  | nil => simp
  | cons entry entries ih =>
    rw [List.foldl_cons, ih, mem_names_insert, List.map_cons, List.mem_cons, or_assoc, or_left_comm]

theorem perm_foldl {table : Table α} {entries : List (String × α)}
    (hdistinct : (entries.map Prod.fst).Nodup) (hnew : ∀ name ∈ entries.map Prod.fst, name ∉ table.names) :
    (entries.foldl (fun table entry => insert entry.1 entry.2 table) table).Perm (entries ++ table) := by
  induction entries generalizing table with
  | nil => exact List.Perm.refl _
  | cons entry entries ih =>
    rw [List.map_cons] at hdistinct hnew
    obtain ⟨hentry, hrest⟩ := List.nodup_cons.mp hdistinct
    have hnew' : ∀ name ∈ entries.map Prod.fst, name ∉ (insert entry.1 entry.2 table).names := by
      intro name hname hmem
      rcases mem_names_insert.mp hmem with rfl | htable
      · exact hentry hname
      · exact hnew name (List.mem_cons_of_mem _ hname) htable
    rw [List.foldl_cons]
    refine (ih hrest hnew').trans ?_
    refine ((perm_insert (hnew entry.1 List.mem_cons_self)).append_left entries).trans ?_
    exact List.perm_middle

theorem ascending_ofEntries (entries : List (String × α)) : (ofEntries entries).Ascending :=
  ascending_foldl (show Ascending [] from List.Pairwise.nil) entries

theorem mem_names_ofEntries {name : String} {entries : List (String × α)} :
    name ∈ (ofEntries entries).names ↔ name ∈ entries.map Prod.fst := by
  rw [ofEntries, mem_names_foldl, names, List.map_nil, or_iff_left List.not_mem_nil]

/-- The table of entries under distinct names holds just these entries. -/
theorem perm_ofEntries {entries : List (String × α)} (hdistinct : (entries.map Prod.fst).Nodup) :
    (ofEntries entries).Perm entries := by
  have hperm : (ofEntries entries).Perm (entries ++ []) :=
    perm_foldl hdistinct fun _ _ => List.not_mem_nil
  rwa [List.append_nil] at hperm

theorem find?_foldl_of_not_mem {name : String} {entries : List (String × α)} (table : Table α)
    (h : name ∉ entries.map Prod.fst) :
    find? (entries.foldl (fun table entry => insert entry.1 entry.2 table) table) name = table.find? name := by
  induction entries generalizing table with
  | nil => rfl
  | cons entry entries ih =>
    rw [List.map_cons, List.mem_cons, not_or] at h
    rw [List.foldl_cons, ih _ h.2, find?_insert_of_ne h.1]

/-- No later entry has the name. -/
theorem find?_ofEntries_of_mem {name : String} {value : α} {entries : List (String × α)}
    (hdistinct : (entries.map Prod.fst).Nodup) (hmem : (name, value) ∈ entries) :
    (ofEntries entries).find? name = some value := by
  obtain ⟨earlier, later, rfl⟩ := List.append_of_mem hmem
  have hlater : name ∉ later.map Prod.fst := by
    rw [List.map_append, List.map_cons] at hdistinct
    exact (List.nodup_cons.mp (List.nodup_append.mp hdistinct).2.1).1
  rw [ofEntries, List.foldl_append, List.foldl_cons, find?_foldl_of_not_mem _ hlater, find?_insert_self]

end Table

end Compaction
