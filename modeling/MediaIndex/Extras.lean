/-!
# Extras — the free remarks of a report

What a report says beyond the fields of a descriptor is kept as key and value. A key has one value,
the last one given, and the keys are in ascending order, so two collections with the same remarks
are equal however they came about. The order is that of code points.
-/

set_option autoImplicit false

namespace MediaIndex

/-- Puts a value under a key into an ascending list of entries. -/
def insertEntry {α : Type} (key : String) (value : α) : List (String × α) → List (String × α)
  | [] => [(key, value)]
  | entry :: rest =>
    if key < entry.1 then (key, value) :: entry :: rest
    else if key = entry.1 then (key, value) :: rest
    else entry :: insertEntry key value rest

/-- The keys of a list of entries ascend. -/
abbrev Ascending {α : Type} (entries : List (String × α)) : Prop :=
  entries.Pairwise fun a b => a.1 < b.1

theorem mem_insertEntry {α : Type} {key : String} {value : α} {entries : List (String × α)}
    {entry : String × α} (h : entry ∈ insertEntry key value entries) :
    entry = (key, value) ∨ entry ∈ entries := by
  induction entries with
  | nil => simpa [insertEntry] using h
  | cons first rest ih =>
    rw [insertEntry] at h
    split at h
    · simpa using h
    · split at h
      · rcases List.mem_cons.mp h with h | h
        · exact Or.inl h
        · exact Or.inr (List.mem_cons_of_mem _ h)
      · rcases List.mem_cons.mp h with h | h
        · exact Or.inr (h ▸ List.mem_cons_self)
        · exact (ih h).imp_right (List.mem_cons_of_mem _)

theorem ascending_insertEntry {α : Type} (key : String) (value : α)
    {entries : List (String × α)} (h : Ascending entries) :
    Ascending (insertEntry key value entries) := by
  induction entries with
  | nil => simp [insertEntry, Ascending]
  | cons first rest ih =>
    obtain ⟨hfirst, hrest⟩ := List.pairwise_cons.mp h
    rw [insertEntry]
    split
    · rename_i hlt
      refine List.pairwise_cons.mpr ⟨fun b hb => ?_, h⟩
      rcases List.mem_cons.mp hb with rfl | hb
      · exact hlt
      · exact String.lt_trans hlt (hfirst b hb)
    · split
      · rename_i heq
        exact List.pairwise_cons.mpr ⟨fun b hb => by rw [heq]; exact hfirst b hb, hrest⟩
      · rename_i hlt hne
        refine List.pairwise_cons.mpr ⟨fun b hb => ?_, ih hrest⟩
        rcases mem_insertEntry hb with rfl | hb
        · apply Decidable.byContradiction
          intro hgt
          exact hne (String.le_antisymm (String.not_lt.mp hgt) (String.not_lt.mp hlt))
        · exact hfirst b hb

/-- Remarks by key, in ascending order of the keys. -/
structure Extras where
  entries : List (String × String) := []
  ascending : Ascending entries := by exact List.Pairwise.nil
  deriving DecidableEq

namespace Extras

/-- No remarks. -/
def empty : Extras := {}

/-- Puts a remark under a key, in place of the one that stood there. -/
def insert (extras : Extras) (key value : String) : Extras :=
  ⟨insertEntry key value extras.entries, ascending_insertEntry key value extras.ascending⟩

/-- Collects remarks; of several under one key the last counts. -/
def ofList (entries : List (String × String)) : Extras :=
  entries.foldl (fun extras entry => extras.insert entry.1 entry.2) empty

/-- Whether there is no remark. -/
def isEmpty (extras : Extras) : Bool := extras.entries.isEmpty

end Extras

end MediaIndex
