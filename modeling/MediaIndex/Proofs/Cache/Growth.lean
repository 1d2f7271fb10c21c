import Mathlib.Logic.Relation
import MediaIndex.Proofs.Cache.Keys

/-!
# Caches that only grow

What fills a cache stores one descriptor after the other and removes nothing. Which descriptors it
stores, under which keys and when, is all that has to be known of it: the rest follows from the laws
for storing. So a filling is described by what it is *allowed* to store, and `Grows` says that one
cache comes from another by allowed stores, as many as there may be.

Three things can be read off such a description: what is there stays there (`Grows.keeps`), a key
under which nothing may be stored keeps its row (`Grows.row?_eq`), and where a key may only be
stored while it is missing, its row is the one that was there or holds what was stored first
(`Grows.first`).
-/

set_option autoImplicit false

namespace MediaIndex.Cache

section Storing

variable {c c' : Cache} {path other : Path} {time otherTime : Timestamp} {d : Descriptor}
variable {number : Nat}

theorem contains_put :
    (c.put path time d).1.contains other otherTime = true ↔
      c.contains other otherTime = true ∨ (other = path ∧ otherTime = time) := by
  by_cases hkey : path = other ∧ time = otherTime
  · obtain ⟨rfl, rfl⟩ := hkey
    refine iff_of_true ?_ (Or.inr ⟨rfl, rfl⟩)
    rw [contains, row?_put_self]
    rfl
  · have hother : ¬(other = path ∧ otherTime = time) := fun h => hkey ⟨h.1.symm, h.2.symm⟩
    rw [contains, row?_put_other hkey, or_iff_left hother, contains]

theorem eq_put_of_upsert (h : c.upsert path time d = .ok (c', number)) :
    c' = (c.put path time d).1 := by
  unfold upsert at h
  split at h
  · exact absurd h (by simp)
  · have hput : c.put path time d = (c', number) := Except.ok.inj h
    rw [hput]

theorem contains_upsert (h : c.upsert path time d = .ok (c', number)) :
    c'.contains other otherTime = true ↔
      c.contains other otherTime = true ∨ (other = path ∧ otherTime = time) := by
  rw [eq_put_of_upsert h]
  exact contains_put

theorem upsert_ne_error (haccepts : c.refusesAny path d = false) (e : CacheFailure) :
    c.upsert path time d ≠ .error e := by
  rw [upsert, haccepts]
  exact fun h => absurd h (by simp)

theorem refusals_put : (c.put path time d).1.refusals = c.refusals := by
  unfold put
  cases c.row? path time <;> rfl

end Storing

/-! ## Growing -/

/-- What may be stored under a key, given the cache as it is then. -/
abbrev StoreRule : Type := Cache → Path → Timestamp → Descriptor → Prop

/-- One descriptor was stored, as is allowed. -/
def Stores (allowed : StoreRule) (c c' : Cache) : Prop :=
  ∃ path time d number, allowed c path time d ∧ c.upsert path time d = .ok (c', number)

/-- Descriptors were stored one after the other, as is allowed. -/
def Grows (allowed : StoreRule) : Cache → Cache → Prop := Relation.ReflTransGen (Stores allowed)

/-- Whether a cache refuses nothing of what may be stored. -/
def Willing (allowed : StoreRule) (c : Cache) : Prop :=
  ∀ b path time d, allowed b path time d → c.refusesAny path d = false

theorem Willing.mono {allowed more : StoreRule} {c : Cache} (h : Willing more c)
    (himp : ∀ c path time d, allowed c path time d → more c path time d) : Willing allowed c :=
  fun b path time d hallowed => h b path time d (himp b path time d hallowed)

theorem willing_of_refusals {allowed : StoreRule} {c : Cache} (h : c.refusals = []) :
    Willing allowed c := by
  intro b path time d _
  simp [refusesAny, refuses, h]

namespace Grows

variable {allowed more : StoreRule} {c c' c'' : Cache} {path : Path} {time : Timestamp}
variable {d : Descriptor} {number : Nat}

theorem refl (c : Cache) : Grows allowed c c := Relation.ReflTransGen.refl

theorem trans (h : Grows allowed c c') (h' : Grows allowed c' c'') : Grows allowed c c'' :=
  Relation.ReflTransGen.trans h h'

theorem of_upsert (hallowed : allowed c path time d)
    (h : c.upsert path time d = .ok (c', number)) : Grows allowed c c' :=
  Relation.ReflTransGen.single ⟨path, time, d, number, hallowed, h⟩

theorem mono (himp : ∀ c path time d, allowed c path time d → more c path time d)
    (h : Grows allowed c c') : Grows more c c' := by
  refine Relation.ReflTransGen.mono (fun b b' hstores => ?_) _ _ h
  obtain ⟨path, time, d, number, hallowed, hstored⟩ := hstores
  exact ⟨path, time, d, number, himp _ _ _ _ hallowed, hstored⟩

/-- **What is there stays there.** -/
theorem keeps (h : Grows allowed c c') (hthere : c.contains path time = true) :
    c'.contains path time = true := by
  induction h with
  | refl => exact hthere
  | tail _ hstores ih =>
    obtain ⟨p, t, d, number, -, hstored⟩ := hstores
    exact (contains_upsert hstored).mpr (Or.inl ih)

theorem refusals_eq (h : Grows allowed c c') : c'.refusals = c.refusals := by
  induction h with
  | refl => rfl
  | tail _ hstores ih =>
    obtain ⟨p, t, d, number, -, hstored⟩ := hstores
    rw [eq_put_of_upsert hstored, refusals_put, ih]

/-- A cache that refuses nothing of what may be stored is no different after stores. -/
theorem willing (h : Grows more c c') (hwilling : Willing allowed c) : Willing allowed c' := by
  intro b path time d hallowed
  rw [← hwilling b path time d hallowed]
  unfold refusesAny refuses
  rw [h.refusals_eq]

/-- **A key under which nothing may be stored keeps its row.** -/
theorem row?_eq (h : Grows allowed c c') (hnever : ∀ c d, ¬allowed c path time d) :
    c'.row? path time = c.row? path time := by
  induction h with
  | refl => rfl
  | tail _ hstores ih =>
    obtain ⟨p, t, d, number, hallowed, hstored⟩ := hstores
    rw [eq_put_of_upsert hstored, row?_put_other ?_, ih]
    rintro ⟨rfl, rfl⟩
    exact hnever _ _ hallowed

/-- **Where a key may only be stored while it is missing**, either its row is the one that was
there, or it was missing and holds something that was allowed. -/
theorem first (h : Grows allowed c c')
    (hmissing : ∀ c d, allowed c path time d → c.contains path time = false) :
    c'.row? path time = c.row? path time ∨
      (c.contains path time = false ∧
        ∃ b d r, allowed b path time d ∧ c'.row? path time = some r ∧ Holds r d) := by
  induction h with
  | refl => exact Or.inl rfl
  | @tail b c' _ hstores ih =>
    obtain ⟨p, t, d, number, hallowed, hstored⟩ := hstores
    by_cases hkey : p = path ∧ t = time
    · -- the key was missing just before, so nothing was stored under it until now
      obtain ⟨rfl, rfl⟩ := hkey
      have hfresh : b.contains p t = false := hmissing _ _ hallowed
      have hnone : b.row? p t = none := contains_eq_false_iff.mp hfresh
      rcases ih with ih | ⟨-, -, -, r, -, hrow, -⟩
      · have hrow : c'.row? p t = some (fillRow d (b.target p t)) := by
          rw [eq_put_of_upsert hstored]
          exact row?_put_self
        exact Or.inr ⟨contains_eq_false_iff.mpr (ih.symm.trans hnone), b, d, _, hallowed, hrow,
          holds_target hfresh⟩
      · exact absurd (hnone.symm.trans hrow) (by simp)
    · rw [eq_put_of_upsert hstored, row?_put_other hkey]
      exact ih

end Grows

end MediaIndex.Cache
