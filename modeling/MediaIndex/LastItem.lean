/-!
# The last item of a list

Reports and sheets name a track once and then speak of it without naming it again: what follows
belongs to the track that came last. `modifyLast` changes that track and leaves all others as they
are.
-/

set_option autoImplicit false

namespace MediaIndex

/-- Changes the last item of a list, if there is one. -/
def modifyLast {α : Type} (f : α → α) : List α → List α
  | [] => []
  | [a] => [f a]
  | a :: b :: rest => a :: modifyLast f (b :: rest)

/-- All items but the last stay. -/
theorem modifyLast_append {α : Type} (f : α → α) (l : List α) (a : α) :
    modifyLast f (l ++ [a]) = l ++ [f a] := by
  induction l with
  | nil => rfl
  | cons b l ih =>
    cases l with
    | nil => rfl
    | cons c l => simp only [List.cons_append, modifyLast] at ih ⊢; rw [ih]

/-- What the change leaves alone is left alone in every item. -/
theorem map_modifyLast {α β : Type} {f : α → α} {g : α → β} (h : ∀ a, g (f a) = g a)
    (l : List α) : (modifyLast f l).map g = l.map g := by
  fun_induction modifyLast f l <;> simp_all

/-- A change that can be told from a view is seen in it as a change of the last item. -/
theorem map_modifyLast_comm {α β : Type} {f : α → α} {view : α → β} {g : β → β}
    (h : ∀ a, view (f a) = g (view a)) (l : List α) :
    (modifyLast f l).map view = modifyLast g (l.map view) := by
  fun_induction modifyLast f l <;> simp_all [modifyLast]

theorem modifyLast_id {α : Type} (l : List α) : modifyLast id l = l := by
  fun_induction modifyLast id l <;> simp_all

theorem modifyLast_modifyLast {α : Type} (f g : α → α) (l : List α) :
    modifyLast f (modifyLast g l) = modifyLast (f ∘ g) l := by
  rcases List.eq_nil_or_concat l with rfl | ⟨front, a, rfl⟩
  · rfl
  · simp only [List.concat_eq_append, modifyLast_append, Function.comp_apply]

/-- Whether the last item is changed may depend on the item. -/
theorem modifyLast_unless {α : Type} (p : α → Bool) (f : α → α) (l : List α) :
    modifyLast (fun a => if p a then a else f a) l =
      if l.getLast?.any p then l else modifyLast f l := by
  rcases List.eq_nil_or_concat l with rfl | ⟨front, a, rfl⟩
  · rfl
  · simp only [List.concat_eq_append, modifyLast_append, List.getLast?_concat, Option.any_some]
    split <;> rfl

/-- The last item is the one that is changed. -/
theorem getLast?_modifyLast {α : Type} (f : α → α) (l : List α) :
    (modifyLast f l).getLast? = l.getLast?.map f := by
  rcases List.eq_nil_or_concat l with rfl | ⟨front, a, rfl⟩
  · rfl
  · rw [List.concat_eq_append, modifyLast_append, List.getLast?_concat, List.getLast?_concat,
      Option.map_some]

end MediaIndex
