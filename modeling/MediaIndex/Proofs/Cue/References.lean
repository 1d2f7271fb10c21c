import MediaIndex.Cue.Composition
import MediaIndex.Proofs.Number.Decimals
import MediaIndex.Proofs.Text.Cuts

/-!
# When a reference leads back to its file

The fields of a reference are joined with a mark and not escaped. The bounds of a clip never contain
the mark, so what is cut out of a text depends on the path and the title alone, and it does so in
the bluntest way: one mark too many, and there are too many pieces for a reference.

> **`pathOf?_text`**: the text of a reference with a title leads back to its path exactly if the
> path is not empty and neither the path nor the title contains the mark. Otherwise it is no
> reference at all.
-/

set_option autoImplicit false

namespace MediaIndex

namespace ClipReference

/-- Whether a text is free of the mark that parts the fields. -/
def Unmarked (s : String) : Prop := mark ∉ s.toList

instance (s : String) : Decidable (Unmarked s) := inferInstanceAs (Decidable (mark ∉ s.toList))

theorem unmarked_writeFloat (x : Float) : Unmarked (Number.writeFloat x) :=
  Number.notMem_writeFloat (by decide) (by decide) x

theorem ofFields?_of_many {fields : List String} (h : 4 < fields.length) :
    ofFields? fields = none := by
  unfold ofFields?
  split
  · rename_i path start finish more
    have hmore : 1 < more.length := by
      simp only [List.length_cons] at h
      omega
    simp [hmore]
  · rfl

/-- The bounds of a clip are read as numbers, so four fields are a reference unless the path is
empty. -/
theorem ofFields?_written (path title : String) (start finish : Float) (hpath : path ≠ "") :
    ∃ start' finish',
      ofFields? [path, Number.writeFloat start, Number.writeFloat finish, title] =
        some ⟨path, start', finish', some title⟩ := by
  obtain ⟨start', hstart⟩ := Option.isSome_iff_exists.mp (Number.readFloat?_writeFloat start)
  obtain ⟨finish', hfinish⟩ := Option.isSome_iff_exists.mp (Number.readFloat?_writeFloat finish)
  refine ⟨start', finish', ?_⟩
  simp [ofFields?, hstart, hfinish, hpath]

/-- The pieces of a text of a reference: those of the path, the two bounds, those of the title. -/
theorem pieces_text (r : ClipReference) :
    Text.pieces mark r.text =
      Text.pieces mark r.path ++ [Number.writeFloat r.start, Number.writeFloat r.finish] ++
        r.title.toList.flatMap (Text.pieces mark) := by
  rw [text, fields, Text.pieces_intercalate (by simp)]
  simp [Text.pieces_of_notMem (unmarked_writeFloat r.start),
    Text.pieces_of_notMem (unmarked_writeFloat r.finish)]

/-- **When the text of a reference leads back to its path.** -/
theorem pathOf?_text (path title : String) (start finish : Float) :
    pathOf? (text ⟨path, start, finish, some title⟩) =
      if path ≠ "" ∧ Unmarked path ∧ Unmarked title then some path else none := by
  rw [pathOf?, ofText?, pieces_text, Option.toList_some, List.flatMap_singleton]
  by_cases hmarks : Unmarked path ∧ Unmarked title
  · rw [Text.pieces_of_notMem hmarks.1, Text.pieces_of_notMem hmarks.2]
    by_cases hpath : path = ""
    · simp [hpath, ofFields?]
    · obtain ⟨start', finish', hread⟩ := ofFields?_written path title start finish hpath
      rw [if_pos ⟨hpath, hmarks⟩]
      simp [hread]
  · -- one mark too many makes a fifth piece
    have hcount : 0 < path.toList.count mark ∨ 0 < title.toList.count mark := by
      rcases Decidable.not_and_iff_or_not.mp hmarks with hmark | hmark
      · exact Or.inl (List.count_pos_iff.mpr (Decidable.not_not.mp hmark))
      · exact Or.inr (List.count_pos_iff.mpr (Decidable.not_not.mp hmark))
    rw [ofFields?_of_many ?_, if_neg fun h => hmarks h.2, Option.map_none]
    simp only [List.length_append, Text.length_pieces, List.length_cons, List.length_nil]
    omega

end ClipReference

namespace VirtualTrack

/-- Whether the reference of a track leads back to its file. -/
def Traceable (t : VirtualTrack) : Prop :=
  t.path ≠ "" ∧ ClipReference.Unmarked t.path ∧ ClipReference.Unmarked t.title

instance (t : VirtualTrack) : Decidable t.Traceable := inferInstanceAs (Decidable (_ ∧ _ ∧ _))

theorem pathOf?_reference (t : VirtualTrack) :
    ClipReference.pathOf? t.reference.text = if t.Traceable then some t.path else none :=
  ClipReference.pathOf?_text t.path t.title t.start t.finish

end VirtualTrack

end MediaIndex
