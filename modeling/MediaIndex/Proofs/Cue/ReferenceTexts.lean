import MediaIndex.Proofs.Cue.References
import MediaIndex.Proofs.Number.Equality
import MediaIndex.Proofs.Number.ReadBack

/-!
# Which references come back from their texts

The text of a reference is cut at every mark, so it comes back exactly if none but the marks between
the fields are there (`Faithful`). A mark in the path may well yield another reference: `a>1` from
zero to the end is read as `a` from one to zero, with the title `inf`. But that one has another
title, whatever else it shares with the first.

> **`text_law`**: a reference whose bounds are numbers comes back from its text exactly if it is
> faithful, and what was read from any text does.

References are compared by the names and the numbers they stand for (`same`), or field by field: the
law holds of both.
-/

set_option autoImplicit false

namespace MediaIndex

namespace ClipReference

/-- Whether both bounds are numbers. -/
def IsNumeric (r : ClipReference) : Prop :=
  Number.isNotANumber r.start = false ∧ Number.isNotANumber r.finish = false

/-- Whether the fields of a reference can be told apart in its text. -/
def Faithful (r : ClipReference) : Prop :=
  r.path ≠ "" ∧ Unmarked r.path ∧ ∀ t ∈ r.title, Unmarked t

instance (r : ClipReference) : Decidable r.Faithful := inferInstanceAs (Decidable (_ ∧ _ ∧ _))

/-- Whether two references name the same clip and title. -/
def same (r r' : ClipReference) : Bool :=
  Path.same r.path r'.path && r.start == r'.start && r.finish == r'.finish && r.title == r'.title

theorem same_self {r : ClipReference} (h : r.IsNumeric) : r.same r = true := by
  simp [same, Path.same, Number.beq_self h.1, Number.beq_self h.2]

/-! ## Fields -/

/-- What is read as a reference has its path and its title among the fields. -/
theorem fields_of_ofFields? {fields : List String} {r : ClipReference}
    (h : ofFields? fields = some r) :
    r.path ≠ "" ∧ ∃ start finish, fields = [r.path, start, finish] ++ r.title.toList := by
  unfold ofFields? at h
  split at h
  · rename_i path start finish more
    split at h
    · exact absurd h (by simp)
    · rename_i hfields
      split at h
      · obtain rfl := Option.some.inj h
        simp only [Bool.or_eq_true, String.isEmpty_iff, decide_eq_true_eq, not_or] at hfields
        refine ⟨hfields.1, start, finish, ?_⟩
        match more, hfields.2 with
        | [], _ => rfl
        | [_], _ => rfl
        | _ :: _ :: _, hmany => exact absurd hmany (by simp)
      · exact absurd h (by simp)
  · exact absurd h (by simp)

/-- Where the bounds are numbers, the fields of a reference are read as the reference. -/
theorem ofFields?_fields {r : ClipReference} (hnumeric : r.IsNumeric) (hpath : r.path ≠ "") :
    ofFields? r.fields = some r := by
  have hstart := Number.readFloat?_writeFloat_eq hnumeric.1
  have hfinish := Number.readFloat?_writeFloat_eq hnumeric.2
  obtain ⟨path, start, finish, title⟩ := r
  cases title <;> simp_all [ofFields?, fields]

/-! ## Texts -/

theorem ofText?_text {r : ClipReference} (hnumeric : r.IsNumeric) (h : r.Faithful) :
    ofText? r.text = some r := by
  obtain ⟨hpath, hunmarked, htitle⟩ := h
  have htitles : r.title.toList.flatMap (Text.pieces mark) = r.title.toList := by
    cases hr : r.title with
    | none => rfl
    | some t => simp [Text.pieces_of_notMem (htitle t hr)]
  rw [ofText?, pieces_text, Text.pieces_of_notMem hunmarked, htitles]
  exact ofFields?_fields hnumeric hpath

/-- If the title comes back, then no field was cut. -/
theorem faithful_of_title {r r' : ClipReference} (h : ofText? r.text = some r')
    (htitle : r'.title = r.title) : r.Faithful := by
  obtain ⟨hpath, start, finish, hfields⟩ := fields_of_ofFields? h
  rw [pieces_text, htitle] at hfields
  have hcount := congrArg List.length hfields
  simp only [List.length_append, List.length_flatMap, Text.length_pieces, List.length_cons,
    List.length_nil] at hcount
  have hmarks : r.path.toList.count mark = 0 ∧ ∀ t ∈ r.title, t.toList.count mark = 0 := by
    cases hr : r.title with
    | none => simpa [hr] using hcount
    | some t =>
      simp only [hr, Option.toList_some, List.map_singleton, List.sum_singleton,
        List.length_singleton] at hcount
      simp only [Option.mem_some_iff, forall_eq']
      omega
  have hunmarked : Unmarked r.path := List.count_eq_zero.mp hmarks.1
  refine ⟨?_, hunmarked, fun t ht => List.count_eq_zero.mp (hmarks.2 t ht)⟩
  rw [Text.pieces_of_notMem hunmarked] at hfields
  obtain ⟨hsame, -⟩ := List.cons.inj hfields
  rw [hsame]
  exact hpath

/-- What was read from a text is faithful. -/
theorem faithful_of_ofText? {s : String} {r : ClipReference} (h : ofText? s = some r) :
    r.Faithful := by
  obtain ⟨hpath, start, finish, hfields⟩ := fields_of_ofFields? h
  have hunmarked : ∀ piece ∈ [r.path, start, finish] ++ r.title.toList, Unmarked piece := by
    rw [← hfields]
    exact fun piece hpiece => Text.notMem_of_mem_pieces hpiece
  exact ⟨hpath, hunmarked _ (by simp), fun t ht => hunmarked t (by simp_all)⟩

/-- **Which references come back from their texts**: those that are faithful. What was read from a
text always is. -/
theorem text_law :
    (∀ r : ClipReference, r.IsNumeric →
      (ofText? r.text = some r ↔ r.Faithful) ∧
      ((∃ r', ofText? r.text = some r' ∧ r'.same r = true) ↔ r.Faithful)) ∧
    (∀ (s : String) (r : ClipReference), ofText? s = some r → r.IsNumeric →
      ofText? r.text = some r) := by
  refine ⟨fun r hnumeric => ⟨⟨fun h => ?_, ofText?_text hnumeric⟩, ⟨?_, fun h => ?_⟩⟩,
    fun s r h hnumeric => ofText?_text hnumeric (faithful_of_ofText? h)⟩
  · exact faithful_of_title h rfl
  · rintro ⟨r', h, hsame⟩
    refine faithful_of_title h ?_
    simp only [same, Bool.and_eq_true, beq_iff_eq] at hsame
    exact hsame.2
  · exact ⟨r, ofText?_text hnumeric h, same_self hnumeric⟩

/-- A clip to the end of a file. -/
def loser : ClipReference := ⟨"/music/live.flac", 180.25, Number.infinity false, some "Loser"⟩

/-- The same of a file that has a mark in its name. -/
def shifted : ClipReference := ⟨"/music/live>1", 0.0, Number.infinity false, none⟩

theorem text_law_loser :
    loser.IsNumeric ∧ loser.Faithful ∧ ofText? loser.text = some loser ∧
    shifted.IsNumeric ∧ ¬shifted.Faithful ∧
    (¬∃ r', ofText? shifted.text = some r' ∧ r'.same shifted = true) ∧
    ∃ r, ofText? "/m/a.flac>-0>1e-3" = some r ∧ r.IsNumeric ∧ ofText? r.text = some r := by
  have hloser : loser.IsNumeric := ⟨by decide +kernel, by decide +kernel⟩
  have hshifted : shifted.IsNumeric := ⟨by decide +kernel, by decide +kernel⟩
  have hfaithful : loser.Faithful := by decide
  have hnot : ¬shifted.Faithful := by decide
  have hread : ((ofText? "/m/a.flac>-0>1e-3").any fun r =>
      !Number.isNotANumber r.start && !Number.isNotANumber r.finish) = true := by decide +kernel
  obtain ⟨r, hr, hnumeric⟩ := (Option.any_eq_true _ _).mp hread
  have hnumeric : r.IsNumeric := by simpa [IsNumeric] using hnumeric
  exact ⟨hloser, hfaithful, (text_law.1 loser hloser).1.mpr hfaithful, hshifted, hnot,
    fun h => hnot ((text_law.1 shifted hshifted).2.mp h), r, hr, hnumeric,
    text_law.2 _ r hr hnumeric⟩

/-- A text with a mark too many is read, but as another reference. -/
example : (ofText? shifted.text).map (fun r => (r.path, r.title)) =
    some ("/music/live", some "inf") := by decide +kernel

end ClipReference

end MediaIndex
