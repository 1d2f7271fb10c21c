import MediaIndex.Proofs.Cache.Tables

/-!
# What a sweep leaves and what it reports

A sweep loads the rows in the order of their numbers, goes through them once, and deletes those that
are not live by their numbers, out of the very table that they were loaded from. The tables delete
the tracks of a file with it.

> **`sweep_exact`**: whatever happened before and whatever is on the disk, the rows that stay are
> those whose file still has the time that they were stored under, with all their tracks and nothing
> else; the report accounts for every row; and a second sweep finds nothing more to remove.

The loop has two sides, which are told apart here: what it deletes (`Tables.deleteStale_eq`) and
what it counts (`foldl_sweepRow`). That the first does not disturb the second is because the numbers
tell the rows apart.
-/

set_option autoImplicit false

namespace MediaIndex

variable {modified : Path → Option Timestamp}

/-! ## What the loop deletes -/

namespace Tables

/-- Goes through some rows and deletes those that are not live, one after the other. -/
def deleteStale (modified : Path → Option Timestamp) (t : Tables) (loaded : List FileRow) :
    Tables :=
  loaded.foldl (fun t r => if Cache.isLive modified r then t else t.delete r.number) t

/-- A sweep, table by table: the files are loaded first, and the loop deletes from the tables that
they come from. -/
def sweep (modified : Path → Option Timestamp) (t : Tables) : Tables :=
  t.deleteStale modified t.files

/-- The loop keeps the numbers that none of the stale rows has. -/
theorem deleteStale_eq (t : Tables) (loaded : List FileRow) :
    t.deleteStale modified loaded =
      t.restrict fun n => loaded.all fun r => Cache.isLive modified r || n != r.number := by
  induction loaded generalizing t with
  | nil => exact t.restrict_true.symm
  | cons r rest ih =>
    show deleteStale modified (if _ then t else t.delete r.number) rest = _
    cases hlive : Cache.isLive modified r with
    | true => simp only [if_true, ih, List.all_cons, hlive, Bool.true_or, Bool.true_and]
    | false =>
      simp only [Bool.false_eq_true, if_false, ih, delete, restrict_restrict, List.all_cons, hlive,
        Bool.false_or]

end Tables

namespace Cache

variable {c : Cache} {path : Path} {time : Timestamp} {r : FileRow}

theorem mem_sweep_iff :
    r ∈ (c.sweep modified).1.rows ↔
      r ∈ c.rows ∧ modified (physicalPath r.path) = some r.modified := by
  simp only [sweep, List.mem_filter, isLive, beq_iff_eq]

/-- **What a sweep leaves is what the loop leaves in the tables.** -/
theorem tables_sweep (h : c.Tidy) : (c.sweep modified).1.tables = c.tables.sweep modified := by
  refine Eq.trans ?_ (Tables.deleteStale_eq c.tables c.tables.files).symm
  refine (Tables.restrict_ofRows fun r hr => ?_).symm
  have hloaded : (c.tables.files.all fun s => isLive modified s || r.number != s.number) =
      c.rows.all fun s => isLive modified s || r.number != s.number := List.all_map
  rw [hloaded]
  cases hlive : isLive modified r with
  | true =>
    refine List.all_eq_true.mpr fun s hs => ?_
    by_cases hnumber : r.number = s.number
    · -- the number of this row has no other row, so no stale row has it
      obtain rfl := h.eq_of_number hr hs hnumber
      exact Bool.or_eq_true_iff.mpr (Or.inl hlive)
    · exact Bool.or_eq_true_iff.mpr (Or.inr (by simpa using hnumber))
  | false => exact List.all_eq_false.mpr ⟨r, hr, by simp [hlive]⟩

/-- **A sweep deletes the tracks of the files that it deletes**, and those only. -/
theorem tables_sweep_restrict (h : c.Tidy) :
    (c.sweep modified).1.tables =
      c.tables.restrict fun n => (c.sweep modified).1.rows.any (·.number == n) := by
  refine (Tables.restrict_ofRows fun r hr => Bool.eq_iff_iff.mpr ?_).symm
  simp only [List.any_eq_true, beq_iff_eq]
  constructor
  · rintro ⟨s, hs, hnumber⟩
    obtain ⟨hmem, hlive⟩ := List.mem_filter.mp hs
    rwa [h.eq_of_number hmem hr hnumber] at hlive
  · exact fun hlive => ⟨r, List.mem_filter.mpr ⟨hr, hlive⟩, rfl⟩

/-- A sweep shows what it leaves as before. -/
theorem get_sweep :
    (c.sweep modified).1.get path time =
      if survives modified path time then c.get path time else .ok none := by
  unfold get
  rw [row?_sweep]
  cases survives modified path time <;> rfl

/-! ## What the loop counts -/

/-- The report of the loop, from the one that it began with. -/
theorem foldl_sweepRow (total : Nat) (rows : List FileRow) (report : SweepReport) :
    rows.foldl (sweepRow modified total) report =
      { checked := report.checked + rows.length
        removed := report.removed + rows.countP (!isLive modified ·)
        surviving := report.surviving ++ (rows.filter (isLive modified)).map (·.path)
        progress := report.progress ++
          (List.range rows.length).map fun i => (report.checked + (i + 1), total) } := by
  induction rows generalizing report with
  | nil => simp
  | cons r rest ih =>
    rw [List.foldl_cons, ih, List.length_cons, List.range_succ_eq_map, List.countP_cons]
    cases hlive : isLive modified r <;>
      simp [sweepRow, hlive, Nat.add_comm, Nat.add_left_comm, Nat.add_assoc, Function.comp_def]

theorem report_sweep :
    (c.sweep modified).2 =
      { checked := c.rows.length
        removed := c.rows.countP (!isLive modified ·)
        surviving := (c.sweep modified).1.rows.map (·.path)
        progress := (List.range c.rows.length).map fun i => (i + 1, c.rows.length) } := by
  refine (foldl_sweepRow _ _ _).trans ?_
  simp [sweep]

/-- **Every row is accounted for**, as removed or as surviving. -/
theorem checked_sweep :
    c.rows.length = (c.sweep modified).2.removed + (c.sweep modified).2.surviving.length := by
  rw [report_sweep, List.length_map, List.length_eq_countP_add_countP (isLive modified),
    Nat.add_comm]
  simp [sweep, List.countP_eq_length_filter]

/-- **A second sweep finds nothing to remove.** -/
theorem sweep_sweep :
    ((c.sweep modified).1.sweep modified).1 = (c.sweep modified).1 ∧
      ((c.sweep modified).1.sweep modified).2.removed = 0 := by
  have hstays : (c.sweep modified).1.rows.filter (isLive modified) = (c.sweep modified).1.rows :=
    List.filter_eq_self.mpr fun r hr => (List.mem_filter.mp hr).2
  refine ⟨congrArg (fun rows => { c with rows }) hstays, ?_⟩
  rw [report_sweep]
  refine List.countP_eq_zero.mpr fun r hr => ?_
  simp [(List.mem_filter.mp hr).2]

/-- **A sweep is exact and accounted for, and a second one does nothing.** After every run, and for
all times that files may have now:

- the loop visits the rows in ascending order of their numbers, each once, and what it leaves in the
  tables is what the sweep leaves;
- a row stays exactly if the time of its file can be read and is the one of the row, and the rows
  that stay keep their order; with a file go its tracks, and no others;
- all rows were checked, each of them is removed or survives, the surviving ones are those that
  stay, in order, and after each row the progress is told;
- what stays is read as before, and what is removed is not found;
- sweeping again removes nothing and tells of the same survivors. -/
theorem sweep_exact (ops : List CacheOp) (modified : Path → Option Timestamp) :
    let c := run ops
    let swept := (c.sweep modified).1
    let report := (c.sweep modified).2
    c.tables.files.Pairwise (fun r s => r.number < s.number) ∧
    swept.tables = c.tables.sweep modified ∧
    (∀ r, r ∈ swept.rows ↔ r ∈ c.rows ∧ modified (physicalPath r.path) = some r.modified) ∧
    swept.rows.Sublist c.rows ∧
    swept.tables = c.tables.restrict (fun n => swept.rows.any (·.number == n)) ∧
    report.checked = c.rows.length ∧
    report.checked = report.removed + report.surviving.length ∧
    report.surviving = swept.rows.map (·.path) ∧
    report.progress = (List.range c.rows.length).map (fun i => (i + 1, c.rows.length)) ∧
    (∀ path time, swept.get path time =
      if survives modified path time then c.get path time else .ok none) ∧
    (swept.sweep modified).1 = swept ∧
    (swept.sweep modified).2.removed = 0 ∧
    (swept.sweep modified).2.surviving = report.surviving := by
  intro c swept report
  have htidy : c.Tidy := tidy_run ops
  have hreport : report = _ := report_sweep
  have hchecked : report.checked = c.rows.length := by rw [hreport]
  obtain ⟨hsame, hnone⟩ : (swept.sweep modified).1 = swept ∧ (swept.sweep modified).2.removed = 0 :=
    sweep_sweep
  have hsurviving : (swept.sweep modified).2.surviving = swept.rows.map (·.path) := by
    rw [report_sweep, hsame]
  refine ⟨List.pairwise_map.mpr htidy.ascending, tables_sweep htidy, fun r => mem_sweep_iff,
    List.filter_sublist, tables_sweep_restrict htidy, hchecked, hchecked.trans checked_sweep,
    ?_, ?_, fun path time => get_sweep, hsame, hnone, ?_⟩
  · rw [hreport]
  · rw [hreport]
  · rw [hsurviving, hreport]

end Cache

end MediaIndex
