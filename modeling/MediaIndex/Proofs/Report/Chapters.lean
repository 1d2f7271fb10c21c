import MediaIndex.Proofs.Report.Blocks
import MediaIndex.Proofs.Survey.Aside

/-!
# Chapters

Between the duration of an input and its first stream a summary may list chapters, each with a block
of metadata of its own. To the reader of summaries a chapter is no line of any shape, and so it
begins nothing: its metadata is told of whatever the lines above belong to.

> **`chapters_law`**: a list of chapters tells the entries of its blocks and nothing else, and below
> it everything is read as without it. Below an input they are song tags and remarks of the file, if
> none of them is a brand: then the list changes the remarks of the descriptor, the song tags of its
> first track if the file is a song, and nothing else.

So the title of a chapter is taken for that of the song (`chapter_title`).
-/

set_option autoImplicit false

namespace MediaIndex

open Survey

/-! ## The lines of a list of chapters -/

namespace SummaryLine

variable {raw : String} {cs rest : List Char} {c : Char}

theorem entry?_of_key (hkey : cs.dropWhile Text.isBlank = c :: rest)
    (hvalue : Scan.after? ": " ((rest.dropWhile isKeyChar).dropWhile Text.isBlank) = none) :
    entry? cs = none := by
  unfold entry? Scan.run?
  cases cs.takeWhile Text.isBlank with
  | nil => rfl
  | cons b bs =>
    simp only [hkey, hvalue, Option.bind_eq_bind, Option.bind_some, Option.bind_none, ite_self]

/-- A line whose first word is one of chapters. -/
theorem ofText_of_chapter (hword : raw.toList.dropWhile Text.isBlank = "Chapter".toList ++ rest)
    (hvalue : Scan.after? ": " ((rest.dropWhile isKeyChar).dropWhile Text.isBlank) = none) :
    ofText raw = .other := by
  have hhead : (raw.toList.dropWhile Text.isBlank).head? = some 'C' := by rw [hword]; rfl
  obtain ⟨hinput, hduration, hstream⟩ :=
    no_shape_of_head hhead (by decide) (by decide) (by decide)
  have hheading : Text.trim raw ≠ "Metadata:" := by
    intro hmetadata
    exact absurd ((head_of_heading hmetadata).symm.trans hhead) (by decide)
  have hentry : entry? raw.toList = none := entry?_of_key hword hvalue
  simp only [ofText, hinput, hduration, hstream, hentry, beq_false_of_ne hheading, Option.none_or,
    Bool.false_eq_true, if_false, Option.getD_none]

end SummaryLine

/-- A chapter of a list: a line with its bounds, and its block of metadata. -/
structure Chapter where
  bounds : String
  heading : String
  entries : List String

namespace Chapter

def lines (c : Chapter) : List String := c.bounds :: c.heading :: c.entries

/-- Whether the lines are those of a chapter, the first as in `Chapter #0:0: start 0.0, end 9.0`. -/
structure IsListed (c : Chapter) : Prop where
  bounds : ∃ rest, c.bounds.toList.dropWhile Text.isBlank = "Chapter #".toList ++ rest
  metadata : IsMetadata c.heading c.entries

end Chapter

/-- A list of chapters: a line `Chapters:` and the chapters. -/
structure Chapters where
  heading : String
  chapters : List Chapter

namespace Chapters

def lines (l : Chapters) : List String := l.heading :: l.chapters.flatMap Chapter.lines

/-- The entries of all its blocks. -/
def entries (l : Chapters) : List String := l.chapters.flatMap Chapter.entries

/-- Whether the lines are those of a list of chapters. -/
structure IsListed (l : Chapters) : Prop where
  heading : l.heading.toList.dropWhile Text.isBlank = "Chapters:".toList
  chapters : ∀ c ∈ l.chapters, c.IsListed

end Chapters

/-! ## Reading a list of chapters -/

namespace SummaryState

variable {c : Chapter} {l : Chapters} {raw : String}

/-- A line of no shape takes the mark away. -/
theorem step_other (h : SummaryLine.ofText raw = .other) (st : SummaryState) :
    ∃ mark, st.step (.ofText raw) = (st.marked mark, []) := by
  rw [h]
  cases hseen : st.seenInput with
  | false => exact ⟨st.inMetadata, step_unseen hseen (by simp)⟩
  | true => exact ⟨false, by simp [SummaryState.step, hseen, marked]⟩

/-- **A chapter tells the entries of its block.** -/
theorem read_chapter (h : c.IsListed) (st : SummaryState) :
    ∃ mark, st.read c.lines = (st.marked mark, st.told c.entries) := by
  have hbounds : SummaryLine.ofText c.bounds = .other := by
    obtain ⟨rest, hrest⟩ := h.bounds
    have hword : c.bounds.toList.dropWhile Text.isBlank =
        "Chapter".toList ++ ' ' :: '#' :: rest := hrest
    exact SummaryLine.ofText_of_chapter hword rfl
  obtain ⟨mark, hstep⟩ := step_other hbounds st
  rw [Chapter.lines, read_cons, hstep, read_block h.metadata, List.nil_append]
  cases hseen : st.seenInput with
  | false => exact ⟨mark, by simp [marked, hseen, told]⟩
  | true => exact ⟨true, by simp [marked, hseen, told]; rfl⟩

theorem read_chapters {chapters : List Chapter} (h : ∀ c ∈ chapters, c.IsListed)
    (st : SummaryState) :
    ∃ mark, st.read (chapters.flatMap Chapter.lines) =
      (st.marked mark, st.told (chapters.flatMap Chapter.entries)) := by
  induction chapters generalizing st with
  | nil => exact ⟨st.inMetadata, by simp [read, run, marked, told]⟩
  | cons c chapters ih =>
    obtain ⟨hc, hchapters⟩ := List.forall_mem_cons.mp h
    obtain ⟨mark, hchapter⟩ := read_chapter hc st
    -- the mark that this chapter leaves does not count in what the others tell
    obtain ⟨last, hlast⟩ := ih hchapters (st.marked mark)
    refine ⟨last, ?_⟩
    rw [List.flatMap_cons, read_append, hchapter, hlast, List.flatMap_cons, told_append]
    rfl

/-- **A list of chapters tells the entries of its blocks**, of what the lines above belong to. -/
theorem read_listing (h : l.IsListed) (st : SummaryState) :
    ∃ mark, st.read l.lines = (st.marked mark, st.told l.entries) := by
  have hword : l.heading.toList.dropWhile Text.isBlank = "Chapter".toList ++ ['s', ':'] := h.heading
  have hheading : SummaryLine.ofText l.heading = .other :=
    SummaryLine.ofText_of_chapter hword rfl
  obtain ⟨mark, hstep⟩ := step_other hheading st
  obtain ⟨last, hlast⟩ := read_chapters h.chapters (st.marked mark)
  refine ⟨last, ?_⟩
  rw [Chapters.lines, read_cons, hstep, hlast, List.nil_append]
  rfl

/-- **A list of chapters above a stream** tells its entries, and what is below it is read as
without it. -/
theorem alike_listing {stream : String} {after : List String} (h : l.IsListed)
    (hstream : (SummaryLine.ofText stream).isEntry = false) (st : SummaryState) :
    Alike (st.read (l.lines ++ stream :: after))
      ((st.read (stream :: after)).1, st.told l.entries ++ (st.read (stream :: after)).2) := by
  obtain ⟨mark, hlisting⟩ := read_listing h st
  have hbelow : Alike ((st.marked mark).read (stream :: after)) (st.read (stream :: after)) :=
    alike_marked (by simpa using hstream) st mark
  rw [read_append, hlisting]
  exact ⟨congrArg (st.told l.entries ++ ·) hbelow.events, hbelow.state⟩

/-- Of an input, every entry but a brand is a song tag or a remark. -/
theorem isAside_inputField {key : String} (h : Text.lower key ≠ "major_brand") (value : String) :
    (reported .general (inputField key) value).isAside = true := by
  unfold inputField
  split
  · rename_i hbrand
    exact absurd hbrand h
  all_goals rfl

theorem isAside_told {st : SummaryState} {entries : List String} (hscope : st.scope = .input)
    (h : ∀ raw ∈ entries, ∀ key value, SummaryLine.ofText raw = .entry key value →
      Text.lower key ≠ "major_brand") : ∀ e ∈ st.told entries, e.isAside = true := by
  intro e he
  unfold told at he
  split at he
  · obtain ⟨raw, hraw, he⟩ := List.mem_flatMap.mp he
    cases hline : SummaryLine.ofText raw with
    | entry key value =>
      rw [hline, entryTold, entryEvents, hscope] at he
      obtain rfl := List.mem_singleton.mp he
      exact isAside_inputField (h raw hraw key value hline) value
    | _ => exact absurd he (by simp [entryTold, hline])
  · exact absurd he List.not_mem_nil

end SummaryState

namespace StreamSummary

open SummaryState

variable {l : Chapters} {stream text listed : String} {before after : List String}
  {summary : StreamSummary}

/-- **A list of chapters** directly above a stream line, wherever that stands. The summary can still
be read, with the same cover. The survey is told the entries of the chapters as entries of what the
lines above belong to, between what it is told without them; so nothing changes if these tell
nothing, as where there are none. If they are told of an input, and there is no brand among them,
they only change the remarks and the song tags of the first track, and the remarks alone if the file
is no song. -/
theorem chapters_law (hlisting : l.IsListed) (hstream : (StreamLine.ofText? stream).isSome = true)
    (htext : Text.lines text = before ++ stream :: after)
    (hlisted : Text.lines listed = before ++ (l.lines ++ stream :: after))
    (hread : ofText? text = some summary) :
    let st := (SummaryState.read {} before).1
    ∃ other, ofText? listed = some other ∧ other.cover = summary.cover ∧
      (∃ earlier later,
        summary.descriptor = (start.run (earlier ++ later)).finish ∧
        other.descriptor = (start.run (earlier ++ (st.told l.entries ++ later))).finish) ∧
      (st.told l.entries = [] → other = summary) ∧
      (st.scope = .input →
        (∀ raw ∈ l.entries, ∀ key value, SummaryLine.ofText raw = .entry key value →
          Text.lower key ≠ "major_brand") →
        other.descriptor.untagged = summary.descriptor.untagged ∧
          (summary.descriptor.mediaType ≠ .audio →
            other.descriptor.plain = summary.descriptor.plain)) := by
  intro st
  have hentry : (SummaryLine.ofText stream).isEntry = false := by
    obtain ⟨found, hfound⟩ := Option.isSome_iff_exists.mp hstream
    rw [StreamLine.ofText_eq_line_iff.mpr hfound]
    rfl
  have hlistedRead : ofText? listed =
      ofReading? ((st.read (stream :: after)).1, (SummaryState.read {} before).2 ++
        (st.told l.entries ++ (st.read (stream :: after)).2)) := by
    obtain ⟨hevents, hstate⟩ := alike_listing hlisting hentry st
    rw [ofText?_eq, hlisted, ofLines?_eq, read_append]
    exact ofReading?_congr ⟨congrArg ((SummaryState.read {} before).2 ++ ·) hevents, hstate⟩
  rw [ofText?_eq, htext, ofLines?_eq, read_append] at hread
  obtain ⟨hseen, hsummary⟩ := Option.ite_none_right_eq_some.mp hread
  obtain rfl := Option.some.inj hsummary
  have hother : ofText? listed = some
      ⟨(start.run ((SummaryState.read {} before).2 ++
          (st.told l.entries ++ (st.read (stream :: after)).2))).finish,
        (st.read (stream :: after)).1.cover⟩ := by
    rw [hlistedRead, ofReading?, if_pos hseen]
  refine ⟨_, hother, rfl, ⟨_, _, rfl, rfl⟩, fun hsilent => ?_, fun hscope hbrand => ?_⟩
  · rw [hsilent, List.nil_append]
  · have hplain := plain_run_aside start (isAside_told hscope hbrand)
      (SummaryState.read {} before).2 (st.read (stream :: after)).2
    obtain ⟨huntagged, hfilm⟩ := finish_of_plain hplain.symm
    exact ⟨huntagged.symm, fun hmedia => (hfilm hmedia).symm⟩

/-- A summary of a film, up to the duration. -/
def filmLines : List String :=
  ["Input #0, matroska,webm, from 'a.mkv':", "  Metadata:", "    title           : Film",
    "  Duration: N/A"]

def filmStream : String := "  Stream #0:0: Video: h264"

def oneChapter : Chapters where
  heading := "  Chapters:"
  chapters := [{
    bounds := "    Chapter #0:0: start 0.000000, end 9.000000"
    heading := "      Metadata:"
    entries := ["        title           : Intro"] }]

theorem isListed_oneChapter : oneChapter.IsListed where
  heading := by decide +kernel
  chapters := by
    intro c hc
    obtain rfl := List.mem_singleton.mp hc
    exact ⟨⟨"0:0: start 0.000000, end 9.000000".toList, by decide +kernel⟩,
      ⟨by decide +kernel, by decide +kernel⟩⟩

theorem title_oneChapter : ∀ raw ∈ oneChapter.entries, ∀ key value,
    SummaryLine.ofText raw = .entry key value → Text.lower key ≠ "major_brand" := by
  intro raw hraw key value hentry
  obtain rfl : raw = "        title           : Intro" := List.mem_singleton.mp hraw
  have htitle : SummaryLine.ofText "        title           : Intro" = .entry "title" "Intro" := by
    rfl
  obtain ⟨rfl, -⟩ := SummaryLine.entry.inj (htitle.symm.trans hentry)
  decide +kernel

/-- Of a film, one chapter with a title only changes the remarks. -/
theorem chapters_law_film :
    ∃ summary other,
      ofText? (textOf (filmLines ++ [filmStream])) = some summary ∧
      ofText? (textOf (filmLines ++ (oneChapter.lines ++ [filmStream]))) = some other ∧
      other.cover = summary.cover ∧ other.descriptor.plain = summary.descriptor.plain := by
  have htext : Text.lines (textOf (filmLines ++ [filmStream])) = filmLines ++ [filmStream] :=
    lines_textOf (by decide +kernel)
  have hlisted : Text.lines (textOf (filmLines ++ (oneChapter.lines ++ [filmStream]))) =
      filmLines ++ (oneChapter.lines ++ [filmStream]) := lines_textOf (by decide +kernel)
  have hmedia : (ofText? (textOf (filmLines ++ [filmStream]))).map (·.descriptor.mediaType) =
      some .video := by
    rw [ofText?_eq, htext]
    decide +kernel
  obtain ⟨summary, hread, hvideo⟩ := Option.map_eq_some_iff.mp hmedia
  obtain ⟨other, hother, hcover, -, -, hinput⟩ :=
    chapters_law isListed_oneChapter (by decide +kernel) htext hlisted hread
  obtain ⟨-, hplain⟩ := hinput (by decide +kernel) title_oneChapter
  exact ⟨summary, other, hread, hother, hcover, hplain (by simp [hvideo])⟩

/-- **The title of a chapter is taken for that of the file.** -/
theorem chapter_title :
    (ofText? (textOf songLines)).map (·.descriptor.audioTracks.map (·.songName)) =
        some [some "One"] ∧
      (ofText? (textOf (songLines.take 5 ++ (oneChapter.lines ++ songLines.drop 5)))).map
        (·.descriptor.audioTracks.map (·.songName)) = some [some "Intro"] := by
  constructor
  · rw [ofText?_textOf (by decide +kernel)]
    decide +kernel
  · rw [ofText?_textOf (by decide +kernel)]
    decide +kernel

end StreamSummary

end MediaIndex
