import MediaIndex.Proofs.Cue.Words
import MediaIndex.Proofs.Number.Digits

/-!
# A written sheet is read back

A sheet is read line by line, and where a line puts what it says depends on the lines above it: on
the file that is open, and on the track. `Reads` tells what lines do to the sheet read so far. So
the proof follows the sheet: the lines of a track leave the track open with what they say
(`reads_track`), the lines of a section leave the section open with its tracks (`reads_section`),
and nothing in a sheet changes what was closed before.

> **`ofText_render`**: every sheet that can be written is read back from its text, whatever the
> width of the numbers.
-/

set_option autoImplicit false

namespace MediaIndex

/-! ## What can be written -/

/-- A text that is told from a blank one, and from the same text with blanks at its ends. -/
def PlainText (text : String) : Prop := Quotable text ∧ text ≠ "" ∧ Text.trim text = text

instance (text : String) : Decidable (PlainText text) := inferInstanceAs (Decidable (_ ∧ _))

/-- Credits whose texts can be written. -/
structure CueCredits.Writable (c : CueCredits) : Prop where
  title : ∀ v ∈ c.title, PlainText v
  performer : ∀ v ∈ c.performer, PlainText v
  songwriter : ∀ v ∈ c.songwriter, PlainText v

instance (c : CueCredits) : Decidable c.Writable :=
  decidable_of_iff (_ ∧ _ ∧ _) ⟨fun ⟨ht, hp, hs⟩ => ⟨ht, hp, hs⟩, fun ⟨ht, hp, hs⟩ => ⟨ht, hp, hs⟩⟩

/-- A track whose texts can be written. -/
structure CueTrack.Writable (t : CueTrack) : Prop where
  dataType : PlainWord t.dataType
  credits : t.credits.Writable

instance (t : CueTrack) : Decidable t.Writable :=
  decidable_of_iff (_ ∧ _) ⟨fun ⟨hd, hc⟩ => ⟨hd, hc⟩, fun ⟨hd, hc⟩ => ⟨hd, hc⟩⟩

/-- A section whose texts can be written. -/
structure CueSection.Writable (f : CueSection) : Prop where
  file : Quotable f.file
  fileType : PlainWord f.fileType
  tracks : ∀ t ∈ f.tracks, t.Writable

instance (f : CueSection) : Decidable f.Writable :=
  decidable_of_iff (_ ∧ _ ∧ _) ⟨fun ⟨hf, ht, hs⟩ => ⟨hf, ht, hs⟩, fun ⟨hf, ht, hs⟩ => ⟨hf, ht, hs⟩⟩

/-- A sheet whose texts can be written. -/
structure CueSheet.Writable (s : CueSheet) : Prop where
  genre : ∀ v ∈ s.genre, PlainText v
  date : ∀ v ∈ s.date, PlainText v
  credits : s.credits.Writable
  sections : ∀ f ∈ s.sections, f.Writable

instance (s : CueSheet) : Decidable s.Writable :=
  decidable_of_iff (_ ∧ _ ∧ _ ∧ _)
    ⟨fun ⟨hg, hd, hc, hs⟩ => ⟨hg, hd, hc, hs⟩, fun ⟨hg, hd, hc, hs⟩ => ⟨hg, hd, hc, hs⟩⟩

/-! ## Words -/

namespace CueLine

/-- What a number is written with needs no quotes. -/
theorem plain_of_isAsciiDigit {c : Char} (h : Number.isAsciiDigit c = true) :
    Text.isBlank c = false ∧ c ≠ '"' :=
  ⟨Number.isBlank_of_isAsciiDigit h, fun heq => absurd (heq ▸ h) (by decide)⟩

theorem plainWord_padNumber (width n : Nat) : PlainWord (padNumber width n) :=
  ⟨by simpa using Number.padNumber_ne_nil width n,
    fun _ hc => plain_of_isAsciiDigit (Number.isAsciiDigit_of_mem_padNumber hc)⟩

theorem number?_padNumber (width : Nat) (n : UInt32) :
    number? (padNumber width n.toNat) = some n := by
  have hlimit : n.toNat ≤ 0xffffffff := by
    have := n.toNat_lt
    omega
  rw [number?, Number.readNat?_padNumber hlimit, Option.map_some, UInt32.ofNat_toNat]

theorem plainWord_render (width : Nat) (t : CueTime) : PlainWord (t.render width) := by
  have hnumber := plainWord_padNumber width
  have htext : (t.render width).toList =
      (padNumber width t.minutes.toNat).toList ++ ':' :: (padNumber width t.seconds.toNat).toList ++
        ':' :: (padNumber width t.frames.toNat).toList := by
    simp [CueTime.render, String.intercalate_cons_cons]
  refine ⟨fun hnone => by simp [hnone] at htext, fun c hc => ?_⟩
  simp only [htext, List.mem_append, List.mem_cons] at hc
  rcases hc with (hc | rfl | hc) | rfl | hc
  · exact (hnumber _).2 c hc
  · decide
  · exact (hnumber _).2 c hc
  · decide
  · exact (hnumber _).2 c hc

theorem time?_render (width : Nat) (t : CueTime) : time? (t.render width) = some t := by
  have hpiece : ∀ n, Text.pieces ':' (padNumber width n) = [padNumber width n] := by
    intro n
    refine Text.pieces_of_notMem fun hmem => ?_
    exact absurd (Number.isAsciiDigit_of_mem_padNumber hmem) (by decide)
  have hpieces : Text.pieces ':' (t.render width) =
      [padNumber width t.minutes.toNat, padNumber width t.seconds.toNat,
        padNumber width t.frames.toNat] := by
    rw [CueTime.render, show ":" = String.ofList [':'] from rfl, Text.pieces_intercalate (by simp)]
    simp [hpiece]
  simp [time?, hpieces, number?_padNumber]

theorem value?_plainText {v : String} (h : PlainText v) : value? [v] = some v := by
  obtain ⟨-, hsome, htrim⟩ := h
  simp [value?, Text.nonBlank?, htrim, hsome]

end CueLine

/-! ## Lines -/

namespace CueSheet

/-- A line that is not cut in two, nor taken for nothing, nor for the mark in front of a text. -/
structure IsLine (line : String) : Prop where
  fits : Text.FitsLine line
  nonempty : line ≠ ""
  unmarked : Text.startsWith "\ufeff" line = false

/-- What lines make of the sheet that was read before them. -/
inductive Reads : CueSheet → List String → CueSheet → Prop
  | done {s : CueSheet} : Reads s [] s
  | line {s s' s'' : CueSheet} {line : String} {rest : List String} (hline : IsLine line)
      (hadd : s.addText line = .ok s') (hrest : Reads s' rest s'') : Reads s (line :: rest) s''

variable {s s' s'' : CueSheet}

theorem Reads.trans {ls ms : List String} (h : Reads s ls s') (h' : Reads s' ms s'') :
    Reads s (ls ++ ms) s'' := by
  induction h with
  | done => exact h'
  | line hline hadd _ ih => exact .line hline hadd (ih h')

theorem Reads.addLines {ls : List String} (h : Reads s ls s') (number : Nat) :
    s.addLines number ls = .ok s' := by
  induction h generalizing number with
  | done => rfl
  | line hline hadd _ ih =>
    rw [CueSheet.addLines, hadd]
    exact ih (number + 1)

theorem Reads.isLine {ls : List String} (h : Reads s ls s') : ∀ l ∈ ls, IsLine l := by
  induction h with
  | done => simp
  | line hline _ _ ih => exact List.forall_mem_cons.mpr ⟨hline, ih⟩

theorem startsWith_append {c : Char} {a : String} (ha : a ≠ "") (b : String) :
    Text.startsWith (String.ofList [c]) (a ++ b) = Text.startsWith (String.ofList [c]) a := by
  have hsome : a.toList ≠ [] := by simpa using ha
  obtain ⟨d, ds, hds⟩ := List.exists_cons_of_ne_nil hsome
  simp [Text.startsWith, hds, List.isPrefixOf]

/-- The text of lines is read as these lines are. -/
theorem Reads.ofText {ls : List String} (h : Reads {} ls s) :
    ofText (String.join (ls.map (· ++ "\n"))) = .ok s := by
  have hmark : dropByteOrderMark (String.join (ls.map (· ++ "\n"))) =
      String.join (ls.map (· ++ "\n")) := by
    have hunmarked : Text.startsWith "\ufeff" (String.join (ls.map (· ++ "\n"))) = false := by
      cases ls with
      | nil => decide
      | cons l ls =>
        have hl := h.isLine l List.mem_cons_self
        rw [List.map_cons, String.join_cons, String.append_assoc]
        exact (startsWith_append hl.nonempty _).trans hl.unmarked
    simp [dropByteOrderMark, Text.afterLead?, hunmarked]
  rw [CueSheet.ofText, hmark, Text.lines_join fun l hl => (h.isLine l hl).fits]
  exact h.addLines 1

/-- A line of written words does what its words say. -/
theorem reads_words {command : String} {texts words : List String}
    (hwords : List.Forall₂ Writes (command :: texts) words)
    (hcommand : command ≠ "" ∧ Text.startsWith "\ufeff" command = false)
    (hadd : (CueLine.ofWords words).bind s.add = .ok s') :
    Reads s [" ".intercalate (command :: texts)] s' := by
  obtain ⟨hfits, hsome⟩ := CueLine.fitsLine_intercalate hwords (by simp)
  have hunmarked : Text.startsWith "\ufeff" (" ".intercalate (command :: texts)) = false := by
    cases texts with
    | nil => simpa using hcommand.2
    | cons text texts =>
      rw [String.intercalate_cons_cons, String.append_assoc]
      exact (startsWith_append hcommand.1 _).trans hcommand.2
  refine .line ⟨hfits, hsome, hunmarked⟩ ?_ .done
  have hread : CueLine.ofText (" ".intercalate (command :: texts)) = CueLine.ofWords words := by
    rw [CueLine.ofText, CueLine.words?_intercalate hwords]
    simp
  rw [addText, hread, hadd]

/-! ## Sheets -/

/-- What is there gets a line, and what is not there needs none. -/
theorem reads_optionalLine {command : String} {more : List String} {value : Option String}
    (put : Option String → CueSheet) (say : Option String → CueLine)
    (hcommand : Text.startsWith "\ufeff" command = false)
    (hwords : ∀ word ∈ command :: more, PlainWord word)
    (hsay : ∀ v, CueLine.ofWords (command :: more ++ [v]) = .ok (say (CueLine.value? [v])))
    (hadd : ∀ v, (put none).add (say v) = .ok (put v)) (hvalue : ∀ v ∈ value, PlainText v) :
    Reads (put none) (optionalLine (command :: more) value) (put value) := by
  cases value with
  | none => exact .done
  | some v =>
    have hplain := hvalue v rfl
    have hcommands : List.Forall₂ Writes (command :: more) (command :: more) :=
      List.forall₂_same.mpr fun word hword => .plain (hwords word hword)
    have hline : List.Forall₂ Writes (command :: more ++ [quoted v]) (command :: more ++ [v]) :=
      List.rel_append hcommands (.cons (.quoted hplain.1) .nil)
    refine reads_words hline ⟨(hwords command List.mem_cons_self).1, hcommand⟩ ?_
    rw [hsay v, CueLine.value?_plainText hplain]
    exact hadd (some v)

/-- Credits land where a line of them puts its text. -/
theorem reads_credits (put : CueCredits → CueSheet) {c : CueCredits} (hc : c.Writable)
    (hadd : ∀ c field v, (put c).add (.credit field v) = .ok (put (c.set field v))) :
    Reads (put {}) c.lines (put c) := by
  have htitle : Reads (put {}) (optionalLine ["TITLE"] c.title) (put { title := c.title }) :=
    reads_optionalLine (fun v => put { title := v }) (.credit .title) (by decide) (by decide)
      (fun _ => rfl) (hadd _ .title) hc.title
  have hperformer : Reads (put { title := c.title }) (optionalLine ["PERFORMER"] c.performer)
      (put { title := c.title, performer := c.performer }) :=
    reads_optionalLine (fun v => put { title := c.title, performer := v }) (.credit .performer)
      (by decide) (by decide) (fun _ => rfl) (hadd _ .performer) hc.performer
  have hsongwriter : Reads (put { title := c.title, performer := c.performer })
      (optionalLine ["SONGWRITER"] c.songwriter) (put c) :=
    reads_optionalLine (fun v => put { c with songwriter := v }) (.credit .songwriter)
      (by decide) (by decide) (fun _ => rfl) (hadd _ .songwriter) hc.songwriter
  exact (htitle.trans hperformer).trans hsongwriter

/-- Items that are added at the end, one after the other, are there in the end. -/
theorem reads_flatMap {α : Type} (put : List α → CueSheet) {lines : α → List String}
    {items : List α}
    (h : ∀ before, ∀ a ∈ items, Reads (put before) (lines a) (put (before ++ [a]))) :
    Reads (put []) (items.flatMap lines) (put items) := by
  have hfrom : ∀ before, Reads (put before) (items.flatMap lines) (put (before ++ items)) := by
    induction items with
    | nil =>
      intro before
      rw [List.append_nil]
      exact .done
    | cons a items ih =>
      intro before
      have ha := h before a List.mem_cons_self
      have hitems := ih (fun before b hb => h before b (List.mem_cons_of_mem a hb)) (before ++ [a])
      rw [List.append_assoc] at hitems
      exact ha.trans hitems
  exact hfrom []

variable {width : Nat} (f : CueSection) (t : CueTrack)

/-- A sheet with one section more, which is open. -/
def withSection (s : CueSheet) (f : CueSection) : CueSheet :=
  { s with sections := s.sections ++ [f] }

/-- A sheet with one section more and in it one track more, which is open. -/
def withTrack (s : CueSheet) (f : CueSection) (t : CueTrack) : CueSheet :=
  s.withSection { f with tracks := f.tracks ++ [t] }

theorem modifyTrack_withTrack (g : CueTrack → CueTrack) :
    (s.withTrack f t).modifyTrack g = s.withTrack f (g t) := by
  simp only [withTrack, withSection, modifyTrack, modifyFile, modifyLast_append]

theorem inTrack_withTrack : (s.withTrack f t).inTrack = true := by
  simp [withTrack, withSection, inTrack]

theorem add_track (number : UInt32) (dataType : String) :
    (s.withSection f).add (.track number dataType) =
      .ok (s.withTrack f ⟨number, dataType, {}, []⟩) := by
  simp [withSection, withTrack, add, modifyFile, modifyLast_append]

theorem add_credit (field : CueCredit) (value : Option String) :
    (s.withTrack f t).add (.credit field value) =
      .ok (s.withTrack f { t with credits := t.credits.set field value }) := by
  rw [add, inTrack_withTrack, if_pos rfl, modifyTrack_withTrack]

theorem add_index (index : CueIndex) :
    (s.withTrack f t).add (.index index) =
      .ok (s.withTrack f { t with indices := t.indices ++ [index] }) := by
  rw [add, inTrack_withTrack, if_pos rfl, modifyTrack_withTrack]

theorem reads_index (index : CueIndex) :
    Reads (s.withTrack f t) [index.line width]
      (s.withTrack f { t with indices := t.indices ++ [index] }) := by
  have hnumber := CueLine.plainWord_padNumber width index.number.toNat
  have hposition := CueLine.plainWord_render width index.position
  refine reads_words (.cons (.plain (by decide)) (.cons (.plain hnumber)
    (.cons (.plain hposition) .nil))) (by decide) ?_
  have hwords : CueLine.ofWords ["INDEX", padNumber width index.number.toNat,
      index.position.render width] = .ok (.index index) := by
    have hread : CueLine.index? [padNumber width index.number.toNat,
        index.position.render width] = .ok (.index index) := by
      simp [CueLine.index?, CueLine.number?_padNumber, CueLine.time?_render]
    exact hread
  rw [hwords]
  exact add_index f t index

/-- The lines of a track add the track. -/
theorem reads_track {t : CueTrack} (ht : t.Writable) :
    Reads (s.withSection f) (t.lines width) (s.withTrack f t) := by
  have hopen : Reads (s.withSection f)
      [" ".intercalate ["TRACK", padNumber width t.number.toNat, t.dataType]]
      (s.withTrack f ⟨t.number, t.dataType, {}, []⟩) := by
    have hnumber := CueLine.plainWord_padNumber width t.number.toNat
    refine reads_words (.cons (.plain (by decide)) (.cons (.plain hnumber)
      (.cons (.plain ht.dataType) .nil))) (by decide) ?_
    have hread : CueLine.track? [padNumber width t.number.toNat, t.dataType] =
        .ok (.track t.number t.dataType) := by
      simp [CueLine.track?, CueLine.number?_padNumber]
    rw [show CueLine.ofWords ["TRACK", padNumber width t.number.toNat, t.dataType] = _ from hread]
    exact add_track f t.number t.dataType
  have hcredits := reads_credits (fun c => s.withTrack f ⟨t.number, t.dataType, c, []⟩)
    ht.credits fun c field v => add_credit f ⟨t.number, t.dataType, c, []⟩ field v
  have hindices : Reads (s.withTrack f ⟨t.number, t.dataType, t.credits, []⟩)
      (t.indices.flatMap fun index => [index.line width]) (s.withTrack f t) :=
    reads_flatMap (fun is => s.withTrack f ⟨t.number, t.dataType, t.credits, is⟩)
      fun before index _ => reads_index f ⟨t.number, t.dataType, t.credits, before⟩ index
  rw [← List.map_eq_flatMap] at hindices
  exact hopen.trans (hcredits.trans hindices)

/-- The lines of a section add the section. -/
theorem reads_section {f : CueSection} (hf : f.Writable) :
    Reads s (f.lines width) (s.withSection f) := by
  have hopen : Reads s [" ".intercalate ["FILE", quoted f.file, f.fileType]]
      (s.withSection ⟨f.file, f.fileType, []⟩) := by
    refine reads_words (.cons (.plain (by decide)) (.cons (.quoted hf.file)
      (.cons (.plain hf.fileType) .nil))) (by decide) ?_
    rfl
  have htracks : Reads (s.withSection ⟨f.file, f.fileType, []⟩)
      (f.tracks.flatMap (CueTrack.lines width)) (s.withSection f) :=
    reads_flatMap (fun ts => s.withSection ⟨f.file, f.fileType, ts⟩)
      fun before t ht => reads_track ⟨f.file, f.fileType, before⟩ (hf.tracks t ht)
  exact hopen.trans htracks

/-- The lines of a sheet are read as the sheet. -/
theorem reads_lines (hs : s.Writable) (width : Nat) : Reads {} (s.lines width) s := by
  have hgenre : Reads {} (optionalLine ["REM", "GENRE"] s.genre) { genre := s.genre } :=
    reads_optionalLine (fun v => { genre := v }) .genre (by decide) (by decide)
      (fun _ => rfl) (fun _ => rfl) hs.genre
  have hdate : Reads { genre := s.genre } (optionalLine ["REM", "DATE"] s.date)
      { genre := s.genre, date := s.date } :=
    reads_optionalLine (fun v => { genre := s.genre, date := v }) .date (by decide)
      (by decide) (fun _ => rfl) (fun _ => rfl) hs.date
  have hcredits := reads_credits
    (fun c => { credits := c, genre := s.genre, date := s.date }) hs.credits
    fun _ _ _ => rfl
  have hsections : Reads { credits := s.credits, genre := s.genre, date := s.date }
      (s.sections.flatMap (CueSection.lines width)) s :=
    reads_flatMap (fun fs => { s with sections := fs })
      fun before f hf => reads_section (hs.sections f hf)
  exact ((hgenre.trans hdate).trans hcredits).trans hsections

/-- **A written sheet is read back**: every field lands in the sheet, the section and the track that
it was written for, whatever the width of the numbers. -/
theorem ofText_render (s : CueSheet) (hs : s.Writable) (width : Nat) :
    ofText (s.render width) = .ok s :=
  (reads_lines hs width).ofText

/-- A sheet of three files: one with two tracks, one with a track that has no index, and one that
is not cut. -/
def threeSides : CueSheet where
  credits := { title := some "Live: The \\ Tapes", performer := some "Trio" }
  date := some "1998-05-01"
  sections := [
    ⟨"side a.wav", "WAVE", [
      ⟨1, "AUDIO", { title := some "TRACK 2", songwriter := some "N. N." },
        [⟨0, ⟨0, 0, 0⟩⟩, ⟨1, ⟨0, 2, 33⟩⟩]⟩,
      ⟨2, "AUDIO", {}, [⟨1, ⟨104, 59, 74⟩⟩]⟩]⟩,
    ⟨" side b.wav", "WAVE", [⟨3, "MODE1/2352", { performer := some "Guest" }, []⟩]⟩,
    ⟨"", "BINARY", []⟩]

theorem ofText_render_threeSides :
    threeSides.Writable ∧ ofText (threeSides.render 2) = .ok threeSides :=
  have hwritable : threeSides.Writable := by decide
  ⟨hwritable, ofText_render threeSides hwritable 2⟩

example : threeSides.lines 2 = [
    "REM DATE \"1998-05-01\"", "TITLE \"Live: The \\ Tapes\"", "PERFORMER \"Trio\"",
    "FILE \"side a.wav\" WAVE",
    "TRACK 01 AUDIO", "TITLE \"TRACK 2\"", "SONGWRITER \"N. N.\"",
    "INDEX 00 00:00:00", "INDEX 01 00:02:33",
    "TRACK 02 AUDIO", "INDEX 01 104:59:74",
    "FILE \" side b.wav\" WAVE", "TRACK 03 MODE1/2352", "PERFORMER \"Guest\"",
    "FILE \"\" BINARY"] := by decide

end CueSheet

end MediaIndex
