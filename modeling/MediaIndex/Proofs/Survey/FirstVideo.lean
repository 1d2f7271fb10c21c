import MediaIndex.Proofs.Survey.Mirror

/-!
# The first video stream

A descriptor has room for one video, so the fields of a second one are passed over. Not all fields
of an image are: its format is written down as that of the video, and so is the size of its frame
while only one video has begun.

> **`videoFacts_run`**: whatever comes after the first video stream of later videos and of images,
> in any order, what is known of the video changes only where an image writes over it
> (`imageWrites`). That is its codec and the size of its frame; all the rest is as it was, and
> without fields of images nothing changes.
-/

set_option autoImplicit false

namespace MediaIndex

/-- What a descriptor tells of the video. -/
structure VideoFacts where
  codec : Option Format
  profile : Option String
  level : Option Level
  width : Option UInt32
  height : Option UInt32
  containerAspect : Option String
  trackAspect : Option String
  discAspect : Option String
  stereoscopy : Option String
  scanType : Option ScanType
  scanOrder : Option ScanOrder
  frameRate : Option String
  frameRateMode : Option RateMode
  bitDepth : Option UInt8
  referenceFrames : Option UInt8
  deriving DecidableEq

def Descriptor.videoFacts (d : Descriptor) : VideoFacts where
  codec := d.videoCodec
  profile := d.videoProfile
  level := d.videoLevel
  width := d.width
  height := d.height
  containerAspect := d.containerAspect
  trackAspect := d.trackAspect
  discAspect := d.discAspect
  stereoscopy := d.stereoscopy
  scanType := d.scanType
  scanOrder := d.scanOrder
  frameRate := d.frameRate
  frameRateMode := d.frameRateMode
  bitDepth := d.videoBitDepth
  referenceFrames := d.referenceFrames

/-- What an image may write over. -/
inductive ImageWrite where
  | codec (f : Format)
  | width (pixels : Option UInt32)
  | height (pixels : Option UInt32)
  deriving DecidableEq

namespace VideoFacts

/-- What is known of the video after a write. -/
def written (v : VideoFacts) : ImageWrite → VideoFacts
  | .codec f => { v with codec := some f }
  | .width pixels => { v with width := pixels }
  | .height pixels => { v with height := pixels }

/-- What no image writes over. -/
def lasting (v : VideoFacts) : VideoFacts :=
  { v with codec := none, width := none, height := none }

theorem lasting_written (v : VideoFacts) (w : ImageWrite) : (v.written w).lasting = v.lasting := by
  cases w <;> rfl

theorem lasting_foldl_written (v : VideoFacts) (writes : List ImageWrite) :
    (writes.foldl written v).lasting = v.lasting := by
  induction writes generalizing v with
  | nil => rfl
  | cons w rest ih => exact (ih (v.written w)).trans (v.lasting_written w)

end VideoFacts

namespace SurveyEvent

/-- Whether an event is about an image or about a later video than the first, where a number of
videos have begun before. -/
def isOfLater (videos : Nat) : SurveyEvent → Bool
  | .begin kind => kind == .video || kind == .image
  | .field kind _ _ => kind == .image || (kind == .video && decide (2 ≤ videos))
  | _ => false

/-- How many videos begin. -/
def begun (e : SurveyEvent) : Nat := if e.beginsVideo then 1 else 0

end SurveyEvent

/-- Whether all events of a row are about images and later videos. -/
def allOfLater : Nat → List SurveyEvent → Bool
  | _, [] => true
  | videos, e :: rest => e.isOfLater videos && allOfLater (videos + e.begun) rest

namespace Survey

variable {s : Survey} {kind : StreamKind} {name : FieldName} {value : String}

/-- The codec that a token of an image writes down, if it names one. -/
def imageCodec? (s : Survey) (value : String) : Option ImageWrite :=
  match (recognise .image value s.known).meaning with
  | some (.format f) => some (.codec f)
  | _ => none

/-- What a field of an image writes over. The size of a frame is taken while at most one video has
begun, and a codec at any time. -/
def imageWrite? (s : Survey) (name : FieldName) (value : String) : Option ImageWrite :=
  match name with
  | .format | .formatVersion | .formatProfile | .formatFeatures => s.imageCodec? value
  | .codecId => if s.hasCodec .image then none else s.imageCodec? value
  | .width => if s.atFirstVideo then some (.width (Quantity.dimension? value)) else none
  | .height => if s.atFirstVideo then some (.height (Quantity.dimension? value)) else none
  | _ => none

/-- What an event writes over. -/
def stepWrites (s : Survey) : SurveyEvent → List ImageWrite
  | .field .image name value => ((Text.nonBlank? value).bind (s.imageWrite? name)).toList
  | _ => []

/-- What the images of a row of events write over, in order. -/
def imageWrites : Survey → List SurveyEvent → List ImageWrite
  | _, [] => []
  | s, e :: rest => s.stepWrites e ++ imageWrites (s.step e) rest

/-! ## Later videos -/

theorem describeVideo_of_later (hlater : s.atFirstVideo = false) (f : Descriptor → Descriptor) :
    s.describeVideo f = s := by
  rw [describeVideo, hlater]
  rfl

theorem found_settleToken (s : Survey) (kind : StreamKind) (r : Recognition) :
    (s.settleToken kind r).found.videoFacts = s.found.videoFacts ∧
      (s.settleToken kind r).atFirstVideo = s.atFirstVideo := by
  unfold settleToken
  split <;> exact ⟨rfl, rfl⟩

theorem videoFacts_classify_later (hlater : s.atFirstVideo = false) (value : String) :
    (s.classify .video value).found.videoFacts = s.found.videoFacts := by
  generalize hr : recognise .video value s.known = r
  obtain ⟨hfacts, hfirst⟩ := found_settleToken s .video r
  have hsettled : (s.settleToken .video r).atFirstVideo = false := hfirst.trans hlater
  rw [classify_eq s .video value hr]
  split
  · rfl
  · split
    · rename_i m _
      cases m with
      | format f =>
        rw [describeMeaning, describeFormat, describeVideo_of_later hsettled]
        exact hfacts
      | subtitle f => exact hfacts
      | profileLevel p =>
        rw [describeMeaning, describeVideo_of_later hsettled]
        exact hfacts
    · exact hfacts

theorem videoFacts_field_later (hlater : s.atFirstVideo = false) (name : FieldName)
    (value : String) : (s.field .video name value).found.videoFacts = s.found.videoFacts := by
  unfold field
  split
  · rfl
  · rename_i value _
    unfold setField
    cases name with
    | extra key => rfl
    | format | formatVersion | formatFeatures => exact videoFacts_classify_later hlater value
    | formatProfile =>
      dsimp only
      rw [if_pos rfl, describeVideo_of_later hlater]
    | codecId =>
      dsimp only
      split
      · rfl
      · exact videoFacts_classify_later hlater value
    | duration | bitrate =>
      dsimp only
      split
      · simp only [Descriptor.videoFacts, describe]
      · rfl
    | width | height => exact congrArg (·.found.videoFacts) (describeVideo_of_later hlater _)
    | _ =>
      dsimp only
      rw [hlater]
      rfl

/-! ## Images -/

theorem videoFacts_classify_image (s : Survey) (value : String) :
    (s.classify .image value).found.videoFacts =
      (s.imageCodec? value).toList.foldl VideoFacts.written s.found.videoFacts := by
  unfold imageCodec?
  generalize hr : recognise .image value s.known = r
  obtain ⟨hfacts, -⟩ := found_settleToken s .image r
  rw [classify_eq s .image value hr]
  obtain ⟨meaning, container⟩ := r
  cases meaning with
  | none =>
    dsimp only
    split
    · rfl
    · exact hfacts
  | some m =>
    rw [if_neg (by simp [Recognition.isEmpty])]
    cases m with
    | format f =>
      dsimp only [describeMeaning, describeFormat, describe]
      rw [Option.toList_some, List.foldl_cons, List.foldl_nil, ← hfacts]
      rfl
    | subtitle f => exact hfacts
    | profileLevel p =>
      obtain ⟨hvideo, -⟩ := profile_of_recognise (congrArg Recognition.meaning hr)
      exact absurd hvideo (by decide)

theorem videoFacts_setField_image (s : Survey) (name : FieldName) (value : String) :
    (s.setField .image name value).found.videoFacts =
      (s.imageWrite? name value).toList.foldl VideoFacts.written s.found.videoFacts := by
  unfold setField imageWrite?
  cases name with
  | format | formatVersion | formatFeatures =>
    dsimp only
    exact videoFacts_classify_image s value
  | formatProfile =>
    dsimp only
    rw [if_neg (by simp)]
    exact videoFacts_classify_image s value
  | codecId =>
    dsimp only
    by_cases hcodec : s.hasCodec .image = true
    · rw [if_pos hcodec, if_pos hcodec]
      rfl
    · rw [if_neg hcodec, if_neg hcodec]
      exact videoFacts_classify_image s value
  | duration =>
    dsimp only
    split
    · simp only [Descriptor.videoFacts, describe, Option.toList_none, List.foldl_nil]
    · rfl
  | width | height =>
    dsimp only [describeVideo]
    cases s.atFirstVideo with
    | true =>
      simp only [if_true, Descriptor.videoFacts, describe, Option.toList_some, List.foldl_cons,
        List.foldl_nil, VideoFacts.written]
    | false => rfl
  | _ => rfl

theorem videoFacts_field_image (s : Survey) (name : FieldName) (value : String) :
    (s.field .image name value).found.videoFacts =
      (s.stepWrites (.field .image name value)).foldl VideoFacts.written s.found.videoFacts := by
  rw [field, stepWrites]
  cases Text.nonBlank? value with
  | none => rfl
  | some value => exact videoFacts_setField_image s name value

/-! ## Rows of events -/

theorem videoTrackCount_field (s : Survey) (kind : StreamKind) (name : FieldName)
    (value : String) :
    (s.field kind name value).found.videoTrackCount = s.found.videoTrackCount :=
  (reads_field s kind name value).streams

theorem atFirstVideo_of_two_le (h : 2 ≤ s.found.videoTrackCount.toNat) :
    s.atFirstVideo = false := by
  rw [atFirstVideo, decide_eq_false_iff_not, UInt32.le_iff_toNat_le]
  show ¬_ ≤ 1
  omega

/-- **What one event does** to what is known of the video, and to the number of videos. -/
theorem videoFacts_step {e : SurveyEvent}
    (hlater : e.isOfLater s.found.videoTrackCount.toNat = true)
    (hroom : s.found.videoTrackCount.toNat + e.begun < UInt32.size) :
    (s.step e).found.videoFacts = (s.stepWrites e).foldl VideoFacts.written s.found.videoFacts ∧
      (s.step e).found.videoTrackCount.toNat = s.found.videoTrackCount.toNat + e.begun := by
  cases e with
  | begin kind =>
    cases kind with
    | video =>
      refine ⟨rfl, ?_⟩
      show (s.found.videoTrackCount + 1).toNat = _
      rw [UInt32.toNat_add]
      exact Nat.mod_eq_of_lt hroom
    | image => exact ⟨rfl, rfl⟩
    | _ => exact absurd hlater (by simp [SurveyEvent.isOfLater])
  | field kind name value =>
    rw [step]
    refine ⟨?_, congrArg UInt32.toNat (videoTrackCount_field s kind name value)⟩
    cases kind with
    | video =>
      have hsecond : 2 ≤ s.found.videoTrackCount.toNat := by
        simpa [SurveyEvent.isOfLater] using hlater
      exact videoFacts_field_later (atFirstVideo_of_two_le hsecond) name value
    | image => exact videoFacts_field_image s name value
    | _ => exact absurd hlater (by simp [SurveyEvent.isOfLater])
  | _ => exact absurd hlater (by simp [SurveyEvent.isOfLater])

theorem videoFacts_run_writes {events : List SurveyEvent}
    (hlater : allOfLater s.found.videoTrackCount.toNat events = true)
    (hroom : s.found.videoTrackCount.toNat + events.countP SurveyEvent.beginsVideo < UInt32.size) :
    (s.run events).found.videoFacts =
      (s.imageWrites events).foldl VideoFacts.written s.found.videoFacts := by
  induction events generalizing s with
  | nil => rfl
  | cons e rest ih =>
    obtain ⟨hhead, hrest⟩ := Bool.and_eq_true_iff.mp hlater
    have hcountP : (e :: rest).countP SurveyEvent.beginsVideo =
        rest.countP SurveyEvent.beginsVideo + e.begun := List.countP_cons
    obtain ⟨hfacts, hcount⟩ := videoFacts_step hhead (by omega)
    rw [imageWrites, List.foldl_append, ← hfacts]
    exact ih (by rw [hcount]; exact hrest) (by omega)

theorem imageWrites_of_no_images (s : Survey) {events : List SurveyEvent}
    (hnone : ∀ e ∈ events, e.isImageField = false) : s.imageWrites events = [] := by
  induction events generalizing s with
  | nil => rfl
  | cons e rest ih =>
    obtain ⟨he, hrest⟩ := List.forall_mem_cons.mp hnone
    rw [imageWrites, ih (s.step e) hrest, List.append_nil]
    unfold stepWrites
    split
    · exact absurd he (by simp [SurveyEvent.isImageField])
    · rfl

/-- **What is known of the video after the first video stream** changes only where an image writes
over it. -/
theorem videoFacts_run (s : Survey) (events : List SurveyEvent)
    (hlater : allOfLater s.found.videoTrackCount.toNat events = true)
    (hroom : s.found.videoTrackCount.toNat + events.countP SurveyEvent.beginsVideo < UInt32.size) :
    (s.run events).found.videoFacts =
        (s.imageWrites events).foldl VideoFacts.written s.found.videoFacts ∧
      (s.run events).found.videoFacts.lasting = s.found.videoFacts.lasting ∧
      ((∀ e ∈ events, e.isImageField = false) →
        (s.run events).found.videoFacts = s.found.videoFacts) := by
  have hwrites := videoFacts_run_writes hlater hroom
  refine ⟨hwrites, ?_, fun hnone => ?_⟩
  · rw [hwrites, VideoFacts.lasting_foldl_written]
  · rw [hwrites, imageWrites_of_no_images s hnone, List.foldl_nil]

/-- A survey of a movie whose first video was told. -/
def movie : Survey :=
  start.run [.begin .video, .field .video .format "AVC", .field .video .width "1920"]

/-- A second video, and an image of which nothing is told. -/
def companions : List SurveyEvent :=
  [.begin .image, .begin .video, .field .video .format "HEVC", .field .video .width "640"]

theorem videoFacts_run_movie :
    allOfLater movie.found.videoTrackCount.toNat companions = true ∧
    (movie.run companions).found.videoFacts =
      (movie.imageWrites companions).foldl VideoFacts.written movie.found.videoFacts ∧
    (movie.run companions).found.videoFacts = movie.found.videoFacts ∧
    movie.found.videoCodec = some .h264 ∧ movie.found.width = some 1920 := by
  have hlater : allOfLater movie.found.videoTrackCount.toNat companions = true := by
    decide +kernel
  obtain ⟨hwrites, -, hsame⟩ := videoFacts_run movie companions hlater (by decide +kernel)
  exact ⟨hlater, hwrites, hsame (by decide), by decide +kernel, by decide +kernel⟩

/-- A cover beside the only video takes the place of its codec and of its width. -/
theorem cover_written_over :
    let cover : List SurveyEvent :=
      [.begin .image, .field .image .format "PNG", .field .image .width "300"]
    allOfLater movie.found.videoTrackCount.toNat cover = true ∧
    movie.found.videoTrackCount = 1 ∧
    movie.found.videoCodec = some .h264 ∧ (movie.run cover).found.videoCodec = some .png ∧
    movie.found.width = some 1920 ∧ (movie.run cover).found.width = some 300 := by
  decide +kernel

end Survey

end MediaIndex
