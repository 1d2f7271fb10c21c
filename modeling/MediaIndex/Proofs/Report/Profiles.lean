import MediaIndex.Proofs.Number.Digits
import MediaIndex.Proofs.Text.Cuts
import MediaIndex.Report.TrackList

/-!
# Profiles put together and taken apart

A track list gives the profile of a video, its level and its tier in fields of their own, and they
are put together into one text, as other tools write it. What is read of a profile is read from that
text.

> **`profile_law`**: the level that is read is the one that the level field alone would give, and
> the profile is that of its field; where no level is read, the whole text is the profile.

A tier is written behind a second mark and a further alternative behind a slash, and the level ends
at the first of either (`ofText_marked`). The letter that is put before a number is the one that a
level of that form may have anyway; where the levels of a family have names, no number is one, with
the letter or without it (`ofToken?_letter`).
-/

set_option autoImplicit false

namespace MediaIndex

/-! ## Numbers with a letter -/

namespace Level

/-- Whether a token is a number, or one behind the letter that introduces it. -/
def isNumbered (token : String) : Bool :=
  match token.toList.map Char.toLower with
  | 'l' :: d :: _ => Number.isAsciiDigit d
  | d :: _ => Number.isAsciiDigit d
  | [] => false

theorem lookUp_of_isNumbered {α : Type} {codes : List (String × α)} {token : String}
    (hcodes : codes.all (fun entry => !isNumbered entry.1) = true)
    (h : isNumbered token = true) : lookUp codes token = none := by
  rw [lookUp, Option.map_eq_none_iff, List.find?_eq_none]
  intro entry hentry hsame
  have hcode := List.all_eq_true.mp hcodes entry hentry
  have hletters : entry.1.toList.map Char.toLower = token.toList.map Char.toLower :=
    beq_iff_eq.mp hsame
  rw [isNumbered, hletters, ← isNumbered, h] at hcode
  exact absurd hcode (by simp)

theorem ofToken?_trim (codec : Format) (token : String) :
    ofToken? codec (Text.trim token) = ofToken? codec token := by
  unfold ofToken?
  rw [Text.trim_trim]

section

variable {d : Char} {rest : List Char} (hd : Number.isAsciiDigit d = true)

include hd

theorem isNumbered_digit : isNumbered (String.ofList (d :: rest)) = true := by
  have hl : d ≠ 'l' := by
    rintro rfl
    exact absurd hd (by decide)
  rw [isNumbered, String.toList_ofList, List.map_cons, Number.toLower_of_isAsciiDigit hd]
  split
  · rename_i heq
    exact absurd (List.cons.inj heq).1 hl
  · rename_i heq
    rw [← (List.cons.inj heq).1, hd]
  · rename_i heq
    exact absurd heq (by simp)

theorem isNumbered_letter : isNumbered (String.ofList ('L' :: d :: rest)) = true := by
  rw [isNumbered, String.toList_ofList, List.map_cons, List.map_cons,
    Number.toLower_of_isAsciiDigit hd]
  exact hd

theorem dropLetter_digit : dropLetter (String.ofList (d :: rest)) = String.ofList (d :: rest) := by
  unfold dropLetter
  rw [String.toList_ofList]
  split
  · rename_i heq
    obtain rfl := (List.cons.inj heq).1
    exact absurd hd (by decide)
  · rename_i heq
    obtain rfl := (List.cons.inj heq).1
    exact absurd hd (by decide)
  · rfl

theorem dropLetter_letter :
    dropLetter (String.ofList ('L' :: d :: rest)) = String.ofList (d :: rest) := by
  unfold dropLetter
  rw [String.toList_ofList]
  exact if_pos hd

/-- **The letter before a number makes no difference**, for whatever codec a level is read. -/
theorem ofToken?_letter (codec : Format) :
    ofToken? codec (String.ofList ('L' :: d :: rest)) =
      ofToken? codec (String.ofList (d :: rest)) := by
  have hd' : Text.isBlank d = false := Number.isBlank_of_isAsciiDigit hd
  have hletter : Text.trim (String.ofList ('L' :: d :: rest)) =
      String.ofList ('L' :: d :: Text.dropEndWhile Text.isBlank rest) := by
    rw [Text.trim, String.toList_ofList]
    exact congrArg String.ofList (Text.trimChars_append_cons hd' ['L'] rest)
  have hnumber : Text.trim (String.ofList (d :: rest)) =
      String.ofList (d :: Text.dropEndWhile Text.isBlank rest) := by
    rw [Text.trim, String.toList_ofList]
    exact congrArg String.ofList (Text.trimChars_append_cons hd' [] rest)
  have hmpeg2 : ∀ token, isNumbered token = true → lookUp Mpeg2Level.codes token = none :=
    fun token => lookUp_of_isNumbered (by decide +kernel)
  have hvc1 : ∀ token, isNumbered token = true → lookUp Vc1Level.names token = none :=
    fun token => lookUp_of_isNumbered (by decide +kernel)
  unfold ofToken?
  rw [hletter, hnumber]
  simp only [dropLetter_letter hd, dropLetter_digit hd, hmpeg2 _ (isNumbered_letter hd),
    hmpeg2 _ (isNumbered_digit hd), hvc1 _ (isNumbered_letter hd), hvc1 _ (isNumbered_digit hd)]

end

end Level

/-! ## A profile before a mark -/

/-- A text up to its first slash or at sign. -/
def untilMark (s : String) : String :=
  String.ofList (s.toList.takeWhile fun c => c != '/' && c != '@')

theorem Level.ofToken?_untilMark_letter {level : String}
    (h : (level.toList.head?).any Number.isAsciiDigit = true) (codec : Format) :
    ofToken? codec (untilMark ("L" ++ level)) = ofToken? codec (untilMark level) := by
  obtain ⟨d, hd, hdigit⟩ := (Option.any_eq_true _ _).mp h
  obtain ⟨rest, hrest⟩ := List.head?_eq_some_iff.mp hd
  have hplain : (d != '/' && d != '@') = true := by
    rw [Bool.and_eq_true, bne_iff_ne, bne_iff_ne]
    constructor
    · rintro rfl
      exact absurd hdigit (by decide)
    · rintro rfl
      exact absurd hdigit (by decide)
  have hchars : ("L" ++ level).toList = 'L' :: d :: rest := by
    rw [String.toList_append, hrest]
    rfl
  rw [untilMark, untilMark, hchars, hrest, List.takeWhile_cons, if_pos (by decide),
    List.takeWhile_cons, if_pos hplain, ofToken?_letter hdigit]

theorem untilMark_append (s : String) {t : String} (h : t = "" ∨ t.toList.head? = some '@') :
    untilMark (s ++ t) = untilMark s := by
  have hnothing : t.toList.takeWhile (fun c => c != '/' && c != '@') = [] := by
    rcases h with rfl | hmark
    · rfl
    · obtain ⟨rest, hrest⟩ := List.head?_eq_some_iff.mp hmark
      rw [hrest]
      rfl
  rw [untilMark, untilMark, String.toList_append, List.takeWhile_append, hnothing]
  split
  · rename_i hall
    rw [List.append_nil, (List.takeWhile_prefix _).eq_of_length hall]
  · rfl

namespace ProfileLevel

theorem profile_ofText {codec : Option Format} {raw : String}
    (h : (ofText codec raw).level = none) : (ofText codec raw).profile = Text.trim raw := by
  unfold ofText at h ⊢
  dsimp only at h ⊢
  split
  · rename_i profile level rest codec' hpieces
    simp only [hpieces] at h
    split
    · rename_i hlevel
      rw [hlevel] at h
      exact absurd h (by simp)
    · rfl
  · rfl

/-- **A profile before an at sign** is followed by its level, up to the next mark of any kind. -/
theorem ofText_marked (codec : Format) {profile : String} (hslash : '/' ∉ profile.toList)
    (hat : '@' ∉ profile.toList) (rest : String) :
    ofText (some codec) (profile ++ "@" ++ rest) =
      match Level.ofToken? codec (untilMark rest) with
      | some level => ⟨Text.trim profile, some level⟩
      | none => ⟨Text.trim (profile ++ "@" ++ rest), none⟩ := by
  have hchars : (profile ++ "@" ++ rest).toList = profile.toList ++ '@' :: rest.toList := by
    simp
  have hfirst : Text.beforeChar '/' (profile.toList ++ '@' :: rest.toList) =
      profile.toList ++ '@' :: rest.toList.takeWhile (· != '/') := by
    have hplain : ∀ c ∈ profile.toList, (c != '/') = true := by
      intro c hc
      simpa using fun heq : c = '/' => hslash (heq ▸ hc)
    rw [Text.beforeChar, List.takeWhile_append_of_pos hplain]
    rfl
  generalize hlevel : rest.toList.takeWhile (· != '/') = level at hfirst
  obtain ⟨pieces, hpieces⟩ := Text.exists_cutWhere (p := (· == '@'))
    (Text.dropEndWhile Text.isBlank level)
  have hcut : Text.cutWhere (· == '@') (Text.trimChars (profile.toList ++ '@' :: level)) =
      profile.toList.dropWhile Text.isBlank ::
        (Text.dropEndWhile Text.isBlank level).takeWhile (! · == '@') :: pieces := by
    have hplain : ∀ c ∈ profile.toList.dropWhile Text.isBlank, (c == '@') = false := by
      intro c hc
      have hmem := (List.dropWhile_sublist Text.isBlank).subset hc
      simpa using fun heq : c = '@' => hat (heq ▸ hmem)
    rw [Text.trimChars_append_cons (by decide), Text.cutWhere_append (by simp),
      Text.cutWhere_of_none hplain, hpieces, List.singleton_append]
  have htoken : Level.ofToken? codec (Text.trim (String.ofList
      ((Text.dropEndWhile Text.isBlank level).takeWhile (! · == '@')))) =
        Level.ofToken? codec (untilMark rest) := by
    have hmark : level.takeWhile (! · == '@') =
        rest.toList.takeWhile fun c => c != '/' && c != '@' := by
      rw [← hlevel, List.takeWhile_takeWhile]
      congr 1
      funext c
      rw [Bool.eq_iff_iff]
      simp [and_comm]
    rw [Text.trim, String.toList_ofList, Text.trimChars_takeWhile_dropEndWhile, hmark,
      ← Level.ofToken?_trim codec (untilMark rest), untilMark, Text.trim, String.toList_ofList]
  unfold ofText
  have hprofile :
      Text.trim (String.ofList (profile.toList.dropWhile Text.isBlank)) = Text.trim profile := by
    rw [Text.trim_dropWhile, String.ofList_toList]
  simp only [hchars, hfirst, hcut, htoken]
  cases Level.ofToken? codec (untilMark rest) with
  | none => rfl
  | some level => exact congrArg (ProfileLevel.mk · (some level)) hprofile

end ProfileLevel

namespace TrackList

/-- What is put behind the at sign, and that it is read as the level alone would be. -/
theorem assembleProfile_eq (profile level : String) (tier : Option String) :
    ∃ rest, assembleProfile profile (some level) tier = profile ++ "@" ++ rest ∧
      ∀ codec, Level.ofToken? codec (untilMark rest) = Level.ofToken? codec (untilMark level) := by
  -- a tier stands behind an at sign of its own
  obtain ⟨behind, hbehind, htier⟩ : ∃ behind : String,
      (behind = "" ∨ behind.toList.head? = some '@') ∧
        assembleProfile profile (some level) tier = profile ++
          (if (level.toList.head?).any Number.isAsciiDigit then "@L" else "@") ++ level ++
            behind := by
    cases tier with
    | none => exact ⟨"", .inl rfl, rfl⟩
    | some tier => exact ⟨"@" ++ tier, .inr (by simp), rfl⟩
  rw [htier]
  cases hhead : (level.toList.head?).any Number.isAsciiDigit with
  | false =>
    refine ⟨level ++ behind, ?_, fun codec => ?_⟩
    · simp [String.append_assoc]
    · rw [untilMark_append level hbehind]
  | true =>
    refine ⟨"L" ++ level ++ behind, ?_, fun codec => ?_⟩
    · have hmark : "@L" = "@" ++ "L" := rfl
      rw [if_pos rfl, hmark]
      simp only [String.append_assoc]
    · rw [untilMark_append _ hbehind, Level.ofToken?_untilMark_letter hhead]

/-- **A profile is read as it was put together.** Whatever stands in the fields for the level and
the tier, and for every profile without marks: the level that is read of the text of all three is
the one that the level field alone gives, up to its first mark, and if there is one then the profile
is that of its field without its blanks. A text of which no level is read, for whatever reason and
whatever the codec, is a profile as a whole. -/
theorem profile_law :
    (∀ (codec : Format) (profile level : String) (tier : Option String),
      '/' ∉ profile.toList → '@' ∉ profile.toList →
        let read := ProfileLevel.ofText (some codec) (assembleProfile profile (some level) tier)
        read.level = Level.ofToken? codec (untilMark level) ∧
          (read.level ≠ none → read.profile = Text.trim profile)) ∧
      ∀ codec raw, (ProfileLevel.ofText codec raw).level = none →
        (ProfileLevel.ofText codec raw).profile = Text.trim raw := by
  refine ⟨fun codec profile level tier hslash hat => ?_, fun _ _ => ProfileLevel.profile_ofText⟩
  obtain ⟨rest, htext, hlevel⟩ := assembleProfile_eq profile level tier
  rw [htext, ProfileLevel.ofText_marked codec hslash hat, hlevel]
  cases Level.ofToken? codec (untilMark level) with
  | none => exact ⟨rfl, fun h => absurd rfl h⟩
  | some level => exact ⟨rfl, fun _ => rfl⟩

/-- A level with an alternative, and a tier. -/
theorem profile_law_hevc :
    let raw := assembleProfile " Main 10 " (some "5.1 / L4") (some "High/x@y")
    raw = " Main 10 @L5.1 / L4@High/x@y" ∧ '/' ∉ " Main 10 ".toList ∧ '@' ∉ " Main 10 ".toList ∧
      ProfileLevel.ofText (some .h265) raw = ⟨"Main 10", some (.h265 .l5_1)⟩ := by
  intro raw
  have hslash : '/' ∉ " Main 10 ".toList := by decide
  have hat : '@' ∉ " Main 10 ".toList := by decide
  obtain ⟨hlevel, hprofile⟩ :=
    profile_law.1 .h265 " Main 10 " "5.1 / L4" (some "High/x@y") hslash hat
  have hread : Level.ofToken? .h265 (untilMark "5.1 / L4") = some (.h265 .l5_1) := by
    decide +kernel
  have htrim : Text.trim " Main 10 " = "Main 10" := by decide +kernel
  rw [hread] at hlevel
  refine ⟨by decide +kernel, hslash, hat, ?_⟩
  rw [ProfileLevel.mk.injEq]
  exact ⟨(hprofile (by simp [hlevel])).trans htrim, hlevel⟩

end TrackList

end MediaIndex
