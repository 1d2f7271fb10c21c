import MediaIndex.Json.Writer

/-!
# Written texts are read back

The cache keeps the remarks of a descriptor as one JSON object, so its writer and its reader have to
agree on every text: on quotes, on line ends, on the control characters that only have a numbered
escape. The two come from opposite sides of the format, and the reader accepts much more than the
writer produces. What is proved here is the one direction that storing needs:

> **`readTexts?_writeTexts`**: an object that was written is read back member by member, in order.

The proof goes from the inside to the outside. A character is written as one `Piece`
(`writtenPiece`), a text as a row of pieces, and a member as a key, a colon and a text. The fuel of
the reader is counted in characters, and each member has at least six of them.
-/

set_option autoImplicit false

namespace MediaIndex.Json

/-! ## Characters -/

/-- The piece that a character is read as when it was written by `escapedChar`. Only control
characters without a letter of their own are written by number. -/
def writtenPiece (c : Char) : Piece :=
  if c.toNat < 0x20 ∧ c ∉ ['\n', '\r', '\t', Char.ofNat 8, Char.ofNat 12] then .unit c.toNat
  else .char c

theorem hexNumber?_hexDigits :
    ∀ n < 0x20, hexNumber? ['0', '0', hexDigit (n / 16), hexDigit (n % 16)] = some n := by
  decide

theorem eq_ofNat_of_toNat {c : Char} {n : Nat} (h : c.toNat = n) : c = Char.ofNat n := by
  rw [← h, Char.ofNat_toNat]

/-- **One written character is read as one piece**, whatever follows it. -/
theorem takeString_escapedChar (c : Char) (rest : List Char) :
    takeString (escapedChar c ++ rest) =
      (takeString rest).map fun r => (writtenPiece c :: r.1, r.2) := by
  unfold escapedChar
  split
  · rfl
  · rfl
  · rfl
  · rfl
  · rfl
  · rename_i hquote hslash hline hreturn htab
    by_cases h8 : c.toNat = 8
    · have hc := eq_ofNat_of_toNat h8
      subst hc
      rfl
    · by_cases h12 : c.toNat = 12
      · have hc := eq_ofNat_of_toNat h12
        subst hc
        rfl
      · have hletter : c ∉ ['\n', '\r', '\t', Char.ofNat 8, Char.ofNat 12] := by
          intro hmem
          simp only [List.mem_cons, List.not_mem_nil, or_false] at hmem
          rcases hmem with rfl | rfl | rfl | rfl | rfl
          · exact hline rfl
          · exact hreturn rfl
          · exact htab rfl
          · exact h8 rfl
          · exact h12 rfl
        rw [if_neg h8, if_neg h12]
        by_cases hctl : c.toNat < 0x20
        · have hpiece : writtenPiece c = .unit c.toNat := if_pos ⟨hctl, hletter⟩
          rw [if_pos hctl, hpiece]
          simp only [List.cons_append, List.nil_append, takeString, hexNumber?_hexDigits _ hctl]
        · have hpiece : writtenPiece c = .char c := if_neg fun h => hctl h.1
          rw [if_neg hctl, hpiece, List.singleton_append, takeString.eq_def]
          split
          · simp_all
          · simp_all
          · simp_all
          · simp_all
          · rename_i heq
            injection heq with hc hrest
            subst hc hrest
            have hplain : (decide (c.toNat < 0x20) || c == '\\') = false := by
              simpa [hctl] using hslash
            rw [hplain]
            rfl

/-- The body of a quoted text is read as the row of its pieces, up to the closing quote. -/
theorem takeString_quoted (cs rest : List Char) :
    takeString (cs.flatMap escapedChar ++ '"' :: rest) = some (cs.map writtenPiece, rest) := by
  induction cs with
  | nil => rfl
  | cons c cs ih =>
    rw [List.flatMap_cons, List.append_assoc, takeString_escapedChar, ih]
    rfl

/-- A piece that was written by number is no half of a surrogate pair: it is a control character.
So what follows it does not matter. -/
theorem decodePieces?_writtenPiece (c : Char) (pieces : List Piece) :
    decodePieces? (writtenPiece c :: pieces) = (decodePieces? pieces).map (c :: ·) := by
  unfold writtenPiece
  split
  · rename_i h
    have hlead : isLead c.toNat = false := by simp [isLead]; omega
    have htrail : isTrail c.toNat = false := by simp [isTrail]; omega
    have hchar : Char.ofNat c.toNat = c := Char.ofNat_toNat c
    cases pieces with
    | nil => simp [decodePieces?, hlead, htrail, hchar]
    | cons piece pieces =>
      cases piece with
      | char d => simp [decodePieces?, hlead, htrail, hchar]
      | unit b => simp [decodePieces?, hlead, htrail, hchar]
  · rfl

theorem decodePieces?_written (cs : List Char) :
    decodePieces? (cs.map writtenPiece) = some cs := by
  induction cs with
  | nil => rfl
  | cons c cs ih =>
    rw [List.map_cons, decodePieces?_writtenPiece, ih]
    rfl

/-- The pieces that a text is written in. -/
def textPieces (s : String) : List Piece := s.toList.map writtenPiece

@[simp] theorem stringText?_textPieces (s : String) : stringText? (textPieces s) = some s := by
  rw [stringText?, textPieces, decodePieces?_written]
  exact congrArg some String.ofList_toList

/-! ## Members -/

/-- What is written for a member. -/
def writtenMember (m : String × String) : List Char := quoted m.1 ++ ':' :: quoted m.2

/-- What a written member is read as. -/
def memberTree (m : String × String) : List Piece × Tree :=
  (textPieces m.1, .string (textPieces m.2))

theorem skipSpace_cons {c : Char} (cs : List Char) (h : isSpace c = false) :
    skipSpace (c :: cs) = c :: cs := by
  simp [skipSpace, h]

/-- A quoted text is a value for a reader with any fuel at all. -/
theorem takeValue_quoted (fuel : Nat) (s : String) (rest : List Char) :
    takeValue (fuel + 1) (quoted s ++ rest) = some (.string (textPieces s), rest) := by
  have hbody := takeString_quoted s.toList rest
  simp only [quoted, List.cons_append, List.append_assoc, List.nil_append]
  rw [takeValue, skipSpace_cons _ rfl]
  simp only [hbody]
  rfl

/-- The members of an object as they are written, with commas between them. -/
def writtenMembers (members : List (String × String)) : List Char :=
  List.intercalate [','] (members.map writtenMember)

theorem writtenMembers_singleton (m : String × String) : writtenMembers [m] = writtenMember m := by
  simp [writtenMembers, List.intercalate]

theorem writtenMembers_cons (m next : String × String) (members : List (String × String)) :
    writtenMembers (m :: next :: members) =
      writtenMember m ++ ',' :: writtenMembers (next :: members) := by
  simp [writtenMembers, List.intercalate]

/-- A key with its colon, as the reader of members comes upon it. -/
theorem takeMembers_member (fuel : Nat) (m : String × String) (rest : List Char) :
    takeMembers (fuel + 2) (writtenMember m ++ rest) =
      match skipSpace rest with
      | '\x7d' :: rest => some ([memberTree m], rest)
      | ',' :: rest => (takeMembers (fuel + 1) rest).map fun r => (memberTree m :: r.1, r.2)
      | _ => none := by
  have hkey := takeString_quoted m.1.toList (':' :: (quoted m.2 ++ rest))
  have hvalue := takeValue_quoted fuel m.2 rest
  have hsplit : writtenMember m ++ rest =
      '"' :: (m.1.toList.flatMap escapedChar ++ '"' :: ':' :: (quoted m.2 ++ rest)) := by
    simp [writtenMember, quoted]
  rw [hsplit, takeMembers, skipSpace_cons _ rfl]
  simp only [hkey]
  rw [skipSpace_cons _ rfl]
  simp only [hvalue]
  rfl

/-- The members up to the closing brace. Each of them costs the reader one unit of fuel, and the
value of the last one another. -/
theorem takeMembers_written (m : String × String) (members : List (String × String))
    (rest : List Char) (fuel : Nat) (hfuel : members.length + 2 ≤ fuel) :
    takeMembers fuel (writtenMembers (m :: members) ++ '\x7d' :: rest) =
      some ((m :: members).map memberTree, rest) := by
  obtain ⟨fuel, rfl⟩ : ∃ n, fuel = n + 2 := ⟨fuel - 2, by omega⟩
  induction members generalizing m fuel with
  | nil =>
    rw [writtenMembers_singleton, takeMembers_member]
    rfl
  | cons next members ih =>
    obtain ⟨fuel, rfl⟩ : ∃ n, fuel = n + 1 := ⟨fuel - 1, by simp at hfuel; omega⟩
    have hmore := ih next fuel (by simp at hfuel ⊢; omega)
    rw [writtenMembers_cons, List.append_assoc, takeMembers_member]
    rw [List.cons_append, skipSpace_cons _ rfl]
    simp only [hmore]
    rfl

theorem textsOf?_memberTree (members : List (String × String)) :
    textsOf? (members.map memberTree) = some members := by
  induction members with
  | nil => rfl
  | cons m members ih => simp [memberTree, textsOf?, ih]

/-! ## Objects -/

theorem length_writtenMembers (members : List (String × String)) :
    members.length ≤ (writtenMembers members).length := by
  induction members with
  | nil => simp
  | cons m members ih =>
    cases members with
    | nil =>
      rw [writtenMembers_singleton]
      simp only [writtenMember, List.length_append, List.length_cons, List.length_nil]
      omega
    | cons next members =>
      rw [writtenMembers_cons]
      simp only [List.length_append, List.length_cons] at ih ⊢
      omega

/-- Members begin with the quote of a key, so no brace closes the object before them. -/
theorem writtenMembers_quote (m : String × String) (members : List (String × String)) :
    ∃ tail, writtenMembers (m :: members) = '"' :: tail := by
  cases members with
  | nil => exact ⟨_, by rw [writtenMembers_singleton, writtenMember, quoted, List.cons_append]⟩
  | cons next members =>
    exact ⟨_, by rw [writtenMembers_cons, writtenMember, quoted, List.cons_append,
      List.cons_append]⟩

theorem takeValue_object (fuel : Nat) (cs : List Char) :
    takeValue (fuel + 1) ('\x7b' :: '"' :: cs) =
      (takeMembers fuel ('"' :: cs)).map fun r => (.object r.1, r.2) := by
  rw [takeValue, skipSpace_cons _ rfl]
  rfl

theorem ofText?_writeTexts (members : List (String × String)) :
    Tree.ofText? (writeTexts members) = some (.object (members.map memberTree)) := by
  have htext : (writeTexts members).toList = '\x7b' :: (writtenMembers members ++ ['\x7d']) := by
    rw [writeTexts, String.toList_ofList]
    rfl
  unfold Tree.ofText?
  simp only [htext]
  cases members with
  | nil => rfl
  | cons m members =>
    have hlen := length_writtenMembers (m :: members)
    obtain ⟨tail, htail⟩ := writtenMembers_quote m members
    have hread := takeMembers_written m members []
      (2 * ('\x7b' :: (writtenMembers (m :: members) ++ ['\x7d'])).length + 1)
      (by simp only [List.length_cons, List.length_append] at hlen ⊢; omega)
    rw [htail] at hread ⊢
    rw [List.cons_append, takeValue_object]
    rw [List.cons_append] at hread
    rw [hread]
    rfl

/-- **An object of texts that was written is read back**, member by member and in order. -/
theorem readTexts?_writeTexts (members : List (String × String)) :
    readTexts? (writeTexts members) = some members := by
  rw [readTexts?, ofText?_writeTexts]
  exact textsOf?_memberTree members

example : readTexts? (writeTexts [("a\"\\\n", "\x01\t"), ("", "ü")]) =
    some [("a\"\\\n", "\x01\t"), ("", "ü")] := by
  decide +kernel

end MediaIndex.Json

namespace MediaIndex.Extras

/-! ## Remarks -/

theorem insertEntry_above {α : Type} {key : String} {value : α} {entries : List (String × α)}
    (h : ∀ e ∈ entries, e.1 < key) : insertEntry key value entries = entries ++ [(key, value)] := by
  induction entries with
  | nil => rfl
  | cons first rest ih =>
    have hfirst : first.1 < key := h first List.mem_cons_self
    have hnot : ¬ key < first.1 := fun hlt => String.lt_irrefl _ (String.lt_trans hfirst hlt)
    have hne : key ≠ first.1 := fun heq => String.lt_irrefl _ (heq ▸ hfirst)
    rw [insertEntry, if_neg hnot, if_neg hne, ih fun e he => h e (List.mem_cons_of_mem _ he)]
    rfl

/-- Collecting entries that ascend adds them one behind the other. -/
theorem entries_foldl_insert (entries : List (String × String)) (extras : Extras)
    (h : Ascending (extras.entries ++ entries)) :
    (entries.foldl (fun extras e => extras.insert e.1 e.2) extras).entries =
      extras.entries ++ entries := by
  induction entries generalizing extras with
  | nil => simp
  | cons e rest ih =>
    have habove : ∀ a ∈ extras.entries, a.1 < e.1 := by
      intro a ha
      exact (List.pairwise_append.mp h).2.2 a ha e List.mem_cons_self
    have hinsert : (extras.insert e.1 e.2).entries = extras.entries ++ [e] := by
      exact insertEntry_above habove
    rw [List.foldl_cons, ih]
    · rw [hinsert, List.append_assoc, List.singleton_append]
    · rw [hinsert, List.append_assoc, List.singleton_append]
      exact h

theorem ofList_entries (extras : Extras) : ofList extras.entries = extras := by
  have h := entries_foldl_insert extras.entries empty (by simpa [empty] using extras.ascending)
  cases extras with
  | mk entries ascending =>
    simp only [empty, List.nil_append] at h
    simp only [ofList, empty]
    generalize List.foldl _ _ entries = collected at h ⊢
    cases collected
    subst h
    rfl

end MediaIndex.Extras
