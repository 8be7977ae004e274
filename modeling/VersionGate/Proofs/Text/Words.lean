import VersionGate.Proofs.Text.Trimming
import VersionGate.Text.Words

/-!
# Words and texts

The words of a text are the only words that are written apart in it: they stand in it with blanks
between each two of them, and perhaps at both ends. Texts that are split one after another give the
words of the texts joined by blanks.
-/

namespace VersionGate.Text

/-- A word is not empty and holds no blank. -/
structure IsWord (word : String) : Prop where
  ne_empty : word ≠ ""
  noBlank : ∀ c ∈ word.toList, isBlank c = false

instance : DecidablePred IsWord := fun word =>
  decidable_of_iff (word ≠ "" ∧ word.toList.all (!isBlank ·) = true)
    ⟨fun h => ⟨h.1, by simpa using h.2⟩, fun h => ⟨h.ne_empty, by simpa using h.noBlank⟩⟩

/-- A gap consists of blanks, and of at least one. -/
structure IsGap (gap : String) : Prop where
  areBlanks : AreBlanks gap.toList
  ne_empty : gap ≠ ""

instance : DecidablePred IsGap := fun gap =>
  decidable_of_iff (AreBlanks gap.toList ∧ gap ≠ "")
    ⟨fun h => ⟨h.1, h.2⟩, fun h => ⟨h.areBlanks, h.ne_empty⟩⟩

/-- Some texts are joined in their order, with a gap between each two of them. -/
inductive AreJoined : List String → String → Prop
  | none : AreJoined [] ""
  | single (text : String) : AreJoined [text] text
  | cons {text gap next joined : String} {rest : List String} :
    IsGap gap → AreJoined (next :: rest) joined →
    AreJoined (text :: next :: rest) (text ++ gap ++ joined)

/-- Some words are written apart in a text: they are joined, and blanks may stand at both ends. -/
inductive AreWrittenApart : List String → String → Prop
  | intro {found : List String} {left joined right : String} :
    (∀ word ∈ found, IsWord word) → AreBlanks left.toList → AreJoined found joined →
    AreBlanks right.toList → AreWrittenApart found (left ++ joined ++ right)

variable {left right gap text joined : String} {texts found rest : List String} {c : Char}

/-- A scan goes on with its word as long as there is no blank. -/
theorem foldr_extend_of_noBlank {text : List Char} (hblank : ∀ c ∈ text, isBlank c = false) :
    text.foldr WordScan.extend {} = ⟨text, []⟩ := by
  induction text with
  | nil => rfl
  | cons c text ih =>
    obtain ⟨hc, htext⟩ := List.forall_mem_cons.mp hblank
    rw [List.foldr_cons, ih htext, WordScan.extend, if_neg (by simp [hc])]

/-- A word is the only word of its text. -/
theorem words_of_isWord {word : String} (hword : IsWord word) : words word = [word] := by
  have hne : word.toList ≠ [] := by simpa using hword.ne_empty
  simp [words, splitWords, foldr_extend_of_noBlank hword.noBlank, WordScan.words, hne]

/-- Words are the words of their texts. -/
theorem flatMap_words (hwords : ∀ word ∈ found, IsWord word) : found.flatMap words = found := by
  calc found.flatMap words = found.flatMap fun word => [word] :=
        List.flatMap_congr fun word hword => words_of_isWord (hwords word hword)
    _ = found := List.flatMap_singleton' found

section Joined

/-- Blanks in front of a text add no word. -/
theorem splitWords_append_left {left : List Char} (hleft : AreBlanks left) (text : List Char) :
    splitWords (left ++ text) = splitWords text := by
  induction left with
  | nil => rfl
  | cons c left ih =>
    obtain ⟨hc, hrest⟩ := List.forall_mem_cons.mp hleft
    rw [List.cons_append, splitWords_cons_of_isBlank _ hc, ih hrest]

/-- Blanks in front of a text do not change its words. -/
theorem words_append_left (hleft : AreBlanks left.toList) (text : String) :
    words (left ++ text) = words text := by
  rw [words, words, String.toList_append, splitWords_append_left hleft]

/-- A gap parts the words before it from those after it. -/
theorem words_append_gap (hgap : IsGap gap) (left right : String) :
    words (left ++ gap ++ right) = words left ++ words right := by
  have hne : gap.toList ≠ [] := by simpa using hgap.ne_empty
  obtain ⟨c, blanks, hblanks⟩ := List.exists_cons_of_ne_nil hne
  obtain ⟨hc, hrest⟩ : isBlank c = true ∧ AreBlanks blanks :=
    List.forall_mem_cons.mp (hblanks ▸ hgap.areBlanks)
  have hchars : (left ++ gap ++ right).toList = left.toList ++ c :: (blanks ++ right.toList) := by
    simp [hblanks]
  rw [words, hchars, splitWords_append_blank hc, splitWords_append_left hrest, List.map_append]
  rfl

/-- Blanks behind a text do not change its words. -/
theorem words_append_right (hright : AreBlanks right.toList) (text : String) :
    words (text ++ right) = words text := by
  by_cases hempty : right = ""
  · rw [hempty, String.append_empty]
  · have hgap := words_append_gap ⟨hright, hempty⟩ text ""
    have hnone : words "" = [] := rfl
    rwa [String.append_empty, hnone, List.append_nil] at hgap

/-- Joined texts have the words of each text in turn. -/
theorem AreJoined.words_eq (hjoined : AreJoined texts joined) :
    words joined = texts.flatMap words := by
  induction hjoined with
  | none => rfl
  | single text => rw [List.flatMap_singleton]
  | @cons text gap next joined rest hgap _ ih =>
    rw [words_append_gap hgap, ih, List.flatMap_cons (x := text)]

/-- Words that are written apart in a text are the words of the text. -/
theorem AreWrittenApart.words_eq (hapart : AreWrittenApart found text) : words text = found := by
  obtain ⟨hwords, hleft, hjoined, hright⟩ := hapart
  rw [words_append_right hright, words_append_left hleft, hjoined.words_eq, flatMap_words hwords]

/-- Texts are joined when each two of them have a space between them. -/
theorem areJoined_intercalate (texts : List String) : AreJoined texts (" ".intercalate texts) := by
  have hspace : IsGap " " := by decide
  induction texts with
  | nil => exact .none
  | cons text rest ih =>
    cases rest with
    | nil =>
      rw [String.intercalate_singleton]
      exact .single text
    | cons next rest =>
      rw [String.intercalate_cons_cons]
      exact .cons hspace ih

/-- Words with a space between each two are the words of their text. -/
theorem words_intercalate (hwords : ∀ word ∈ texts, IsWord word) :
    words (" ".intercalate texts) = texts := by
  rw [(areJoined_intercalate texts).words_eq, flatMap_words hwords]

/-- Texts are split one after another, and their words are put behind those that are there. -/
theorem collectWords_eq (collected texts : List String) :
    collectWords collected texts = collected ++ texts.flatMap words := by
  induction texts generalizing collected with
  | nil => simp [collectWords]
  | cons text texts ih =>
    calc collectWords collected (text :: texts)
        = collectWords (collected ++ words text) texts := rfl
      _ = collected ++ words text ++ texts.flatMap words := ih _
      _ = collected ++ (text :: texts).flatMap words := by
        rw [List.flatMap_cons, List.append_assoc]

end Joined

section Apart

/-- A character that is no blank is a word. -/
theorem isWord_singleton (hc : isBlank c = false) : IsWord (String.singleton c) where
  ne_empty := by simp
  noBlank := by simpa using hc

/-- A character that is no blank lengthens a word. -/
theorem IsWord.cons {word : String} (hc : isBlank c = false) (hword : IsWord word) :
    IsWord (String.singleton c ++ word) where
  ne_empty := by simp
  noBlank := by simpa [hc] using hword.noBlank

/-- What stands in front of joined texts may be taken to the first of them. -/
theorem AreJoined.append_left (hjoined : AreJoined (text :: rest) joined) (front : String) :
    AreJoined ((front ++ text) :: rest) (front ++ joined) := by
  cases hjoined with
  | single => exact .single _
  | cons hgap hrest =>
    rw [← String.append_assoc, ← String.append_assoc]
    exact .cons hgap hrest

/-- One more blank in front leaves words written apart. -/
theorem AreWrittenApart.cons_blank (hc : isBlank c = true) (hapart : AreWrittenApart found text) :
    AreWrittenApart found (String.singleton c ++ text) := by
  obtain @⟨left, _, _, hwords, hleft, hjoined, hright⟩ := hapart
  have hmore : AreBlanks (String.singleton c ++ left).toList := by
    simpa [AreBlanks, hc] using hleft
  rw [← String.append_assoc, ← String.append_assoc]
  exact .intro hwords hmore hjoined hright

/-- Joined words are written apart, with blanks behind them or none. -/
theorem AreJoined.areWrittenApart (hjoined : AreJoined found joined)
    (hwords : ∀ word ∈ found, IsWord word) (hright : AreBlanks right.toList) :
    AreWrittenApart found (joined ++ right) := by
  have hleft : AreBlanks ("" : String).toList := by decide
  have hapart := AreWrittenApart.intro hwords hleft hjoined hright
  rwa [String.empty_append] at hapart

/-- With one more character in front that is no blank some words are written apart: it is a word of
its own in front of blanks, and lengthens the first word otherwise. -/
theorem AreWrittenApart.exists_cons (hc : isBlank c = false) (hapart : AreWrittenApart found text) :
    ∃ others, AreWrittenApart others (String.singleton c ++ text) := by
  obtain @⟨left, joined, right, hwords, hleft, hjoined, hright⟩ := hapart
  have hletter := isWord_singleton hc
  cases found with
  | nil =>
    -- There are blanks only, and all of them stand behind the new word.
    obtain ⟨⟩ := hjoined
    have hblanks : AreBlanks (left ++ "" ++ right).toList := by
      rw [String.append_empty, String.toList_append]
      exact List.forall_mem_append.mpr ⟨hleft, hright⟩
    have hsingle := AreJoined.single (String.singleton c)
    exact ⟨_, hsingle.areWrittenApart (List.forall_mem_singleton.mpr hletter) hblanks⟩
  | cons word rest =>
    rw [← String.append_assoc, ← String.append_assoc]
    by_cases hempty : left = ""
    · obtain ⟨hword, hrest⟩ := List.forall_mem_cons.mp hwords
      have hlonger := hjoined.append_left (String.singleton c)
      rw [hempty, String.append_empty]
      exact ⟨_, hlonger.areWrittenApart (List.forall_mem_cons.mpr ⟨hword.cons hc, hrest⟩) hright⟩
    · have hgap : IsGap left := ⟨hleft, hempty⟩
      have hmore : AreJoined (String.singleton c :: word :: rest)
          (String.singleton c ++ left ++ joined) := .cons hgap hjoined
      exact ⟨_, hmore.areWrittenApart (List.forall_mem_cons.mpr ⟨hletter, hwords⟩) hright⟩

/-- In every text some words are written apart. -/
theorem exists_areWrittenApart (text : String) : ∃ found, AreWrittenApart found text := by
  rw [← String.ofList_toList (s := text)]
  induction text.toList with
  | nil => 
    exact ⟨[], AreJoined.none.areWrittenApart nofun (by decide : AreBlanks "".toList)⟩
  | cons c text ih =>
    obtain ⟨found, hapart⟩ := ih
    rw [String.ofList_cons]
    cases hc : isBlank c with
    | true => exact ⟨found, hapart.cons_blank hc⟩
    | false => exact hapart.exists_cons hc

/-- The words of a text are written apart in it. -/
theorem areWrittenApart_words (text : String) : AreWrittenApart (words text) text := by
  obtain ⟨found, hapart⟩ := exists_areWrittenApart text
  rwa [hapart.words_eq]

/-- The words of a text are words. -/
theorem isWord_of_mem_words {text word : String} (hword : word ∈ words text) : IsWord word := by
  obtain @⟨_, _, _, hwords, _, _, _⟩ := areWrittenApart_words text
  exact hwords word hword

/-- Nothing is left of blanks when these are left out. -/
theorem filter_of_areBlanks {blanks : List Char} (hblanks : AreBlanks blanks) :
    blanks.filter (!isBlank ·) = [] := by
  rw [List.filter_eq_nil_iff]
  intro c hc
  simp [hblanks c hc]

/-- Joined texts hold the characters of each text in turn, if blanks are left out. -/
theorem AreJoined.filter_eq (hjoined : AreJoined texts joined) :
    joined.toList.filter (!isBlank ·) =
      texts.flatMap fun text => text.toList.filter (!isBlank ·) := by
  induction hjoined with
  | none => rfl
  | single text => rw [List.flatMap_singleton]
  | @cons text gap next joined rest hgap _ ih =>
    simp only [String.toList_append, List.filter_append, filter_of_areBlanks hgap.areBlanks,
      List.append_nil, ih]
    rw [List.flatMap_cons (x := text)]

/-- Words that are written apart in a text hold all of its characters but the blanks. -/
theorem AreWrittenApart.flatMap_toList (hapart : AreWrittenApart found text) :
    found.flatMap String.toList = text.toList.filter (!isBlank ·) := by
  obtain @⟨left, joined, right, hwords, hleft, hjoined, hright⟩ := hapart
  have hword : ∀ word ∈ found, word.toList.filter (!isBlank ·) = word.toList := fun word hmem =>
    List.filter_eq_self.mpr (by simpa using (hwords word hmem).noBlank)
  calc found.flatMap String.toList
      = found.flatMap fun word => word.toList.filter (!isBlank ·) :=
        (List.flatMap_congr hword).symm
    _ = joined.toList.filter (!isBlank ·) := hjoined.filter_eq.symm
    _ = (left ++ joined ++ right).toList.filter (!isBlank ·) := by
        simp [filter_of_areBlanks hleft, filter_of_areBlanks hright]

end Apart

/-- **Words that are written apart.** Some words are those of a text exactly when they are written
apart in it, and they hold all of its characters but the blanks. Texts that are split one after
another put the words of the joined texts behind those that are there, whatever the gaps. -/
theorem words_eq_iff_areWrittenApart :
    (∀ (text : String) (found : List String), words text = found ↔ AreWrittenApart found text) ∧
    (∀ text : String, (words text).flatMap String.toList = text.toList.filter (!isBlank ·)) ∧
    ∀ (collected texts : List String) (joined : String), AreJoined texts joined →
      collectWords collected texts = collected ++ words joined := by
  refine ⟨fun text found => ⟨?_, AreWrittenApart.words_eq⟩, fun text => ?_,
    fun collected texts joined hjoined => ?_⟩
  · rintro rfl
    exact areWrittenApart_words text
  · exact (areWrittenApart_words text).flatMap_toList
  · rw [collectWords_eq, hjoined.words_eq]

/-- Words may be written apart with blanks of several kinds, and texts with blanks at their ends or
without words may be joined. -/
theorem words_eq_iff_areWrittenApart_mixed :
    words "\t-n\u3000\n4" = ["-n", "4"] ∧
      AreJoined [" a b", "", "c\x1c"] " a b\x0c c\x1c" ∧
      collectWords ["kept"] [" a b", "", "c\x1c"] = ["kept", "a", "b", "c"] := by
  have hwords : ∀ word ∈ ["-n", "4"], IsWord word := by decide
  have hapart : AreWrittenApart ["-n", "4"] ("\t" ++ ("-n" ++ "\u3000\n" ++ "4") ++ "") :=
    .intro hwords (by decide) (.cons (by decide) (.single "4")) (by decide)
  have hjoined : AreJoined [" a b", "", "c\x1c"] (" a b" ++ "\x0c" ++ ("" ++ " " ++ "c\x1c")) :=
    .cons (by decide) (.cons (by decide) (.single "c\x1c"))
  have hcollect := words_eq_iff_areWrittenApart.2.2 ["kept"] _ _ hjoined
  have hfound : words (" a b" ++ "\x0c" ++ ("" ++ " " ++ "c\x1c")) = ["a", "b", "c"] := by decide
  rw [hfound] at hcollect
  exact ⟨(words_eq_iff_areWrittenApart.1 _ _).mpr hapart, hjoined, hcollect⟩

end VersionGate.Text
