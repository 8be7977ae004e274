import VersionGate.Proofs.CommandLine.AlikeBlocks
import VersionGate.Proofs.CommandLine.Concatenation

/-!
# Attached and separate values

With prefix-free keywords, a short keyword with its value attached and the same keyword
with the value behind it are recognised by the same option and by no other. Either all
options answer alike there and the session halts with the same fault, or two alike blocks
are read, after which the same arguments remain.
-/

namespace VersionGate.CommandLine

namespace Attempt

variable {keyword text : String} {slot : Slot} {valueOptional : Bool}

/-- Whether a candidate makes the option count as given does not depend on how far the
cursor moves. -/
theorem answer_withValue_eq (bound refused bound' refused' : Nat) :
    (withValue keyword text slot valueOptional bound refused).answer =
      (withValue keyword text slot valueOptional bound' refused').answer := by
  unfold withValue
  split <;> rfl

/-- What is complained of a candidate does not depend on how far the cursor moves. -/
theorem complaint?_withValue_eq (bound refused bound' refused' : Nat) :
    (withValue keyword text slot valueOptional bound refused).complaint? =
      (withValue keyword text slot valueOptional bound' refused').complaint? := by
  unfold withValue
  split <;> rfl

end Attempt

namespace Declaration

variable {option : Declaration} {threshold : Int}

/-- An option answers alike at the first of some tokens and of others: it counts as given
at both or at none, with the same complaint. -/
def AnswersAlike (option : Declaration) (threshold : Int) (tokens tokens' : List String) : Prop :=
  option.answer threshold tokens = option.answer threshold tokens' ∧
    option.complaint? threshold tokens = option.complaint? threshold tokens'

/-- An option without a slot fails with the same fault everywhere. -/
theorem attemptFirst_of_freshSlot {fault : Fault} (hslot : option.freshSlot = .error fault)
    (tokens : List String) : option.attemptFirst threshold tokens = .error fault := by
  simp only [attemptFirst, attempt, hslot, bind, Except.bind]

/-- An option that recognises neither of two tokens answers alike at both. -/
theorem answersAlike_of_not_recognises {token token' : String} {rest rest' : List String}
    (hspec : option.SpecInOrder) (hnot : ¬option.Recognises threshold token)
    (hnot' : ¬option.Recognises threshold token') :
    option.AnswersAlike threshold (token :: rest) (token' :: rest') := by
  cases hslot : option.freshSlot with
  | error fault =>
    simp only [AnswersAlike, answer, complaint?, attemptFirst_of_freshSlot hslot, and_self]
  | ok slot =>
    have hready : option.IsReady := ⟨hspec.keywords_eq, slot, hslot⟩
    rw [← firstKeyword?_eq_none_iff] at hnot hnot'
    simp only [AnswersAlike, answer, complaint?, attemptFirst_cons hready hslot, hnot, hnot',
      and_self]

/-- An option that takes a value answers alike at one that is attached to its keyword and
at the same one behind the keyword. -/
theorem answersAlike_of_attached {keyword text : String} {rest : List String}
    (hspec : option.SpecInOrder) (hflag : option.isFlag = false) (htext : text ≠ "")
    (hattached : option.firstKeyword? threshold (keyword ++ text) = some keyword)
    (hwhole : option.firstKeyword? threshold keyword = some keyword) :
    option.AnswersAlike threshold ((keyword ++ text) :: rest) (keyword :: text :: rest) := by
  cases hslot : option.freshSlot with
  | error fault =>
    simp only [AnswersAlike, answer, complaint?, attemptFirst_of_freshSlot hslot, and_self]
  | ok slot =>
    have hready : option.IsReady := ⟨hspec.keywords_eq, slot, hslot⟩
    rcases freshSlot_eq hslot with ⟨htrue, _⟩ | ⟨_, binder, _, rfl⟩
    · rw [hflag] at htrue
      cases htrue
    · simp only [AnswersAlike, answer, complaint?, attemptFirst_cons hready hslot, hattached,
        hwhole, Attempt.withKeyword, length_lt_append htext, Nat.lt_irrefl, if_true, if_false,
        attachedValue_append, List.head?_cons, bind, Except.bind]
      exact ⟨Attempt.answer_withValue_eq .., Attempt.complaint?_withValue_eq ..⟩

end Declaration

variable {options : List Declaration} {option : Declaration} {threshold : Int}

/-- A session halts where all options answer alike with the same fault. -/
theorem Halts.of_answersAlike {tokens tokens' : List String} {fault : Fault}
    (halike : ∀ option ∈ options, option.AnswersAlike threshold tokens tokens')
    (hhalts : Halts options threshold tokens fault) : Halts options threshold tokens' fault := by
  cases hhalts with
  | @escaped earlier later option fault hoptions hearlier hanswer =>
    refine .escaped hoptions (fun other hother => ?_) ?_
    · rw [← (halike other (by simp [hoptions, hother])).1]
      exact hearlier other hother
    · rw [← (halike option (by simp [hoptions])).1]
      exact hanswer
  | @unbound complaint hpasses hcomplaint =>
    obtain ⟨earlier, option, later, hoptions, hown, hearlier⟩ :=
      List.findSome?_eq_some_iff.mp hcomplaint
    refine .unbound (fun other hother => ?_) ?_
    · rw [← (halike other hother).1]
      exact hpasses other hother
    · rw [List.findSome?_eq_some_iff]
      refine ⟨earlier, option, later, hoptions, ?_, fun other hother => ?_⟩
      · rw [← (halike option (by simp [hoptions])).2]
        exact hown
      · rw [← (halike other (by simp [hoptions, hother])).2]
        exact hearlier other hother

/-- An option owns a token where all options answer alike. -/
theorem Owns.of_answersAlike {tokens tokens' : List String}
    (halike : ∀ option ∈ options, option.AnswersAlike threshold tokens tokens')
    (howns : Owns options threshold tokens option) : Owns options threshold tokens' option := by
  obtain ⟨earlier, later, hoptions, hearlier, hanswer⟩ := howns
  refine ⟨earlier, later, hoptions, fun other hother => ?_, ?_⟩
  · rw [← (halike other (by simp [hoptions, hother])).1]
    exact hearlier other hother
  · rw [← (halike option (by simp [hoptions])).1]
    exact hanswer

section Attached

variable {keyword text : String} {rest : List String}

/-- A short keyword of an option applies to the token that its value is attached to. -/
theorem applies_attached (hshort : (keyword.length : Int) ≤ threshold) (htext : text ≠ "")
    (hflag : option.isFlag = false) :
    applies threshold (!option.isFlag) (keyword ++ text) keyword = true :=
  applies_iff.mpr (Or.inr ⟨text, htext, rfl, by rw [hflag]; rfl, hshort⟩)

/-- A keyword of an option applies to itself. -/
theorem applies_self (keyword : String) (takesValue : Bool) :
    applies threshold takesValue keyword keyword = true :=
  applies_iff.mpr (Or.inl rfl)

/-- All options answer alike at a value that is attached to a keyword of one of them and at
the same value behind the keyword. -/
theorem PrefixFree.answersAlike (hfree : PrefixFree options) (hoption : option ∈ options)
    (hkeyword : keyword ∈ option.spellings) (hflag : option.isFlag = false)
    (hshort : (keyword.length : Int) ≤ threshold) (htext : text ≠ "") :
    ∀ other ∈ options,
      other.AnswersAlike threshold ((keyword ++ text) :: rest) (keyword :: text :: rest) := by
  intro other hother
  have hattached := applies_attached hshort htext hflag
  have hwhole : applies threshold (!option.isFlag) keyword keyword = true := applies_self keyword _
  by_cases heq : other = option
  · subst heq
    exact Declaration.answersAlike_of_attached (hfree.inOrder other hother) hflag htext
      (hfree.firstKeyword?_eq hother hkeyword hattached)
      (hfree.firstKeyword?_eq hother hkeyword hwhole)
  · refine Declaration.answersAlike_of_not_recognises (hfree.inOrder other hother) ?_ ?_
    · exact fun hrecognises =>
        heq (hfree.eq_of_recognises hother hoption hrecognises ⟨keyword, hkeyword, hattached⟩)
    · exact fun hrecognises =>
        heq (hfree.eq_of_recognises hother hoption hrecognises ⟨keyword, hkeyword, hwhole⟩)

/-- At an attached value either the session halts, or the option that has the keyword is
given the value. -/
theorem PrefixFree.halts_or_fits_attached (hfree : PrefixFree options)
    (hoptional : ∀ option ∈ options, option.valueOptional = false) (hoption : option ∈ options)
    (hkeyword : keyword ∈ option.spellings) (hflag : option.isFlag = false)
    (hshort : (keyword.length : Int) ≤ threshold) (htext : text ≠ "") :
    (∃ fault, Halts options threshold ((keyword ++ text) :: rest) fault) ∨
      ∃ value, (Block.given option keyword (.attached text value)).Fits options threshold rest := by
  have happlies := applies_attached hshort htext hflag
  rcases exists_fits_or_halts options threshold (keyword ++ text) rest with
    ⟨block, remaining, htokens, hfits⟩ | hhalts
  · right
    cases block with
    | positional token =>
      obtain ⟨rfl, rfl⟩ : keyword ++ text = token ∧ rest = remaining := by
        simpa [Block.tokens] using htokens
      rw [(hfits option hoption).2 keyword hkeyword] at happlies
      cases happlies
    | given owner keyword' manner =>
      simp only [Block.tokens, Manner.tokens, List.cons_append, List.cons.injEq] at htokens
      obtain ⟨htoken, hrest⟩ := htokens
      have howner : owner.Recognises threshold (keyword ++ text) := by
        rw [htoken]
        exact Declaration.recognises_iff.mpr ⟨keyword', hfits.2.1⟩
      obtain rfl : owner = option :=
        hfree.eq_of_recognises hfits.1.mem hoption howner ⟨keyword, hkeyword, happlies⟩
      obtain rfl : keyword' = keyword := by
        have hfirst := hfree.firstKeyword?_eq hoption hkeyword happlies
        rw [htoken, hfits.2.1, Option.some.injEq] at hfirst
        exact hfirst
      have halways := hfits.2.2.fitsAlways (hoptional owner hoption)
      cases manner with
      | attached text' value =>
        obtain rfl : text = text' := (String.append_right_inj _).mp htoken
        obtain rfl : rest = remaining := hrest
        exact ⟨value, hfits⟩
      | bare => exact halways.elim
      | bareAttached => exact halways.elim
      | _ => exact absurd htoken (append_ne_self htext)
  · exact Or.inl hhalts

/-- The value that an option is given when it is attached to its keyword can also be given
behind the keyword. -/
theorem PrefixFree.fits_separate_of_fits_attached {value : Value} (hfree : PrefixFree options)
    (hoption : option ∈ options) (hkeyword : keyword ∈ option.spellings)
    (hflag : option.isFlag = false)
    (hfits : (Block.given option keyword (.attached text value)).Fits options threshold rest) :
    (Block.given option keyword (.separate text value)).Fits options threshold rest := by
  obtain ⟨howns, _, htext, hshort, haccepts⟩ := hfits
  refine ⟨?_, ?_, haccepts⟩
  · exact howns.of_answersAlike
      (hfree.answersAlike hoption hkeyword hflag hshort htext)
  · exact hfree.firstKeyword?_eq hoption hkeyword (applies_self keyword _)

end Attached

/-- **Attached and separate values mean the same.** When keywords are prefix-free and no
value may be left out, a non-empty text that is attached to a short keyword of an option
with a value, and the same text behind that keyword, are read with the same result or the
same fault, whether the text is accepted or refused, and whatever comes before and after. -/
theorem parse_attached_eq_parse_separate {xs ys : List String} {first : Parsed}
    {keyword text : String} (hnames : (options.map Declaration.name).Nodup)
    (hfree : PrefixFree options) (hoptional : ∀ option ∈ options, option.valueOptional = false)
    (hoption : option ∈ options) (hflag : option.isFlag = false)
    (hkeyword : keyword ∈ option.spellings) (hshort : (keyword.length : Int) ≤ threshold)
    (htext : text ≠ "") (hkeywordSeparator : keyword ≠ separator)
    (htextSeparator : text ≠ separator) (hbothSeparator : keyword ++ text ≠ separator)
    (hseparator : separator ∉ xs) (hfirst : parse options threshold xs = .ok first) :
    parse options threshold (xs ++ [keyword ++ text] ++ ys) =
      parse options threshold (xs ++ [keyword, text] ++ ys) := by
  obtain ⟨before, after, hcut⟩ := exists_isCut ys
  have hnone : separator ∉ xs ++ [keyword ++ text] := by
    simp [hseparator, hbothSeparator.symm]
  have hneither : separator ∉ xs ++ [keyword, text] := by
    simp [hseparator, hkeywordSeparator.symm, htextSeparator.symm]
  have hattached : IsCut (xs ++ [keyword ++ text] ++ ys) (xs ++ (keyword ++ text) :: before)
      after := by
    simpa using hcut.append hnone
  have hseparate : IsCut (xs ++ [keyword, text] ++ ys) (xs ++ keyword :: text :: before)
      after := by
    simpa using hcut.append hneither
  obtain ⟨blocks, hwalk, hstorable, _⟩ :=
    exists_walk_of_parse hnames ⟨hseparator, Or.inl ⟨rfl, rfl⟩⟩ hfirst
  have hwalked (more : List String) : Walk options threshold (xs ++ more) blocks more :=
    hwalk.extend hfree hoptional more
  have halike : ∀ other ∈ options, other.AnswersAlike threshold ((keyword ++ text) :: before)
      (keyword :: text :: before) :=
    hfree.answersAlike hoption hkeyword hflag hshort htext
  rcases hfree.halts_or_fits_attached hoptional hoption hkeyword hflag hshort htext with
    ⟨fault, hhalts⟩ | ⟨value, hfits⟩
  · rw [parse_of_halts hnames hattached (hwalked _) hstorable (by simp) hhalts,
      parse_of_halts hnames hseparate (hwalked _) hstorable (by simp)
        (hhalts.of_answersAlike halike)]
  · have hfits' := hfree.fits_separate_of_fits_attached hoption hkeyword hflag hfits
    refine parse_eq_of_alike hnames hattached hseparate
      ((hwalked _).append (.step hfits (.stop before)))
      ((hwalked _).append (.step hfits' (.stop before))) ?_
    exact List.rel_append (List.forall₂_same.mpr fun block _ => Block.Alike.refl block)
      (.cons (.given rfl) .nil)

/-- A requirement that looks like a flag is accepted behind its keyword and attached to it,
and a limit that is no integer is refused with the same complaint. -/
theorem parse_attached_eq_parse_separate_gate :
    (parse Gate.options defaultThreshold (["-v", "1.0"] ++ ["-r" ++ "-s"] ++ ["2.0"]) =
        parse Gate.options defaultThreshold (["-v", "1.0"] ++ ["-r", "-s"] ++ ["2.0"]) ∧
      parse Gate.options defaultThreshold ["-v", "1.0", "-r-s", "2.0"] =
        .ok ⟨⟨[("help", .int 0), ("version", .int 0), ("verbose", .int 1), ("sort", .int 0),
          ("require", .text "-s"), ("file", .list []), ("limit", .none)]⟩, ["1.0", "2.0"],
          ["require", "verbose"]⟩) ∧
    parse Gate.options defaultThreshold (["-v", "1.0"] ++ ["-n" ++ "two"] ++ ["-s"]) =
        parse Gate.options defaultThreshold (["-v", "1.0"] ++ ["-n", "two"] ++ ["-s"]) ∧
      parse Gate.options defaultThreshold ["-v", "1.0", "-n", "two", "-s"] =
        .error (.complaint (.invalidValue "-n" (some "two") (some "integer"))) := by
  have hfree : PrefixFree Gate.options := ⟨by decide +kernel, by decide +kernel⟩
  have hoptional : ∀ option ∈ Gate.options, option.valueOptional = false := by decide +kernel
  have hfirst : parse Gate.options defaultThreshold ["-v", "1.0"] =
      .ok ⟨⟨[("help", .int 0), ("version", .int 0), ("verbose", .int 1), ("sort", .int 0),
        ("require", .none), ("file", .list []), ("limit", .none)]⟩, ["1.0"], ["verbose"]⟩ := rfl
  have hrequire : { name := "require", aliases := "-r --require", target := .text } ∈
      Gate.options := by simp [Gate.options]
  have hlimit : { name := "limit", aliases := "-n --limit", target := .integer } ∈
      Gate.options := by simp [Gate.options]
  refine ⟨⟨?_, rfl⟩, ?_, rfl⟩
  · exact parse_attached_eq_parse_separate (by decide) hfree hoptional hrequire rfl
      (by decide +kernel) (by decide) (by decide) (by decide) (by decide) (by decide) (by decide)
      hfirst
  · exact parse_attached_eq_parse_separate (by decide) hfree hoptional hlimit rfl
      (by decide +kernel) (by decide) (by decide) (by decide) (by decide) (by decide) (by decide)
      hfirst

end VersionGate.CommandLine
