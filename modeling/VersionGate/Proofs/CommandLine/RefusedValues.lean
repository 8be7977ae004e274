import VersionGate.Proofs.CommandLine.Insertion

/-!
# Refused values

An option whose value may be left out is given bare in front of a text that it refuses. The text
is not used up: it is read as if the option were not there, be it an option with a value of its
own, a positional argument or the place where reading fails. Only the name of the option is added
to those that were given.
-/

namespace VersionGate.CommandLine

variable {options : List Declaration} {option : Declaration} {threshold : Int}
  {keyword text : String}

/-- An option with keywords that are prefix-free, whose value may be left out, is given bare in
front of a text that it refuses. -/
theorem PrefixFree.fits_bare (hfree : PrefixFree options)
    (hready : ∀ option ∈ options, option.IsReady) (hoption : option ∈ options)
    (hoptional : option.valueOptional = true) (hkeyword : keyword ∈ option.spellings)
    (hrefuses : option.Refuses text) (rest : List String) :
    (Block.given option keyword .bare).Fits options threshold (text :: rest) := by
  refine hfree.fits_given hready hoption hkeyword ⟨hrefuses.isFlag_eq_false, hoptional, ?_⟩
  exact .inr ⟨text, rest, rfl, hrefuses⟩

section Bare

variable (hnames : (options.map Declaration.name).Nodup) (hoption : option ∈ options)
  (hflag : option.isFlag = false)

include hnames hoption hflag

/-- An option that is given bare spares every option, itself among them. -/
theorem spares_of_bare (keyword : String) {other : Declaration} (hother : other ∈ options) :
    (Block.given option keyword .bare).Spares other where
  valueFor?_eq := by simp [Block.valueFor?, Manner.value?]
  not_counts := by
    intro hcounts hname
    obtain rfl : option = other :=
      List.inj_on_of_nodup_map hnames hoption hother (Option.some.inj hname)
    rw [hflag] at hcounts
    cases hcounts

/-- The values after some blocks do not depend on an option that is given bare in front of
them. -/
theorem valuesAfter_bare_cons (keyword : String) (more : List Block) :
    valuesAfter options (.given option keyword .bare :: more) = valuesAfter options more := by
  have hvalue : ∀ other ∈ options, other.valueAfter ([] ++ .given option keyword .bare :: more) =
      other.valueAfter ([] ++ more) := fun other hother =>
    Declaration.valueAfter_append_cons (spares_of_bare hnames hoption hflag keyword hother)
  rw [valuesAfter, valuesAfter, Table.mk.injEq]
  exact List.map_congr_left fun other hother => congrArg (Prod.mk _) (hvalue other hother)

/-- What a walk gives can be stored behind an option that is given bare exactly when it can be
stored alone, provided that the default of that option has a written form. -/
theorem Walk.areStorable_bare_cons_iff {tokens remaining : List String} {more : List Block}
    (hdefault : option.default.isWritable = true) (keyword : String)
    (hmore : Walk options threshold tokens more remaining) :
    AreStorable [] (.given option keyword .bare :: more) ↔ AreStorable [] more := by
  have hbare : (Block.given option keyword .bare).isStorable [] = true := by
    have hempty : option.valueAfter ([] ++ .given option keyword .bare :: []) =
        option.valueAfter ([] ++ []) :=
      Declaration.valueAfter_append_cons (spares_of_bare hnames hoption hflag keyword hoption)
    rw [Block.isStorable, hempty]
    exact Declaration.isWritable_valueAfter (by simp) (.inr (.inl hdefault))
      (Nat.pow_pos (by decide))
  have hspares : ∀ other keyword' manner, .given other keyword' manner ∈ more →
      (Block.given option keyword .bare).Spares other := by
    intro other keyword' manner hgiven
    obtain ⟨rest, hfits⟩ := hmore.exists_fits _ hgiven
    exact spares_of_bare hnames hoption hflag keyword hfits.1.mem
  have hrest : AreStorable ([] ++ .given option keyword .bare :: []) more ↔
      AreStorable ([] ++ []) more := areStorable_append_cons hspares
  rw [AreStorable, hbare]
  simpa using hrest

end Bare

/-- The names that some blocks give behind an option are those that they give alone, and its
own. -/
theorem namesOf_given_cons (option : Declaration) (keyword : String) (manner : Manner)
    (more : List Block) :
    namesOf (.given option keyword manner :: more) = namesOf more ∪ [option.name] :=
  namesOf_append [.given option keyword manner] more

/-- **A refused value is read again.** With prefix-free keywords and no required options, a
keyword of an option whose value may be left out, in front of a text that the option refuses, is
read with the fault or the result that the text and the rest are read with. Only the name of the
option comes to those that were given. -/
theorem parse_keyword_refused {ys : List String} (hnames : (options.map Declaration.name).Nodup)
    (hfree : PrefixFree options) (hrequired : ∀ option ∈ options, option.required = false)
    (htargets : ∀ option ∈ options, ∃ slot, option.freshSlot = .ok slot)
    (hdefaults : ∀ option ∈ options, option.default.isWritable = true)
    (hoption : option ∈ options) (hoptional : option.valueOptional = true)
    (hkeyword : keyword ∈ option.spellings) (hkeywordSeparator : keyword ≠ separator)
    (htextSeparator : text ≠ separator) (hrefuses : option.Refuses text) :
    parse options threshold ([keyword, text] ++ ys) =
      (parse options threshold ([text] ++ ys)).map fun parsed =>
        { parsed with seen := parsed.seen ∪ [option.name] } := by
  have hready : ∀ option ∈ options, option.IsReady := fun option hoption =>
    ⟨(hfree.inOrder option hoption).keywords_eq, htargets option hoption⟩
  have hflag := hrefuses.isFlag_eq_false
  obtain ⟨before, after, hcut⟩ := exists_isCut ys
  have hplain : IsCut ([text] ++ ys) (text :: before) after :=
    hcut.append (by simpa using htextSeparator.symm)
  have hmarked : IsCut ([keyword, text] ++ ys) (keyword :: text :: before) after :=
    hcut.append (by simpa using ⟨hkeywordSeparator.symm, htextSeparator.symm⟩)
  have hbare : Walk options threshold (keyword :: text :: before)
      [.given option keyword .bare] (text :: before) :=
    .step (hfree.fits_bare hready hoption hoptional hkeyword hrefuses before) (.stop _)
  refine parse_eq_map_of_walk hnames hplain hmarked (.stop _) hbare ?_ ?_ ?_
  · intro more remaining hmore
    exact hmore.areStorable_bare_cons_iff hnames hoption hflag (hdefaults option hoption) keyword
  · intro more
    rw [requireAll_of_not_required hrequired, requireAll_of_not_required hrequired]
  · intro more _
    simp only [List.nil_append, List.cons_append, Parsed.ofBlocks,
      valuesAfter_bare_cons hnames hoption hflag, namesOf_given_cons]
    rfl

/-- An option of the mixed ones that may do without its integer. -/
def jobsOption : Declaration :=
  { name := "jobs", aliases := "-j --jobs", target := .integer, valueOptional := true,
    default := .int 1 }

/-- A text that is no integer is refused by the jobs. -/
theorem jobsOption_refuses {text : String}
    (htext : Number.readInteger (Text.trim text.toList) = .error .malformed) :
    jobsOption.Refuses text :=
  ⟨.integer, .notInteger, rfl, by simp only [Binder.convert, htext, Refusal.ofInteger]⟩

/-- What the jobs refuse is read as a positional argument, as an option with its own value, as the
jobs once more, or as an option that lacks its value. -/
theorem parse_keyword_refused_mixed :
    parse mixedOptions 2 (["-j", "out"] ++ ["-v"]) =
      .ok ⟨⟨[("verbose", .int 1), ("level", .none), ("include", .list []), ("jobs", .int 1)]⟩,
        ["out"], ["verbose", "jobs"]⟩ ∧
    parse mixedOptions 2 (["-j", "--level"] ++ ["4", "-j", "3"]) =
      .ok ⟨⟨[("verbose", .int 0), ("level", .int 4), ("include", .list []), ("jobs", .int 3)]⟩,
        [], ["level", "jobs"]⟩ ∧
    parse mixedOptions 2 (["-j", "-jx"] ++ ["--", "-v"]) =
      .ok ⟨⟨[("verbose", .int 0), ("level", .none), ("include", .list []), ("jobs", .int 1)]⟩,
        ["-v"], ["jobs"]⟩ ∧
    parse mixedOptions 2 (["-j", "-l"] ++ []) = .error (.complaint (.missingValue "-l")) := by
  have hfree : PrefixFree mixedOptions := ⟨by decide +kernel, by decide +kernel⟩
  have htargets : ∀ option ∈ mixedOptions, ∃ slot, option.freshSlot = .ok slot := by
    simp only [mixedOptions, List.forall_mem_cons, List.not_mem_nil, false_imp_iff,
      implies_true, and_true]
    exact ⟨⟨_, rfl⟩, ⟨_, rfl⟩, ⟨_, rfl⟩, ⟨_, rfl⟩⟩
  have hjobs : jobsOption ∈ mixedOptions := by simp [mixedOptions, jobsOption]
  have hkeyword : "-j" ∈ jobsOption.spellings := by decide +kernel
  have hread (text : String) (ys : List String) (htext : text ≠ separator)
      (hinteger : Number.readInteger (Text.trim text.toList) = .error .malformed) :
      parse mixedOptions 2 (["-j", text] ++ ys) =
        (parse mixedOptions 2 ([text] ++ ys)).map fun parsed =>
          { parsed with seen := parsed.seen ∪ ["jobs"] } :=
    parse_keyword_refused (by decide) hfree (by decide +kernel) htargets (by decide +kernel) hjobs
      rfl hkeyword (by decide) htext (jobsOption_refuses hinteger)
  refine ⟨?_, ?_, ?_, ?_⟩
  · rw [hread "out" _ (by decide) (by decide +kernel)]
    rfl
  · rw [hread "--level" _ (by decide) (by decide +kernel)]
    rfl
  · rw [hread "-jx" _ (by decide) (by decide +kernel)]
    rfl
  · rw [hread "-l" _ (by decide) (by decide +kernel)]
    rfl

end VersionGate.CommandLine
