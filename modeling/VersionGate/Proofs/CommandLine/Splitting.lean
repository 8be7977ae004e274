import Mathlib.Data.List.TakeWhile
import VersionGate.Proofs.CommandLine.Runs

/-!
# Arguments split into blocks

Reading the arguments before the first separator is a walk over them to their end. The
main result splits the arguments of every successful session into blocks, from which its
values, positional arguments and names follow; nothing is lost, doubled or moved.
-/

namespace VersionGate.CommandLine

/-- Some arguments come before the first separator and some after it; without a separator
all of them come before it. -/
def IsCut (arguments before after : List String) : Prop :=
  separator ∉ before ∧
    (arguments = before ∧ after = [] ∨ arguments = before ++ separator :: after)

/-- The arguments are cut at the first separator. -/
theorem IsCut.cutAtSeparator_eq {arguments before after : List String}
    (hcut : IsCut arguments before after) : cutAtSeparator arguments = (before, after) := by
  obtain ⟨hseparator, harguments⟩ := hcut
  have hkept : ∀ argument ∈ before, (argument != separator) = true := by
    intro argument hargument
    rw [bne_iff_ne]
    rintro rfl
    exact hseparator hargument
  have htake : before.takeWhile (· != separator) = before := List.takeWhile_eq_self_iff.mpr hkept
  have hdrop : before.dropWhile (· != separator) = [] := List.dropWhile_eq_nil_iff.mpr hkept
  rcases harguments with ⟨rfl, rfl⟩ | rfl
  · simp [cutAtSeparator, htake, hdrop]
  · simp [cutAtSeparator, List.takeWhile_append_of_pos hkept, List.dropWhile_append_of_pos hkept]

/-- There are no more arguments before the separator than there are at all. -/
theorem IsCut.length_le {arguments before after : List String}
    (hcut : IsCut arguments before after) : before.length ≤ arguments.length := by
  obtain ⟨_, ⟨rfl, _⟩ | rfl⟩ := hcut
  · exact Nat.le_refl _
  · rw [List.length_append]
    omega

/-- Any arguments can be cut. -/
theorem exists_isCut (arguments : List String) : ∃ before after, IsCut arguments before after := by
  induction arguments with
  | nil => exact ⟨[], [], by simp, Or.inl ⟨rfl, rfl⟩⟩
  | cons first rest ih =>
    by_cases hfirst : first = separator
    · exact ⟨[], rest, by simp, Or.inr (by rw [hfirst, List.nil_append])⟩
    · obtain ⟨before, after, hseparator, hrest⟩ := ih
      refine ⟨first :: before, after, ?_, ?_⟩
      · simpa using ⟨Ne.symm hfirst, hseparator⟩
      · rcases hrest with ⟨rfl, rfl⟩ | rfl
        · exact Or.inl ⟨rfl, rfl⟩
        · exact Or.inr rfl

/-- Arguments without a separator stay in front of what is cut behind them. -/
theorem IsCut.append {first arguments before after : List String}
    (hseparator : separator ∉ first) (hcut : IsCut arguments before after) :
    IsCut (first ++ arguments) (first ++ before) after := by
  obtain ⟨hbefore, harguments⟩ := hcut
  refine ⟨by simp [hseparator, hbefore], ?_⟩
  rcases harguments with ⟨rfl, rfl⟩ | rfl
  · exact Or.inl ⟨rfl, rfl⟩
  · exact Or.inr (by rw [List.append_assoc])

variable {options : List Declaration} {threshold : Int} {arguments before after : List String}

/-- A session runs over the arguments before the separator, starting without any blocks. -/
theorem parse_eq (hnames : (options.map Declaration.name).Nodup)
    (hcut : IsCut arguments before after) :
    parse options threshold arguments =
      (Session.ofBlocks options []).run options threshold before.toArray before.length >>=
        fun session => ensure (session.cursor == before.length) "cursor at end of token list" >>=
        fun _ => requireAll options session.seen >>=
        fun _ => .ok ⟨session.values, session.positionals.toList ++ after, session.seen⟩ := by
  rw [parse, hcut.cutAtSeparator_eq, ← start_eq_ofBlocks hnames]
  rfl

/-- Nothing is missing when every required option is given. -/
theorem requireAll_of_given {names : List String}
    (hgiven : ∀ option ∈ options, option.required = true → option.name ∈ names) :
    requireAll options names = .ok () := by
  have hmissing : missingOption? options names = none := by
    rw [missingOption?, List.find?_eq_none]
    intro option hoption
    simpa using hgiven option hoption
  rw [requireAll, hmissing]

/-- Nothing is missing when no option is required. -/
theorem requireAll_of_not_required (hrequired : ∀ option ∈ options, option.required = false)
    (names : List String) : requireAll options names = .ok () :=
  requireAll_of_given fun option hoption hneeded => by simp [hrequired option hoption] at hneeded

/-- A session that walks to the end has what the blocks of the walk give, provided that no
required option is missing. -/
theorem parse_of_walk {blocks : List Block} (hnames : (options.map Declaration.name).Nodup)
    (hcut : IsCut arguments before after) (hwalk : Walk options threshold before blocks [])
    (hstorable : AreStorable [] blocks) :
    parse options threshold arguments =
      requireAll options (namesOf blocks) >>= fun _ =>
        .ok (Parsed.ofBlocks options blocks after) := by
  have hbefore : before = blocks.flatMap Block.tokens := by
    simpa using hwalk.tokens_eq
  have hrun : (Session.ofBlocks options []).run options threshold before.toArray before.length =
      .ok (Session.ofBlocks options blocks) := by
    have htokens : before.toArray.toList = [].flatMap Block.tokens ++ before := by simp
    have hlength := hwalk.length_le
    rw [show before.length = before.length - blocks.length + blocks.length by omega,
      Session.run_of_walk hnames htokens hwalk hstorable, List.nil_append]
    exact Session.run_of_end hbefore _
  have hcursor : (Session.ofBlocks options blocks).cursor = before.length := by
    rw [Session.ofBlocks, hbefore]
  rw [parse_eq hnames hcut, hrun]
  simp only [bind, Except.bind, hcursor, beq_self_eq_true, ensure, if_true]
  rfl

/-- A session that walks to where it halts fails with the fault found there. -/
theorem parse_of_halts {blocks : List Block} {remaining : List String} {fault : Fault}
    (hnames : (options.map Declaration.name).Nodup) (hcut : IsCut arguments before after)
    (hwalk : Walk options threshold before blocks remaining) (hstorable : AreStorable [] blocks)
    (hne : remaining ≠ []) (hhalts : Halts options threshold remaining fault) :
    parse options threshold arguments = .error fault := by
  have hrun : (Session.ofBlocks options []).run options threshold before.toArray before.length =
      .error fault := by
    have htokens : before.toArray.toList = [].flatMap Block.tokens ++ before := by simp
    have hlength := hwalk.length_le
    have hpos := List.length_pos_iff.mpr hne
    rw [show before.length = before.length - blocks.length - 1 + 1 + blocks.length by omega,
      Session.run_of_walk hnames htokens hwalk hstorable, List.nil_append]
    exact Session.run_of_halts hwalk.tokens_eq hne hhalts _
  rw [parse_eq hnames hcut, hrun]
  rfl

/-- A session fails on a walk whose values cannot all be stored. -/
theorem parse_of_not_areStorable {blocks : List Block} {remaining : List String}
    (hnames : (options.map Declaration.name).Nodup) (hcut : IsCut arguments before after)
    (hwalk : Walk options threshold before blocks remaining) (hnot : ¬AreStorable [] blocks) :
    parse options threshold arguments = .error .tooLongToWrite := by
  have hrun : (Session.ofBlocks options []).run options threshold before.toArray before.length =
      .error .tooLongToWrite := by
    have htokens : before.toArray.toList = [].flatMap Block.tokens ++ before := by simp
    have hlength := hwalk.length_le
    rw [show before.length = before.length - blocks.length + blocks.length by omega]
    exact Session.run_of_not_areStorable hnames htokens hwalk hnot _
  rw [parse_eq hnames hcut, hrun]
  rfl

/-- Behind some blocks that were read, the remaining tokens are walked over to their end, to
where the session halts, or to a value that cannot be stored. -/
theorem exists_walk_or_halts_or_not_areStorable (options : List Declaration) (threshold : Int)
    (blocks : List Block) (tokens : List String) :
    (∃ more, Walk options threshold tokens more [] ∧ AreStorable [] (blocks ++ more)) ∨
    (∃ more token rest fault, Walk options threshold tokens more (token :: rest) ∧
      Halts options threshold (token :: rest) fault ∧ AreStorable [] (blocks ++ more)) ∨
    ∃ more remaining, Walk options threshold tokens more remaining ∧
      ¬AreStorable [] (blocks ++ more) := by
  rcases exists_walk_or_halts options threshold tokens with
    ⟨more, hwalk⟩ | ⟨more, token, rest, fault, hwalk, hhalts⟩
  · by_cases hstorable : AreStorable [] (blocks ++ more)
    · exact Or.inl ⟨more, hwalk, hstorable⟩
    · exact Or.inr (Or.inr ⟨more, [], hwalk, hstorable⟩)
  · by_cases hstorable : AreStorable [] (blocks ++ more)
    · exact Or.inr (Or.inl ⟨more, token, rest, fault, hwalk, hhalts, hstorable⟩)
    · exact Or.inr (Or.inr ⟨more, token :: rest, hwalk, hstorable⟩)

/-- Two readings that come to the same tokens go the same way from there, provided that they can
store the same and miss the same. They fail with the same fault, or the result of one follows
from that of the other. -/
theorem parse_eq_map_of_walk {arguments' before' tokens : List String}
    {blocks blocks' : List Block} {result : Parsed → Parsed}
    (hnames : (options.map Declaration.name).Nodup) (hcut : IsCut arguments before after)
    (hcut' : IsCut arguments' before' after)
    (hwalk : Walk options threshold before blocks tokens)
    (hwalk' : Walk options threshold before' blocks' tokens)
    (hstorable : ∀ more remaining, Walk options threshold tokens more remaining →
      (AreStorable [] (blocks' ++ more) ↔ AreStorable [] (blocks ++ more)))
    (hrequired : ∀ more, requireAll options (namesOf (blocks' ++ more)) =
      requireAll options (namesOf (blocks ++ more)))
    (hresult : ∀ more, Walk options threshold tokens more [] →
      Parsed.ofBlocks options (blocks' ++ more) after =
        result (Parsed.ofBlocks options (blocks ++ more) after)) :
    parse options threshold arguments' = (parse options threshold arguments).map result := by
  rcases exists_walk_or_halts_or_not_areStorable options threshold blocks tokens with
    ⟨more, hmore, hstored⟩ | ⟨more, token, rest, fault, hmore, hhalts, hstored⟩ |
      ⟨more, remaining, hmore, hnot⟩
  · have hstored' := (hstorable more [] hmore).mpr hstored
    rw [parse_of_walk hnames hcut (hwalk.append hmore) hstored,
      parse_of_walk hnames hcut' (hwalk'.append hmore) hstored', hrequired, hresult more hmore]
    cases requireAll options (namesOf (blocks ++ more)) <;> rfl
  · have hstored' := (hstorable more _ hmore).mpr hstored
    rw [parse_of_halts hnames hcut (hwalk.append hmore) hstored (by simp) hhalts,
      parse_of_halts hnames hcut' (hwalk'.append hmore) hstored' (by simp) hhalts]
    rfl
  · have hnot' := mt (hstorable more remaining hmore).mp hnot
    rw [parse_of_not_areStorable hnames hcut (hwalk.append hmore) hnot,
      parse_of_not_areStorable hnames hcut' (hwalk'.append hmore) hnot']
    rfl

/-- A successful session has walked over the arguments before the separator, and all
values on the way could be stored. -/
theorem exists_walk_of_parse {parsed : Parsed} (hnames : (options.map Declaration.name).Nodup)
    (hcut : IsCut arguments before after)
    (hparse : parse options threshold arguments = .ok parsed) :
    ∃ blocks, Walk options threshold before blocks [] ∧ AreStorable [] blocks ∧
      parsed = Parsed.ofBlocks options blocks after := by
  have htokens : before.toArray.toList = [].flatMap Block.tokens ++ before := by simp
  rw [parse_eq hnames hcut] at hparse
  cases hrun : (Session.ofBlocks options []).run options threshold before.toArray before.length with
  | error fault => simp [hrun, bind, Except.bind] at hparse
  | ok session =>
    by_cases hend : session.cursor = before.length
    · obtain ⟨blocks, hwalk, hstorable, rfl⟩ :=
        Session.exists_walk_of_run hnames htokens hrun (by simpa using hend)
      refine ⟨blocks, hwalk, hstorable, ?_⟩
      simp only [hrun, bind, Except.bind, ensure, hend, beq_self_eq_true, if_true] at hparse
      split at hparse
      · cases hparse
      · exact (Except.ok.inj hparse).symm
    · simp [hrun, bind, Except.bind, ensure, hend] at hparse

/-- **Soundness of reading.** The arguments before the separator split in exactly one way
into blocks, each of which fits where it stands, and the values, positional arguments and
names of a successful session are those that the blocks give. -/
theorem existsUnique_blocks_of_parse {parsed : Parsed}
    (hnames : (options.map Declaration.name).Nodup) (hcut : IsCut arguments before after)
    (hparse : parse options threshold arguments = .ok parsed) :
    ∃! blocks, Walk options threshold before blocks [] ∧
      blocks.flatMap Block.tokens = before ∧ parsed = Parsed.ofBlocks options blocks after := by
  obtain ⟨blocks, hwalk, _, hparsed⟩ := exists_walk_of_parse hnames hcut hparse
  have htokens : blocks.flatMap Block.tokens = before := by
    simpa using hwalk.tokens_eq.symm
  refine ⟨blocks, ⟨hwalk, htokens, hparsed⟩, ?_⟩
  rintro blocks' ⟨hwalk', _⟩
  exact hwalk'.unique hwalk

/-- A flag, an option with one value, a repeatable one, and one whose value may be left
out. -/
def mixedOptions : List Declaration :=
  [{ name := "verbose", aliases := "-v --verbose" },
    { name := "level", aliases := "-l --level", target := .integer },
    { name := "include", aliases := "-I --include", target := .text, multiple := true },
    { name := "jobs", aliases := "-j --jobs", target := .integer, valueOptional := true,
      default := .int 1 }]

/-- Arguments with blocks of every kind: the value refused by the jobs is a positional
argument, the flag taken by the includes is none. -/
theorem existsUnique_blocks_of_mixed :
    ∃! blocks, Walk mixedOptions 2
        ["in", "-v", "-l3", "-j", "out", "--level", "4", "-Ia", "-I", "-v"] blocks [] ∧
      blocks.flatMap Block.tokens =
        ["in", "-v", "-l3", "-j", "out", "--level", "4", "-Ia", "-I", "-v"] ∧
      (⟨⟨[("verbose", .int 1), ("level", .int 4), ("include", .list [.text "a", .text "-v"]),
        ("jobs", .int 1)]⟩, ["in", "out", "-v"], ["include", "jobs", "level", "verbose"]⟩ :
        Parsed) = Parsed.ofBlocks mixedOptions blocks ["-v"] := by
  have hcut : IsCut ["in", "-v", "-l3", "-j", "out", "--level", "4", "-Ia", "-I", "-v", "--", "-v"]
      ["in", "-v", "-l3", "-j", "out", "--level", "4", "-Ia", "-I", "-v"] ["-v"] :=
    ⟨by decide, Or.inr rfl⟩
  exact existsUnique_blocks_of_parse (by decide) hcut rfl

end VersionGate.CommandLine
