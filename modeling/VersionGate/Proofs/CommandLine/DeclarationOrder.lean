import VersionGate.Gate.Options
import VersionGate.Proofs.CommandLine.PrefixFree
import VersionGate.Proofs.CommandLine.Splitting

/-!
# The order of declaration

With prefix-free keywords one option at most recognises a token, and all others pass over
it in silence. Which option owns a token, and with which fault a session halts there, is
then the same in every order of declaration, so that the blocks of a walk are the same.
-/

namespace VersionGate.CommandLine

/-- Two readings are the same but for the order of values and of names: they find the same
value under every name, the same positional arguments, and the same names given, or they
fail with the same fault. -/
inductive SameReading : Except Fault Parsed → Except Fault Parsed → Prop
  | read {parsed parsed' : Parsed} :
    (∀ name, parsed.values.get? name = parsed'.values.get? name) →
    parsed.positionals = parsed'.positionals →
    (∀ name, name ∈ parsed.seen ↔ name ∈ parsed'.seen) →
    SameReading (.ok parsed) (.ok parsed')
  | failed (fault : Fault) : SameReading (.error fault) (.error fault)

namespace Declaration

variable {option : Declaration} {threshold : Int} {token : String} {rest : List String}

/-- An option that is ready passes over a token that it does not recognise. -/
theorem IsReady.answer_of_not_recognises (hready : option.IsReady)
    (hnot : ¬option.Recognises threshold token) :
    option.answer threshold (token :: rest) = .ok false :=
  hready.answer_of_firstKeyword?_eq_none (firstKeyword?_eq_none_iff.mpr hnot)

/-- An option that is ready has no complaint at a token that it does not recognise. -/
theorem IsReady.complaint?_of_not_recognises (hready : option.IsReady)
    (hnot : ¬option.Recognises threshold token) :
    option.complaint? threshold (token :: rest) = none := by
  have hanswer : option.answer threshold (token :: rest) = .ok false :=
    hready.answer_of_not_recognises hnot
  rcases complaint?_of_answer_false hanswer with ⟨hnone, _⟩ | ⟨keyword, _, _, hkeyword, _⟩
  · exact hnone
  · exact absurd (recognises_iff.mpr ⟨keyword, hkeyword⟩) hnot

end Declaration

variable {options options' : List Declaration} {option : Declaration} {threshold : Int}
  {token : String} {rest : List String}

/-- An option that recognises a token is declared behind options that do not. -/
theorem PrefixFree.exists_split (hfree : PrefixFree options) (hoption : option ∈ options)
    (hrecognises : option.Recognises threshold token) :
    ∃ earlier later, options = earlier ++ option :: later ∧
      ∀ other ∈ earlier, ¬other.Recognises threshold token := by
  obtain ⟨earlier, later, rfl⟩ := List.append_of_mem hoption
  exact ⟨earlier, later, rfl, hfree.not_recognises_earlier hrecognises⟩

section Perm

variable (hfree : PrefixFree options) (hready : ∀ option ∈ options, option.IsReady)
  (hperm : options.Perm options')

include hfree hready hperm

/-- An option that recognises a token is declared, in another order too, behind options
that pass over it. -/
theorem exists_split_of_perm (hoption : option ∈ options)
    (hrecognises : option.Recognises threshold token) :
    ∃ earlier later, options' = earlier ++ option :: later ∧
      ∀ other ∈ earlier, other.answer threshold (token :: rest) = .ok false ∧
        other.complaint? threshold (token :: rest) = none := by
  obtain ⟨earlier, later, hoptions, hearlier⟩ :=
    (hfree.of_perm hperm).exists_split (hperm.subset hoption) hrecognises
  refine ⟨earlier, later, hoptions, fun other hother => ?_⟩
  have hotherReady : other.IsReady := hready other (hperm.mem_iff.mpr (by simp [hoptions, hother]))
  exact ⟨hotherReady.answer_of_not_recognises (hearlier other hother),
    hotherReady.complaint?_of_not_recognises (hearlier other hother)⟩

/-- The owner of a token owns it in every order of declaration. -/
theorem Owns.of_perm (howns : Owns options threshold (token :: rest) option) :
    Owns options' threshold (token :: rest) option := by
  have hrecognises : option.Recognises threshold token := by
    by_contra hnot
    have hanswer := howns.answer_eq
    rw [(hready option howns.mem).answer_of_not_recognises hnot] at hanswer
    cases hanswer
  obtain ⟨earlier, later, hoptions, hearlier⟩ :=
    exists_split_of_perm hfree hready hperm howns.mem hrecognises
  exact ⟨earlier, later, hoptions, fun other hother => (hearlier other hother).1, howns.answer_eq⟩

/-- A block fits in every order of declaration. -/
theorem Block.Fits.of_perm {block : Block} {remaining : List String}
    (hfits : block.Fits options threshold remaining) : block.Fits options' threshold remaining := by
  cases block with
  | positional token => exact fun option hoption => hfits option (hperm.mem_iff.mpr hoption)
  | given option keyword manner =>
    obtain ⟨howns, hkeyword, hmanner⟩ := hfits
    exact ⟨howns.of_perm hfree hready hperm, hkeyword, hmanner⟩

/-- A walk is one in every order of declaration. -/
theorem Walk.of_perm {tokens remaining : List String} {blocks : List Block}
    (hwalk : Walk options threshold tokens blocks remaining) :
    Walk options' threshold tokens blocks remaining := by
  induction hwalk with
  | stop tokens => exact .stop tokens
  | step hfits _ ih => exact .step (hfits.of_perm hfree hready hperm) ih

/-- A session halts with the same fault in every order of declaration. -/
theorem Halts.of_perm {fault : Fault} (hhalts : Halts options threshold (token :: rest) fault) :
    Halts options' threshold (token :: rest) fault := by
  cases hhalts with
  | @escaped earlier later option fault hoptions hearlier hanswer =>
    have hoption : option ∈ options := by simp [hoptions]
    have hrecognises : option.Recognises threshold token := by
      by_contra hnot
      rw [(hready option hoption).answer_of_not_recognises hnot] at hanswer
      cases hanswer
    obtain ⟨earlier', later', hoptions', hearlier'⟩ :=
      exists_split_of_perm hfree hready hperm hoption hrecognises
    exact .escaped hoptions' (fun other hother => (hearlier' other hother).1) hanswer
  | @unbound complaint hpasses hcomplaint =>
    obtain ⟨option, hoption, hown⟩ := List.exists_of_findSome?_eq_some hcomplaint
    have hrecognises : option.Recognises threshold token := by
      by_contra hnot
      rw [(hready option hoption).complaint?_of_not_recognises hnot] at hown
      cases hown
    obtain ⟨earlier, later, hoptions, hearlier⟩ :=
      exists_split_of_perm hfree hready hperm hoption hrecognises
    refine .unbound (fun other hother => hpasses other (hperm.mem_iff.mpr hother)) ?_
    rw [List.findSome?_eq_some_iff]
    exact ⟨earlier, option, later, hoptions, hown, fun other hother => (hearlier other hother).2⟩

end Perm

/-- The results of the same blocks are the same in every order of declaration. -/
theorem sameReading_ofBlocks (hnames : (options.map Declaration.name).Nodup)
    (hperm : options.Perm options') (blocks : List Block) (after : List String) :
    SameReading (.ok (.ofBlocks options blocks after)) (.ok (.ofBlocks options' blocks after)) :=
  .read (Table.get?_map_of_perm hnames hperm) rfl fun _ => Iff.rfl

/-- Options without a required one, with distinct names, prefix-free keywords and proper
targets read the same in every order of declaration. -/
theorem sameReading_of_perm (hnames : (options.map Declaration.name).Nodup)
    (hfree : PrefixFree options) (hrequired : ∀ option ∈ options, option.required = false)
    (htargets : ∀ option ∈ options, ∃ slot, option.freshSlot = .ok slot)
    (hperm : options.Perm options') (threshold : Int) (arguments : List String) :
    SameReading (parse options threshold arguments) (parse options' threshold arguments) := by
  obtain ⟨before, after, hcut⟩ := exists_isCut arguments
  have hnames' : (options'.map Declaration.name).Nodup := (hperm.map _).nodup hnames
  have hready : ∀ option ∈ options, option.IsReady := fun option hoption =>
    ⟨(hfree.inOrder option hoption).keywords_eq, htargets option hoption⟩
  have hrequired' : ∀ option ∈ options', option.required = false := fun option hoption =>
    hrequired option (hperm.mem_iff.mpr hoption)
  -- Both readings take the same walk to the end, to a token where they halt, or to a value
  -- that cannot be stored.
  rcases exists_walk_or_halts_or_not_areStorable options threshold [] before with
    ⟨blocks, hwalk, hstorable⟩ | ⟨blocks, token, rest, fault, hwalk, hhalts, hstorable⟩ |
      ⟨blocks, remaining, hwalk, hnot⟩
  · rw [parse_of_walk hnames hcut hwalk hstorable, requireAll_of_not_required hrequired,
      parse_of_walk hnames' hcut (hwalk.of_perm hfree hready hperm) hstorable,
      requireAll_of_not_required hrequired']
    exact sameReading_ofBlocks hnames hperm blocks after
  · rw [parse_of_halts hnames hcut hwalk hstorable (by simp) hhalts,
      parse_of_halts hnames' hcut (hwalk.of_perm hfree hready hperm) hstorable (by simp)
        (hhalts.of_perm hfree hready hperm)]
    exact .failed fault
  · rw [parse_of_not_areStorable hnames hcut hwalk hnot,
      parse_of_not_areStorable hnames' hcut (hwalk.of_perm hfree hready hperm) hnot]
    exact .failed _

/-- **The order of declaration does not matter.** When no option is required, names are
distinct, keywords are prefix-free and all targets are proper, any arguments read the same
in every order of the options. This holds of the options of the program in particular. -/
theorem parse_perm :
    (∀ (options options' : List Declaration) (threshold : Int) (arguments : List String),
      (options.map Declaration.name).Nodup → PrefixFree options →
      (∀ option ∈ options, option.required = false) →
      (∀ option ∈ options, ∃ slot, option.freshSlot = .ok slot) → options.Perm options' →
      SameReading (parse options threshold arguments) (parse options' threshold arguments)) ∧
    ∀ (options' : List Declaration) (threshold : Int) (arguments : List String),
      Gate.options.Perm options' →
      SameReading (parse Gate.options threshold arguments)
        (parse options' threshold arguments) := by
  constructor
  · intro options options' threshold arguments hnames hfree hrequired htargets hperm
    exact sameReading_of_perm hnames hfree hrequired htargets hperm threshold arguments
  · intro options' threshold arguments hperm
    have hfree : PrefixFree Gate.options := ⟨by decide +kernel, by decide +kernel⟩
    have htargets : ∀ option ∈ Gate.options, ∃ slot, option.freshSlot = .ok slot := by
      simp only [Gate.options, List.forall_mem_cons, List.not_mem_nil, false_imp_iff,
        implies_true, and_true]
      exact ⟨⟨_, rfl⟩, ⟨_, rfl⟩, ⟨_, rfl⟩, ⟨_, rfl⟩, ⟨_, rfl⟩, ⟨_, rfl⟩, ⟨_, rfl⟩⟩
    exact sameReading_of_perm (by decide) hfree (by decide +kernel) htargets hperm threshold
      arguments

/-- Options of every kind read the same backwards when a value is left out, and the options
of the program do when a limit is refused. -/
theorem parse_perm_reverse :
    SameReading (parse mixedOptions 2 ["in", "-v", "-l3", "-j", "out", "-I", "-v", "--", "-j"])
      (parse mixedOptions.reverse 2 ["in", "-v", "-l3", "-j", "out", "-I", "-v", "--", "-j"]) ∧
    SameReading (parse Gate.options 0 ["-v", "-nx", "--limit", "y"])
      (parse Gate.options.reverse 0 ["-v", "-nx", "--limit", "y"]) ∧
    parse Gate.options 0 ["-v", "-nx", "--limit", "y"] =
      .error (.complaint (.invalidValue "--limit" (some "y") (some "integer"))) := by
  have hfree : PrefixFree mixedOptions := ⟨by decide +kernel, by decide +kernel⟩
  have htargets : ∀ option ∈ mixedOptions, ∃ slot, option.freshSlot = .ok slot := by
    simp only [mixedOptions, List.forall_mem_cons, List.not_mem_nil, false_imp_iff,
      implies_true, and_true]
    exact ⟨⟨_, rfl⟩, ⟨_, rfl⟩, ⟨_, rfl⟩, ⟨_, rfl⟩⟩
  exact ⟨parse_perm.1 _ _ _ _ (by decide) hfree (by decide +kernel) htargets
    (List.reverse_perm _).symm, parse_perm.2 _ _ _ (List.reverse_perm _).symm, rfl⟩

end VersionGate.CommandLine
