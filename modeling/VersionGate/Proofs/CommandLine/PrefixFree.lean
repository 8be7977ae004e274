import Mathlib.Data.List.Pairwise
import VersionGate.Proofs.CommandLine.Findings

/-!
# Prefix-free keywords

When no keyword begins another one, a token tells by which keyword of which option it is
recognised. An option that can be given in some manner then owns its tokens, whatever
they are followed by, since no option declared before it has a keyword that applies.
-/

namespace VersionGate.CommandLine

/-- Neither of two keywords begins the other one. -/
def Apart (keyword other : String) : Prop :=
  begins keyword other = false ∧ begins other keyword = false

instance (keyword other : String) : Decidable (Apart keyword other) :=
  inferInstanceAs (Decidable (_ ∧ _))

instance : Std.Symm Apart where
  symm _ _ := And.symm

/-- The alias specs of the options are in order, and no keyword begins another one, be it
of the same option or not. -/
structure PrefixFree (options : List Declaration) : Prop where
  inOrder : ∀ option ∈ options, option.SpecInOrder
  pairwise : (options.flatMap Declaration.spellings).Pairwise Apart

/-- A keyword that applies to a token begins it. -/
theorem begins_of_applies {threshold : Int} {takesValue : Bool} {token keyword : String}
    (happlies : applies threshold takesValue token keyword = true) :
    begins keyword token = true := by
  unfold applies at happlies
  exact (Bool.and_eq_true_iff.mp happlies).1

/-- Two keywords that begin the same token are not apart. -/
theorem not_apart_of_begins {keyword other token : String} (hkeyword : begins keyword token = true)
    (hother : begins other token = true) : ¬Apart keyword other := by
  rintro ⟨hleft, hright⟩
  unfold begins at *
  rw [List.isPrefixOf_iff_prefix] at hkeyword hother
  rcases List.prefix_or_prefix_of_prefix hkeyword hother with hbegins | hbegins
  · rw [List.isPrefixOf_iff_prefix.mpr hbegins] at hleft
    cases hleft
  · rw [List.isPrefixOf_iff_prefix.mpr hbegins] at hright
    cases hright

/-- The keyword with which an option is given applies to the token. -/
theorem Manner.Fits.applies_token {option : Declaration} {threshold : Int} {keyword : String}
    {manner : Manner} {remaining : List String}
    (hfits : manner.Fits option threshold keyword remaining) :
    applies threshold (!option.isFlag) (manner.token keyword) keyword = true := by
  rw [applies_iff]
  cases manner with
  | attached text value =>
    obtain ⟨htext, hshort, haccepts⟩ := hfits
    exact Or.inr ⟨text, htext, rfl, by simp [haccepts.isFlag_eq_false], hshort⟩
  | bareAttached text =>
    obtain ⟨htext, hshort, _, hrefuses⟩ := hfits
    exact Or.inr ⟨text, htext, rfl, by simp [hrefuses.isFlag_eq_false], hshort⟩
  | _ => exact Or.inl rfl

namespace PrefixFree

variable {options earlier later : List Declaration} {option : Declaration} {threshold : Int}
  {token keyword : String}

/-- The keyword of an option that applies to a token is the only one of it that does. -/
theorem firstKeyword?_eq (hfree : PrefixFree options) (hoption : option ∈ options)
    (hkeyword : keyword ∈ option.spellings)
    (happlies : applies threshold (!option.isFlag) token keyword = true) :
    option.firstKeyword? threshold token = some keyword := by
  obtain ⟨first, hfirst⟩ := Declaration.recognises_iff.mp ⟨keyword, hkeyword, happlies⟩
  have hown : option.spellings.Pairwise Apart :=
    (List.pairwise_flatMap.mp hfree.pairwise).1 option hoption
  have hbegins := begins_of_applies (List.find?_some hfirst)
  have heq : first = keyword := by
    by_contra hne
    exact not_apart_of_begins hbegins (begins_of_applies happlies)
      (hown.forall (List.mem_of_find?_eq_some hfirst) hkeyword hne)
  rw [hfirst, heq]

/-- No option declared before one that recognises a token recognises it as well. -/
theorem not_recognises_earlier (hfree : PrefixFree (earlier ++ option :: later))
    (hrecognises : option.Recognises threshold token) :
    ∀ other ∈ earlier, ¬other.Recognises threshold token := by
  rintro other hother ⟨keyword', hkeyword', happlies'⟩
  obtain ⟨keyword, hkeyword, happlies⟩ := hrecognises
  have hpairwise := hfree.pairwise
  rw [List.flatMap_append, List.pairwise_append] at hpairwise
  refine not_apart_of_begins (begins_of_applies happlies') (begins_of_applies happlies)
    (hpairwise.2.2 keyword' (List.mem_flatMap_of_mem hother hkeyword') keyword ?_)
  exact List.mem_flatMap_of_mem List.mem_cons_self hkeyword

/-- One option at most recognises a token. -/
theorem eq_of_recognises {other : Declaration} (hfree : PrefixFree options)
    (hoption : option ∈ options) (hother : other ∈ options)
    (hrecognises : option.Recognises threshold token)
    (hrecognises' : other.Recognises threshold token) : option = other := by
  obtain ⟨keyword, hkeyword, happlies⟩ := hrecognises
  obtain ⟨keyword', hkeyword', happlies'⟩ := hrecognises'
  have happart := (List.pairwise_flatMap.mp hfree.pairwise).2
  have hsymm : Std.Symm fun first second : Declaration =>
      ∀ x ∈ first.spellings, ∀ y ∈ second.spellings, Apart x y :=
    ⟨fun first second hapart x hx y hy => (hapart y hy x hx).symm⟩
  by_contra hne
  exact not_apart_of_begins (begins_of_applies happlies) (begins_of_applies happlies')
    (happart.forall hoption hother hne keyword hkeyword keyword' hkeyword')

/-- Keywords stay prefix-free in another order of declaration. -/
theorem of_perm {options' : List Declaration} (hfree : PrefixFree options)
    (hperm : options.Perm options') : PrefixFree options' where
  inOrder := fun option hoption => hfree.inOrder option (hperm.mem_iff.mpr hoption)
  pairwise := (hperm.flatMap_right Declaration.spellings).pairwise hfree.pairwise And.symm

/-- An option that is given in a manner that fits owns its tokens, provided that it and the
options declared before it are ready. -/
theorem owns_of_fits {manner : Manner} {remaining : List String}
    (hfree : PrefixFree (earlier ++ option :: later)) (hready : option.IsReady)
    (hearlier : ∀ other ∈ earlier, other.IsReady)
    (hkeyword : option.firstKeyword? threshold (manner.token keyword) = some keyword)
    (hmanner : manner.Fits option threshold keyword remaining) :
    Owns (earlier ++ option :: later) threshold (manner.tokens keyword ++ remaining) option := by
  refine ⟨earlier, later, rfl, ?_, hready.answer_of_fits hkeyword hmanner⟩
  intro other hother
  have hsilent := hfree.not_recognises_earlier
    (Declaration.recognises_iff.mpr ⟨keyword, hkeyword⟩) other hother
  rw [← Declaration.firstKeyword?_eq_none_iff] at hsilent
  exact (hearlier other hother).answer_of_firstKeyword?_eq_none hsilent

/-- An option that is given with one of its keywords in a manner that fits is a block that fits,
provided that the options are ready. -/
theorem fits_given {manner : Manner} {remaining : List String} (hfree : PrefixFree options)
    (hready : ∀ option ∈ options, option.IsReady) (hoption : option ∈ options)
    (hkeyword : keyword ∈ option.spellings)
    (hmanner : manner.Fits option threshold keyword remaining) :
    (Block.given option keyword manner).Fits options threshold remaining := by
  have hfirst := hfree.firstKeyword?_eq hoption hkeyword hmanner.applies_token
  refine ⟨?_, hfirst, hmanner⟩
  obtain ⟨earlier, later, rfl⟩ := List.append_of_mem hoption
  refine hfree.owns_of_fits (hready option hoption) ?_ hfirst hmanner
  exact fun other hother => hready other (List.mem_append_left _ hother)

end PrefixFree

end VersionGate.CommandLine
