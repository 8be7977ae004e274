import VersionGate.Proofs.CommandLine.Recognition

/-!
# Blocks of tokens

A session reads its tokens in blocks: a positional argument, or an option that is given
as a flag, with an attached or a separate value, or bare when its value may be left
out. A block fits where it stands if it is what the first option that counts as given
there finds, and a walk goes over the tokens block by block.
-/

namespace VersionGate.CommandLine

/-- How an option is given. The last two are for options whose value may be left out:
nothing is left of the tokens or the next one is refused, and what is attached to the
keyword is refused. -/
inductive Manner where
  | flag
  | attached (text : String) (value : Value)
  | separate (text : String) (value : Value)
  | bare
  | bareAttached (text : String)

namespace Manner

/-- The token at which an option is found. -/
def token (keyword : String) : Manner → String
  | .attached text _ => keyword ++ text
  | .bareAttached text => keyword ++ text
  | _ => keyword

/-- The token after it that is the value of the option. -/
def next : Manner → List String
  | .separate text _ => [text]
  | _ => []

/-- The tokens of an option that is given with a keyword. -/
def tokens (keyword : String) (manner : Manner) : List String :=
  manner.token keyword :: manner.next

/-- The value that an option is given. -/
def value? : Manner → Option Value
  | .attached _ value => some value
  | .separate _ value => some value
  | _ => none

/-- What the slot of an option holds that is given in this manner; a flag has no slot. -/
def slotContent : Manner → Option (Option Value)
  | .flag => none
  | manner => some manner.value?

/-- An option can be given in this manner with a keyword, when the remaining tokens
come next. -/
def Fits (option : Declaration) (threshold : Int) (keyword : String) (remaining : List String) :
    Manner → Prop
  | .flag => option.isFlag = true
  | .attached text value =>
    text ≠ "" ∧ (keyword.length : Int) ≤ threshold ∧ option.Accepts text value
  | .separate text value => option.Accepts text value
  | .bare =>
    option.isFlag = false ∧ option.valueOptional = true ∧
      (remaining = [] ∨ ∃ text following, remaining = text :: following ∧ option.Refuses text)
  | .bareAttached text =>
    text ≠ "" ∧ (keyword.length : Int) ≤ threshold ∧ option.valueOptional = true ∧
      option.Refuses text

/-- An option can be given in this manner with a keyword, whatever comes next. -/
def FitsAlways (option : Declaration) (threshold : Int) (keyword : String) : Manner → Prop
  | .flag => option.isFlag = true
  | .attached text value =>
    text ≠ "" ∧ (keyword.length : Int) ≤ threshold ∧ option.Accepts text value
  | .separate text value => option.Accepts text value
  | .bare => False
  | .bareAttached _ => False

variable {option : Declaration} {threshold : Int} {keyword : String} {manner : Manner}

/-- What always fits does so in front of any remaining tokens. -/
theorem FitsAlways.fits (halways : manner.FitsAlways option threshold keyword)
    (remaining : List String) : manner.Fits option threshold keyword remaining := by
  cases manner with
  | flag => exact halways
  | attached text value => exact halways
  | separate text value => exact halways
  | bare => exact halways.elim
  | bareAttached text => exact halways.elim

/-- An option that cannot do without its value is given in a manner that always fits. -/
theorem Fits.fitsAlways {remaining : List String} (hoptional : option.valueOptional = false)
    (hfits : manner.Fits option threshold keyword remaining) :
    manner.FitsAlways option threshold keyword := by
  cases manner with
  | flag => exact hfits
  | attached text value => exact hfits
  | separate text value => exact hfits
  | bare => simp [Fits, hoptional] at hfits
  | bareAttached text => simp [Fits, hoptional] at hfits

end Manner

/-- What a session reads at once. -/
inductive Block where
  | positional (token : String)
  | given (option : Declaration) (keyword : String) (manner : Manner)

/-- An option owns the first of some tokens when it counts as given there and no option
declared before it does. -/
def Owns (options : List Declaration) (threshold : Int) (tokens : List String)
    (option : Declaration) : Prop :=
  ∃ earlier later, options = earlier ++ option :: later ∧
    (∀ other ∈ earlier, other.answer threshold tokens = .ok false) ∧
    option.answer threshold tokens = .ok true

namespace Block

/-- The tokens of a block. -/
def tokens : Block → List String
  | .positional token => [token]
  | .given _ keyword manner => manner.tokens keyword

/-- The positional argument that a block is. -/
def positional? : Block → Option String
  | .positional token => some token
  | .given .. => none

/-- The name of the option that a block gives. -/
def name? : Block → Option String
  | .positional _ => none
  | .given option _ _ => some option.name

/-- The value that a block gives to the option of a name. -/
def valueFor? (name : String) : Block → Option Value
  | .positional _ => none
  | .given option _ manner => if option.name = name then manner.value? else none

/-- A block fits in front of the remaining tokens. No keyword applies to a positional
argument. An option is given by the first of its keywords that applies, in a manner
that fits, and owns the token. -/
def Fits (options : List Declaration) (threshold : Int) (remaining : List String) : Block → Prop
  | .positional token =>
    ∀ option ∈ options, option.answer threshold (token :: remaining) = .ok false ∧
      ∀ keyword ∈ option.spellings, applies threshold (!option.isFlag) token keyword = false
  | .given option keyword manner =>
    Owns options threshold (manner.tokens keyword ++ remaining) option ∧
      option.firstKeyword? threshold (manner.token keyword) = some keyword ∧
      manner.Fits option threshold keyword remaining

end Block

/-- The blocks, read one after the other from some tokens, leave the remaining ones. -/
inductive Walk (options : List Declaration) (threshold : Int) :
    List String → List Block → List String → Prop
  | stop (tokens : List String) : Walk options threshold tokens [] tokens
  | step {block : Block} {tokens : List String} {blocks : List Block} {remaining : List String} :
    block.Fits options threshold tokens → Walk options threshold tokens blocks remaining →
    Walk options threshold (block.tokens ++ tokens) (block :: blocks) remaining

end VersionGate.CommandLine
