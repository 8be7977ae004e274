import VersionGate.Gate.Run

/-!
# Runs that are alike

Two runs are compared step by step. They are alike when they stop at the same obstacle, when
faults leave both of them that are no complaints, or when both come to results that are
related. Runs whose steps are alike are alike as a whole, and so are their endings.
-/

namespace VersionGate.Gate

/-- A fault is unexpected when it is no complaint, so that it leaves a run. -/
def IsUnexpected (fault : Fault) : Prop :=
  ∀ reason, fault ≠ .complaint reason

/-- Two steps go alike: both come to results that are related, both stop at one obstacle, or an
unexpected fault leaves each of them. -/
inductive GoAlike {α : Type} (related : α → α → Prop) :
    Except Obstacle α → Except Obstacle α → Prop
  | reached {value value' : α} : related value value' → GoAlike related (.ok value) (.ok value')
  | stopped (obstacle : Obstacle) : GoAlike related (.error obstacle) (.error obstacle)
  | escaped {fault fault' : Fault} : IsUnexpected fault → IsUnexpected fault' →
    GoAlike related (.error (.fault fault)) (.error (.fault fault'))

namespace GoAlike

variable {α β : Type} {result result' : Except Obstacle α}

/-- Steps that go alike do so before other ones that go alike behind related results. -/
theorem bind {related : α → α → Prop} {related' : β → β → Prop}
    {next next' : α → Except Obstacle β}
    (hresult : GoAlike related result result')
    (hnext : ∀ value value', related value value' → GoAlike related' (next value) (next' value')) :
    GoAlike related' (result >>= next) (result' >>= next') := by
  cases hresult with
  | reached hrelated => exact hnext _ _ hrelated
  | stopped obstacle => exact .stopped obstacle
  | escaped hfault hfault' => exact .escaped hfault hfault'

/-- What two runs have done together does not matter when they go alike from its result. -/
theorem bind_same {related : β → β → Prop} {next next' : α → Except Obstacle β}
    (hnext : ∀ value, result = .ok value → GoAlike related (next value) (next' value)) :
    GoAlike related (result >>= next) (result >>= next') := by
  cases result with
  | error obstacle => exact .stopped obstacle
  | ok value => exact hnext value rfl

end GoAlike

variable {world world' : World} {arguments arguments' : List String}

/-- An unexpected fault leaves a run. -/
theorem run_of_isUnexpected {fault : Fault}
    (houtcome : outcome world arguments = .error (.fault fault)) (hfault : IsUnexpected fault) :
    run world arguments = .error fault := by
  unfold run
  rw [houtcome]
  cases fault with
  | complaint reason => exact absurd rfl (hfault reason)
  | _ => rfl

/-- Runs with the same outcome end in the same way. -/
theorem run_congr (houtcome : outcome world arguments = outcome world' arguments') :
    run world arguments = run world' arguments' := by
  unfold run
  rw [houtcome]

/-- When a run comes to an ending, one that goes alike comes to a related ending. -/
theorem GoAlike.exists_run {related : Ending → Ending → Prop}
    (hrefl : ∀ ending, related ending ending)
    (halike : GoAlike (InvImage related Ending.ofReport) (outcome world arguments)
      (outcome world' arguments'))
    {ending : Ending} (hrun : run world arguments = .ok ending) :
    ∃ ending', run world' arguments' = .ok ending' ∧ related ending ending' := by
  generalize houtcome : outcome world arguments = result at halike
  generalize houtcome' : outcome world' arguments' = result' at halike
  cases halike with
  | @reached report report' hrelated =>
    obtain rfl : Ending.ofReport report = ending := by
      rw [run, houtcome] at hrun
      exact Except.ok.inj hrun
    refine ⟨.ofReport report', ?_, hrelated⟩
    rw [run, houtcome']
  | stopped obstacle =>
    refine ⟨ending, ?_, hrefl ending⟩
    rw [← run_congr (houtcome.trans houtcome'.symm), hrun]
  | escaped hfault _ =>
    rw [run_of_isUnexpected houtcome hfault] at hrun
    cases hrun

end VersionGate.Gate
