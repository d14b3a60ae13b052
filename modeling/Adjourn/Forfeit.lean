import Adjourn.DoubleSign
import Adjourn.Sample

/-! A forfeit is permanent: whatever is delivered later, by anyone, the double-sign
stays proven and the cheater does not win by it. -/

namespace Adjourn.Forfeit
open OrderedMap NormalForm

variable {rules : Rules} {crypto : Crypto} {params : GameParams} {records : Set Record}
  {start : GameState} {ops : List Op} {color : Color} {ply : U16}

section Runs
variable (free : crypto.CollisionFree (Record.idInput '' records))
  (keyed : start.Keyed crypto) (valid : start.allValid crypto params = true)
  (inside : ∀ rec ∈ offered start ops, rec ∈ records)
include free keyed valid inside

theorem between_start : Between crypto params (valuesOf start.records) start ∧
    Between crypto params (offered start ops) (run crypto params start ops) := by
  have start := Between.start keyed valid
  exact ⟨start, start.run free ops inside⟩

/-- A ply that is doubled once stays doubled. -/
theorem doubled_run (doubled : start.Doubled params color ply) :
    (run crypto params start ops).Doubled params color ply := by
  obtain ⟨before, after⟩ := between_start free keyed valid inside
  have early : ∀ rec ∈ valuesOf start.records, rec ∈ offered start ops :=
    fun rec member => List.mem_append_left _ member
  have known : ∀ rec ∈ valuesOf start.records, rec ∈ records := fun rec member => inside rec (early rec member)
  exact (after.doubled_iff free inside).2 (((before.doubled_iff free known).1 doubled).mono early)

end Runs

theorem project_decision {state : GameState} {fraud : GameState.Fraud}
    (found : state.doubleSigned params = some fraud) :
    (state.project rules crypto params).decision = some ⟨fraud.winner, .doubleSignForfeit⟩ := by
  simp [GameState.project, GameState.decision, found]

/-- From a state that proves a double-sign, every run ends in a state that proves one
at the same ply or an earlier one, with the same winner or none. -/
theorem forfeit_permanent (rules : Rules) (crypto : Crypto) (params : GameParams) (records : Set Record)
    (start : GameState) (ops : List Op) (fraud : GameState.Fraud)
    (free : crypto.CollisionFree (Record.idInput '' records))
    (keyed : start.Keyed crypto) (valid : start.allValid crypto params = true)
    (inside : ∀ rec ∈ offered start ops, rec ∈ records)
    (found : start.doubleSigned params = some fraud) :
    ∃ later, (run crypto params start ops).doubleSigned params = some later ∧
      later.firstPly ≤ fraud.firstPly ∧ (later.winner = fraud.winner ∨ later.winner = none) ∧
      ((run crypto params start ops).project rules crypto params).decision =
        some ⟨later.winner, .doubleSignForfeit⟩ := by
  have proven := GameState.proven_of_doubleSigned found
  obtain ⟨guilty, doubled⟩ := proven.first
  obtain ⟨later, found'⟩ := Option.isSome_iff_exists.1
    (GameState.doubleSigned_isSome.2 ⟨guilty, _, doubled_run free keyed valid inside doubled⟩)
  have proven' := GameState.proven_of_doubleSigned found'
  refine ⟨later, found', proven'.least _ _ (doubled_run free keyed valid inside doubled), ?_,
    project_decision found'⟩
  cases winner : later.winner with
  | none => exact .inr rfl
  | some color =>
    -- the winner has doubled nothing at the end, hence nothing at the start
    obtain ⟨-, clean⟩ := (proven'.winner color).1 winner
    have cleanBefore : ∀ ply, ¬start.Doubled params color ply :=
      fun ply doubled => clean ply (doubled_run free keyed valid inside doubled)
    have other : guilty = color.other := by
      refine (guilty.eq_or_other color).resolve_left ?_
      rintro rfl
      exact cleanBefore _ doubled
    exact .inl ((proven.winner color).2 ⟨⟨_, other ▸ doubled⟩, cleanBefore⟩).symm

/-- White has signed two first moves, and buries them under a third record. -/
theorem forfeit_permanent_buried :
    ∃ later, (run Sample.crypto Sample.params
        ((GameState.empty.absorbForTest Sample.crypto Sample.opening).absorbForTest Sample.crypto
          Sample.queenPawn) [.applyDelta [Sample.garbage], .evict]).doubleSigned Sample.params = some later ∧
      later.firstPly ≤ 1 ∧ (later.winner = some .black ∨ later.winner = none) ∧
      ((run Sample.crypto Sample.params
        ((GameState.empty.absorbForTest Sample.crypto Sample.opening).absorbForTest Sample.crypto
          Sample.queenPawn) [.applyDelta [Sample.garbage], .evict]).project
            Sample.rules Sample.crypto Sample.params).decision = some ⟨later.winner, .doubleSignForfeit⟩ := by
  refine forfeit_permanent Sample.rules Sample.crypto Sample.params
    {rec | rec ∈ [Sample.opening, Sample.queenPawn, Sample.garbage]} _ _ ⟨some .black, 1⟩ ?_
    (((GameState.keyed_empty _).absorbForTest _).absorbForTest _) ?_ ?_ ?_
  · exact Sample.collisionFree_image _ _ (by decide +kernel)
  · decide +kernel
  · decide +kernel
  · decide +kernel

end Adjourn.Forfeit
