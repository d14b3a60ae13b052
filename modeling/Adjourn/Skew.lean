import Adjourn.Watch

/-! When the warning about a previous contract is stale. What came across by a merge may be
evicted again, and the detector looks for ids. -/

namespace Adjourn.Skew
open Std (ExtTreeMap)
open OrderedMap TopK NormalForm Watch

/-- Every record of the old contract that others have signed is among the K smallest ids of
its group in all that was offered. -/
def Retained (crypto : Crypto) (params : GameParams) (offers : List Record) (previous : GameState)
    (ours : KeyBytes) : Prop :=
  ∀ rec ∈ valuesOf previous.records, rec.signer ≠ ours →
    ∀ group ∈ groupOf rec, (rivals crypto params offers group (rec.id crypto)).card < group.kind.k

variable {crypto : Crypto} {params : GameParams} {offers : List Record} {state current previous : GameState}
  {ours : KeyBytes} {rec : Record} {skewed : Bool}

theorem opponentMovedOnPrevious_eq_false : opponentMovedOnPrevious current previous ours = false ↔
    ∀ (id : RecordId) (rec : Record), previous.records[id]? = some rec → rec.signer ≠ ours → id ∈ current.ids := by
  have present : ∀ id, current.records.contains id = true ↔ id ∈ current.ids := by
    intro id
    rw [ExtTreeMap.contains_iff_mem, ExtTreeMap.mem_iff_isSome_getElem?, Option.isSome_iff_exists, GameState.mem_ids]
  rw [opponentMovedOnPrevious, List.any_eq_false]
  simp only [Prod.forall, ExtTreeMap.mem_toList_iff_getElem?_eq_some, Bool.and_eq_true, decide_eq_true_eq,
    Bool.not_eq_true', not_and, Bool.not_eq_false, present]

theorem recomputeSkew_some (current previous : GameState) (ours : KeyBytes) (skewed : Bool) :
    recomputeSkew current (some previous) ours skewed =
      (opponentMovedOnPrevious current previous ours,
        if opponentMovedOnPrevious current previous ours = skewed then none
        else some (if opponentMovedOnPrevious current previous ours then SKEW_WARNING else SKEW_RESOLVED)) := by
  unfold recomputeSkew
  by_cases same : opponentMovedOnPrevious current previous ours = skewed
  · simp [same]
  · simp [same]

section Universe
variable {records : Set Record} (free : crypto.CollisionFree (Record.idInput '' records))
  (inside : ∀ other ∈ offers, other ∈ records) (represents : Represents crypto params offers state)
include free inside represents

theorem mem_ids_iff (member : rec ∈ offers) (valid : rec.verify crypto params = true) :
    rec.id crypto ∈ state.ids ↔
      ∀ group ∈ groupOf rec, (rivals crypto params offers group (rec.id crypto)).card < group.kind.k := by
  constructor
  · intro held
    obtain ⟨other, held⟩ := GameState.mem_ids.1 held
    obtain ⟨same, survives⟩ := (represents _ other).1 held
    obtain ⟨signers, bodies⟩ := Record.id_inj free (inside other survives.1.1) (inside rec member) same
    rw [← groupOf_congr signers bodies, ← same]
    exact survives.2
  · intro few
    obtain ⟨other, standing, same⟩ := exists_standing (mem_offerIds.2 ⟨rec, member, valid, rfl⟩)
    obtain ⟨signers, bodies⟩ := Record.id_inj free (inside other standing.1) (inside rec member) same
    have survives : Survives crypto params offers other := by
      refine ⟨standing, ?_⟩
      rw [groupOf_congr signers bodies, same]
      exact few
    exact GameState.mem_ids.2 ⟨other, (represents _ other).2 ⟨same, survives⟩⟩

/-- Nothing is reported exactly when nothing of the old contract was evicted. -/
theorem opponentMovedOnPrevious_iff (keyed : previous.Keyed crypto) (valid : previous.allValid crypto params = true)
    (brought : ∀ rec ∈ valuesOf previous.records, rec ∈ offers) :
    opponentMovedOnPrevious state previous ours = false ↔ Retained crypto params offers previous ours := by
  rw [opponentMovedOnPrevious_eq_false]
  constructor
  · intro all rec listed foreign
    obtain ⟨id, held⟩ := mem_valuesOf.1 listed
    obtain rfl := keyed id rec held
    refine (mem_ids_iff free inside represents (brought rec listed) ?_).1 (all _ rec held foreign)
    exact GameState.allValid_iff.1 valid _ rec held
  · intro retained id rec held foreign
    have listed : rec ∈ valuesOf previous.records := mem_valuesOf.2 ⟨id, held⟩
    obtain rfl := keyed id rec held
    refine (mem_ids_iff free inside represents (brought rec listed) ?_).2 (retained rec listed foreign)
    exact GameState.allValid_iff.1 valid _ rec held

end Universe

/-- After the old contract's records were merged, and whatever is merged later, the detector
reports nothing exactly when none of the others' records on the old contract has K smaller
ids in its group among all that was offered; and exactly then a warning is neither given
nor kept. -/
theorem skew_cleared_iff (crypto : Crypto) (params : GameParams) (records : Set Record)
    (free : crypto.CollisionFree (Record.idInput '' records)) (current previous : GameState) (later : List Op)
    (ours : KeyBytes) (skewed : Bool) (keyed : current.Keyed crypto) (keyed' : previous.Keyed crypto)
    (valid : current.allValid crypto params = true) (valid' : previous.allValid crypto params = true)
    (inside : ∀ rec ∈ offered current (.merge previous :: later), rec ∈ records) :
    (opponentMovedOnPrevious (run crypto params current (.merge previous :: later)) previous ours = false ↔
      Retained crypto params (offered current (.merge previous :: later)) previous ours) ∧
    (recomputeSkew (run crypto params current (.merge previous :: later)) (some previous) ours skewed =
        (false, if skewed then some SKEW_RESOLVED else none) ↔
      Retained crypto params (offered current (.merge previous :: later)) previous ours) := by
  have represents := run_represents free current (.merge previous :: later) (by simp) keyed valid inside
  have brought : ∀ rec ∈ valuesOf previous.records, rec ∈ offered current (.merge previous :: later) := by
    intro rec listed
    exact List.mem_append_right _ (List.mem_append_left _ listed)
  have detector :
      opponentMovedOnPrevious (run crypto params current (.merge previous :: later)) previous ours = false ↔
        Retained crypto params (offered current (.merge previous :: later)) previous ours :=
    opponentMovedOnPrevious_iff free inside represents keyed' valid' brought
  refine ⟨detector, ?_⟩
  rw [recomputeSkew_some, ← detector]
  cases opponentMovedOnPrevious (run crypto params current (.merge previous :: later)) previous ours with
  | false => cases skewed <;> simp
  | true => simp

def sampleOld : GameState := GameState.empty.absorbForTest Sample.crypto Sample.offer

def sampleCurrent : GameState := GameState.empty.absorbForTest Sample.crypto Sample.decoy

theorem sample_offered : ∀ rec ∈ offered sampleCurrent [.merge sampleOld], rec ∈ [Sample.decoy, Sample.offer] := by
  decide +kernel

theorem sample_free : Sample.crypto.CollisionFree (Record.idInput '' {rec | rec ∈ [Sample.decoy, Sample.offer]}) :=
  Sample.collisionFree_image Record.idInput [Sample.decoy, Sample.offer] (by decide +kernel)

/-- For two offers of one ply, one on each contract: the one with the larger id is evicted. -/
theorem skew_cleared_iff_offers :
    ¬Retained Sample.crypto Sample.params (offered sampleCurrent [.merge sampleOld]) sampleOld Sample.blackKey := by
  intro retained
  have cleared := (skew_cleared_iff Sample.crypto Sample.params _ sample_free sampleCurrent sampleOld []
    Sample.blackKey true ((GameState.keyed_empty _).absorbForTest _) ((GameState.keyed_empty _).absorbForTest _)
    (by decide +kernel) (by decide +kernel) sample_offered).1.2 retained
  exact absurd cleared (by decide +kernel)

/-- Everything on the old contract has been merged, and still Black is told that White is
moving there. -/
theorem skew_reported_after_merge :
    sampleCurrent.Keyed Sample.crypto ∧ sampleOld.Keyed Sample.crypto ∧
    sampleCurrent.allValid Sample.crypto Sample.params = true ∧
    sampleOld.allValid Sample.crypto Sample.params = true ∧
    opponentMovedOnPrevious (sampleCurrent.merged Sample.crypto Sample.params sampleOld) sampleOld
      Sample.blackKey = true ∧
    recomputeSkew (sampleCurrent.merged Sample.crypto Sample.params sampleOld) (some sampleOld) Sample.blackKey
      false = (true, some SKEW_WARNING) := by
  refine ⟨(GameState.keyed_empty _).absorbForTest _, (GameState.keyed_empty _).absorbForTest _, by decide +kernel,
    by decide +kernel, by decide +kernel, by decide +kernel⟩

end Adjourn.Skew
