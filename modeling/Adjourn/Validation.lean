import Adjourn.Unvetted

/-! Validating before a merge and after it. A forged record that a state already holds is
not dropped by a merge, and eviction counts it: the two orders agree exactly where no
forgery crowds a verifying record out of its group. -/

namespace Adjourn.Validation
open Std (ExtTreeMap)
open OrderedMap TopK NormalForm GameState Unvetted Convergence

section View
variable (crypto : Crypto) (params : GameParams) (a b : GameState)

def both : List Record := valuesOf a.records ++ valuesOf b.records

/-- The ids below a given one under which the first state holds a forgery of the group,
and the second holds no record that verifies. -/
def forgedBelow (group : Group) (id : RecordId) : Finset RecordId :=
  {id' ∈ a.ids | a.groupAt id' = some group ∧ id' < id ∧
    (∀ rec ∈ a.records[id']?, rec.verify crypto params = false) ∧
      ∀ rec ∈ b.records[id']?, rec.verify crypto params = false}

/-- The normal form of what verifies still has room in its groups when the forgeries of the
first state are counted. -/
def Uncrowded : Prop :=
  ∀ rec, Survives crypto params (both a b) rec → ∀ group ∈ groupOf rec,
    (rivals crypto params (both a b) group (rec.id crypto)).card +
      (forgedBelow crypto params a b group (rec.id crypto)).card < group.kind.k

end View

variable {crypto : Crypto} {params : GameParams} {records : Set Record} {a b : GameState}
  {rec : Record} {id : RecordId} {group : Group}

theorem mem_both : rec ∈ both a b ↔
    (∃ id : RecordId, a.records[id]? = some rec) ∨ ∃ id : RecordId, b.records[id]? = some rec := by
  rw [both, List.mem_append, mem_valuesOf, mem_valuesOf]

section Keyed
variable (keyedA : a.Keyed crypto) (keyedB : b.Keyed crypto)
include keyedA keyedB

theorem at_own_id (member : rec ∈ both a b) :
    a.records[rec.id crypto]? = some rec ∨ b.records[rec.id crypto]? = some rec := by
  rcases mem_both.1 member with ⟨id, held⟩ | ⟨id, held⟩
  · exact .inl (by rwa [keyedA id rec held])
  · exact .inr (by rwa [keyedB id rec held])

variable (free : crypto.CollisionFree (Record.idInput '' {rec | rec ∈ both a b}))
include free

theorem held_of_standing (standing : Standing crypto params (both a b) rec) :
    (absorbed crypto params a b).records[rec.id crypto]? = some rec := by
  obtain ⟨member, valid, smallest⟩ := standing
  cases theirs : b.records[rec.id crypto]? with
  | none =>
    rw [getElem?_absorbed_none keyedB theirs]
    refine (at_own_id keyedA keyedB member).resolve_right ?_
    rw [theirs]
    exact Option.some_ne_none rec ∘ Eq.symm
  | some other =>
    have inside : other ∈ both a b := mem_both.2 (.inr ⟨_, theirs⟩)
    have own := keyedB _ other theirs
    rw [getElem?_absorbed_some keyedB theirs, resolve]
    split_ifs with takes
    · obtain ⟨valid', wins⟩ := takes
      rcases at_own_id keyedA keyedB member with ours | same
      · have less := (wins rec ours).2 valid
        exact absurd (smallest other inside valid' own) (not_le.2 less)
      · rw [← theirs, same]
    · rcases at_own_id keyedA keyedB member with ours | same
      · exact ours
      · obtain rfl : other = rec := Option.some.inj (theirs.symm.trans same)
        by_contra absent
        refine takes ⟨valid, fun mine held => ?_⟩
        have known : mine ∈ both a b := mem_both.2 (.inl ⟨_, held⟩)
        have ids := keyedA _ mine held
        have differs : mine.sig ≠ other.sig := by
          intro sigs
          exact absent (held.trans (congrArg some (eq_of_id free known member ids sigs)))
        exact ⟨differs, fun ok => lt_of_le_of_ne (smallest mine known ok ids) differs.symm⟩

theorem standing_of_held (held : (absorbed crypto params a b).records[id]? = some rec)
    (valid : rec.verify crypto params = true) : rec.id crypto = id ∧ Standing crypto params (both a b) rec := by
  obtain ⟨rfl, origin⟩ := mem_of_absorbed keyedB keyedA held
  have member : rec ∈ both a b := mem_both.2 (origin.symm.imp (⟨_, ·⟩) (⟨_, ·⟩))
  obtain ⟨least, standing, same⟩ := exists_standing (mem_offerIds.2 ⟨rec, member, valid, rfl⟩)
  have there := held_of_standing keyedA keyedB free standing
  rw [same, held] at there
  exact ⟨rfl, Option.some.inj there ▸ standing⟩

theorem forged_of_held (held : (absorbed crypto params a b).records[id]? = some rec)
    (forged : rec.verify crypto params = false) : a.records[id]? = some rec ∧
      ∀ other ∈ both a b, other.id crypto = id → other.verify crypto params = false := by
  have none' : ∀ other ∈ both a b, other.id crypto = id → other.verify crypto params = false := by
    rintro other member rfl
    by_contra valid
    obtain ⟨least, standing, same⟩ :=
      exists_standing (mem_offerIds.2 ⟨other, member, by simpa using valid, rfl⟩)
    have there := held_of_standing keyedA keyedB free standing
    rw [same, held] at there
    obtain rfl := Option.some.inj there
    rw [standing.2.1] at forged
    cases forged
  refine ⟨?_, none'⟩
  cases theirs : b.records[id]? with
  | none => rwa [getElem?_absorbed_none keyedB theirs] at held
  | some other =>
    rw [getElem?_absorbed_some keyedB theirs, resolve, if_neg] at held
    · exact held
    · rintro ⟨valid, -⟩
      rw [none' other (mem_both.2 (.inr ⟨_, theirs⟩)) (keyedB id other theirs)] at valid
      cases valid

theorem below_absorbed (group : Group) (id : RecordId) :
    below (absorbed crypto params a b).groupAt (absorbed crypto params a b).ids group id =
      rivals crypto params (both a b) group id ∪ forgedBelow crypto params a b group id := by
  ext id'
  simp only [below, forgedBelow, Finset.mem_union, Finset.mem_filter, mem_rivals]
  constructor
  · rintro ⟨member, own, less⟩
    obtain ⟨rec, held⟩ := mem_ids.1 member
    rw [groupAt_of_get held] at own
    cases valid : rec.verify crypto params with
    | true =>
      obtain ⟨same, inside, -⟩ := standing_of_held keyedA keyedB free held valid
      exact .inl ⟨rec, inside, valid, own, same, less⟩
    | false =>
      obtain ⟨ours, none'⟩ := forged_of_held keyedA keyedB free held valid
      refine .inr ⟨mem_ids.2 ⟨rec, ours⟩, (groupAt_of_get ours).trans own, less, ?_, ?_⟩
      · exact fun other at' => none' other (mem_both.2 (.inl ⟨id', at'⟩)) (keyedA id' other at')
      · exact fun other at' => none' other (mem_both.2 (.inr ⟨id', at'⟩)) (keyedB id' other at')
  · rintro (⟨rec, inside, valid, own, rfl, less⟩ | ⟨member, own, less, ours, theirs⟩)
    · obtain ⟨least, standing, same⟩ := exists_standing (mem_offerIds.2 ⟨rec, inside, valid, rfl⟩)
      have held := held_of_standing keyedA keyedB free standing
      obtain ⟨signers, bodies⟩ := Record.id_inj free standing.1 inside same
      rw [same] at held
      exact ⟨mem_ids.2 ⟨least, held⟩, (groupAt_of_get held).trans ((groupOf_congr signers bodies).trans own), less⟩
    · obtain ⟨rec, held⟩ := mem_ids.1 member
      have kept : (absorbed crypto params a b).records[id']? = some rec := by
        cases other : b.records[id']? with
        | none => rw [getElem?_absorbed_none keyedB other, held]
        | some forged =>
          rw [getElem?_absorbed_some keyedB other, resolve, if_neg, held]
          rintro ⟨valid, -⟩
          rw [theirs forged other] at valid
          cases valid
      rw [groupAt_of_get held] at own
      exact ⟨mem_ids.2 ⟨rec, kept⟩, (groupAt_of_get kept).trans own, less⟩

theorem card_below_absorbed (group : Group) (id : RecordId) :
    (below (absorbed crypto params a b).groupAt (absorbed crypto params a b).ids group id).card =
      (rivals crypto params (both a b) group id).card + (forgedBelow crypto params a b group id).card := by
  rw [below_absorbed keyedA keyedB free, Finset.card_union_of_disjoint]
  refine Finset.disjoint_left.2 fun id' rival forged => ?_
  obtain ⟨rec, inside, valid, -, rfl, -⟩ := mem_rivals.1 rival
  obtain ⟨-, -, -, ours, theirs⟩ := Finset.mem_filter.1 forged
  have none' : rec.verify crypto params = false := by
    rcases at_own_id keyedA keyedB inside with held | held
    · exact ours rec held
    · exact theirs rec held
  rw [valid] at none'
  cases none'

theorem kept_iff (held : (absorbed crypto params a b).records[id]? = some rec) :
    id ∈ (absorbed crypto params a b).keptIds ↔ ∀ group ∈ groupOf rec,
      (rivals crypto params (both a b) group id).card + (forgedBelow crypto params a b group id).card <
        group.kind.k := by
  have present : id ∈ (absorbed crypto params a b).ids := mem_ids.2 ⟨rec, held⟩
  rw [keptIds, mem_cut, and_iff_right present, groupAt_of_get held]
  simp only [card_below_absorbed keyedA keyedB free]

theorem survives_of_merged
    (survives : Survives crypto params (valuesOf (a.merged crypto params b).records) rec) :
    Survives crypto params (both a b) rec := by
  obtain ⟨id, held⟩ := mem_valuesOf.1 survives.1.1
  rw [merged_eq, getElem?_evict_eq_some] at held
  obtain ⟨rfl, standing⟩ := standing_of_held keyedA keyedB free held.1 survives.1.2.1
  refine ⟨standing, fun group own => ?_⟩
  have room := (kept_iff keyedA keyedB free held.1).1 held.2 group own
  omega

theorem survives_merged_iff (survives : Survives crypto params (both a b) rec) :
    Survives crypto params (valuesOf (a.merged crypto params b).records) rec ↔
      ∀ group ∈ groupOf rec, (rivals crypto params (both a b) group (rec.id crypto)).card +
        (forgedBelow crypto params a b group (rec.id crypto)).card < group.kind.k := by
  have held := held_of_standing keyedA keyedB free survives.1
  rw [← kept_iff keyedA keyedB free held]
  constructor
  · intro kept
    obtain ⟨id, at'⟩ := mem_valuesOf.1 kept.1.1
    rw [merged_eq, getElem?_evict_eq_some] at at'
    rw [(standing_of_held keyedA keyedB free at'.1 kept.1.2.1).1]
    exact at'.2
  · intro kept
    refine survives.mono (fun other member _ => ?_) ?_
    · obtain ⟨id, at'⟩ := mem_valuesOf.1 member
      rw [merged_eq, getElem?_evict_eq_some] at at'
      exact mem_both.2 ((mem_of_absorbed keyedB keyedA at'.1).2.symm.imp (⟨id, ·⟩) (⟨id, ·⟩))
    · exact mem_valuesOf.2 ⟨rec.id crypto, getElem?_evict_eq_some.2 ⟨held, kept⟩⟩

end Keyed

/-- Merging and then validating gives the same state as validating and then merging, if and
only if no record of the normal form is crowded out by forgeries that the first state
holds. -/
theorem validation_commutes_iff (crypto : Crypto) (params : GameParams) (a b : GameState)
    (free : crypto.CollisionFree (Record.idInput '' {rec | rec ∈ both a b}))
    (keyedA : a.Keyed crypto) (keyedB : b.Keyed crypto) :
    (a.merged crypto params b).filterValid crypto params =
        (a.filterValid crypto params).merged crypto params (b.filterValid crypto params) ↔
      Uncrowded crypto params a b := by
  have inA : ∀ rec ∈ valuesOf a.records, rec ∈ {rec | rec ∈ both a b} :=
    fun rec member => List.mem_append_left _ member
  have inB : ∀ rec ∈ valuesOf b.records, rec ∈ {rec | rec ∈ both a b} :=
    fun rec member => List.mem_append_right _ member
  have inMerged : ∀ rec ∈ valuesOf (a.merged crypto params b).records, rec ∈ {rec | rec ∈ both a b} := by
    intro rec member
    obtain ⟨id, held⟩ := mem_valuesOf.1 member
    rw [merged_eq, getElem?_evict_eq_some] at held
    exact mem_both.2 ((mem_of_absorbed keyedB keyedA held.1).2.symm.imp (⟨id, ·⟩) (⟨id, ·⟩))
  have late : Represents crypto params _ _ := represents_filterValid free inMerged
  have early : Represents crypto params (both a b) _ :=
    (represents_filterValid free inA).merged free (fun rec member => member) (represents_filterValid free inB)
  constructor
  · intro same rec survives
    rw [same] at late
    have held := (early (rec.id crypto) rec).2 ⟨rfl, survives⟩
    exact (survives_merged_iff keyedA keyedB free survives).1 ((late (rec.id crypto) rec).1 held).2
  · intro room
    refine late.unique fun id rec => (early id rec).trans ?_
    refine and_congr_right fun _ => ⟨fun survives => ?_, survives_of_merged keyedA keyedB free⟩
    exact (survives_merged_iff keyedA keyedB free survives).2 (room rec survives)

def forgedOffer : Record := { Sample.decoy with sig := List.replicate 64 0 }

/-- The peer that merges first loses the honest offer to a forgery. -/
theorem validation_after_merge_differs :
    ((GameState.empty.absorbForTest Sample.crypto forgedOffer).merged Sample.crypto Sample.params
        (GameState.empty.absorbForTest Sample.crypto Sample.offer)).filterValid Sample.crypto Sample.params ≠
      ((GameState.empty.absorbForTest Sample.crypto forgedOffer).filterValid Sample.crypto Sample.params).merged
        Sample.crypto Sample.params
        ((GameState.empty.absorbForTest Sample.crypto Sample.offer).filterValid Sample.crypto Sample.params) := by
  decide +kernel

/-- A forgery that the merge itself replaces crowds nothing out. -/
theorem validation_commutes_iff_forgery :
    ((GameState.empty.absorbForTest Sample.crypto Sample.forgery).merged Sample.crypto Sample.params
        (GameState.empty.absorbForTest Sample.crypto Sample.opening)).filterValid Sample.crypto Sample.params =
      ((GameState.empty.absorbForTest Sample.crypto Sample.forgery).filterValid Sample.crypto Sample.params).merged
        Sample.crypto Sample.params
        ((GameState.empty.absorbForTest Sample.crypto Sample.opening).filterValid Sample.crypto Sample.params) ↔
      Uncrowded Sample.crypto Sample.params (GameState.empty.absorbForTest Sample.crypto Sample.forgery)
        (GameState.empty.absorbForTest Sample.crypto Sample.opening) := by
  refine validation_commutes_iff Sample.crypto Sample.params _ _ ?_ ((keyed_empty _).absorbForTest _)
    ((keyed_empty _).absorbForTest _)
  exact Sample.collisionFree_image _ _ (by decide +kernel)

end Adjourn.Validation
