import Adjourn.Eviction
import Adjourn.Sample

/-! Eviction as an operation on maps: it distributes over their union, and says of every
group at once how many of its records are left. -/

namespace Adjourn
open Std (ExtTreeMap)
open OrderedMap TopK

namespace GameState

/-- The union of two maps. Where both hold an id, the second decides. -/
def union (state other : GameState) : GameState := ⟨state.records ∪ other.records⟩

/-- Two maps that hold the same record under every id they share. -/
def Agrees (state other : GameState) : Prop :=
  ∀ (id : RecordId) (rec rec' : Record),
    state.records[id]? = some rec → other.records[id]? = some rec' → rec = rec'

def Included (state other : GameState) : Prop :=
  ∀ (id : RecordId) (rec : Record), state.records[id]? = some rec → other.records[id]? = some rec

def members (state : GameState) (group : Group) : Finset RecordId :=
  {id ∈ state.ids | state.groupAt id = some group}

variable {state other small large : GameState} {id : RecordId} {rec : Record} {group : Group}

theorem getElem?_union : (state.union other).records[id]? = other.records[id]?.or state.records[id]? :=
  ExtTreeMap.getElem?_union

theorem ids_union (state other : GameState) : (state.union other).ids = state.ids ∪ other.ids := by
  ext id
  simp only [Finset.mem_union, mem_ids, getElem?_union]
  cases state.records[id]? <;> cases other.records[id]? <;> simp

theorem Included.groupAt (included : small.Included large) (held : id ∈ small.ids) :
    large.groupAt id = small.groupAt id := by
  obtain ⟨rec, held⟩ := mem_ids.1 held
  rw [groupAt_of_get held, groupAt_of_get (included id rec held)]

theorem Included.ids (included : small.Included large) : small.ids ⊆ large.ids := by
  intro id held
  obtain ⟨rec, held⟩ := mem_ids.1 held
  exact mem_ids.2 ⟨rec, included id rec held⟩

theorem Included.keptIds (included : small.Included large) :
    small.keptIds = cut large.groupAt (fun group => group.kind.k) small.ids :=
  cut_congr fun _ held => (included.groupAt held).symm

theorem included_evict (state : GameState) : state.evict.Included state :=
  fun _ _ kept => (getElem?_evict_eq_some.1 kept).1

theorem Agrees.included_left (agrees : state.Agrees other) : state.Included (state.union other) := by
  intro id rec held
  rw [getElem?_union]
  cases held' : other.records[id]? with
  | none => exact held
  | some rec' => exact congrArg some (agrees id rec rec' held held').symm

theorem included_right (state other : GameState) : other.Included (state.union other) := by
  intro id rec held
  rw [getElem?_union, held]
  rfl

theorem Agrees.mono (agrees : state.Agrees other) {state' other' : GameState}
    (left : state'.Included state) (right : other'.Included other) : state'.Agrees other' :=
  fun id rec rec' held held' => agrees id rec rec' (left id rec held) (right id rec' held')

theorem Agrees.included_union (agrees : state.Agrees other) {state' other' : GameState}
    (left : state'.Included state) (right : other'.Included other) :
    (state'.union other').Included (state.union other) := by
  intro id rec held
  rw [getElem?_union] at held
  cases held' : other'.records[id]? with
  | none =>
    rw [held', Option.none_or] at held
    exact agrees.included_left id rec (left id rec held)
  | some rec' =>
    rw [held', Option.some_or] at held
    exact Option.some.inj held ▸ included_right state other id rec' (right id rec' held')

theorem evict_eq_of_keptIds (included : small.Included large) (kept : small.keptIds = large.keptIds) :
    small.evict = large.evict := by
  apply ext_getElem?
  intro id
  rw [getElem?_evict, getElem?_evict, kept]
  split_ifs with survives
  · obtain ⟨rec, held⟩ := mem_ids.1 (cut_subset (kept ▸ survives : id ∈ small.keptIds))
    rw [held, included id rec held]
  · rfl

theorem evict_union_evict (agrees : state.Agrees other) :
    (state.evict.union other.evict).evict = (state.union other).evict := by
  have left := included_evict state
  have right := included_evict other
  have whole := agrees.included_union left right
  refine evict_eq_of_keptIds whole ?_
  rw [whole.keptIds, ids_union, ids_evict, ids_evict, agrees.included_left.keptIds,
    (included_right state other).keptIds, cut_union_cut, keptIds, ids_union]

theorem evict_evict (state : GameState) : state.evict.evict = state.evict := by
  apply ext_getElem?
  intro id
  rw [getElem?_evict, keptIds_evict]
  split_ifs with held
  · rfl
  · cases there : state.evict.records[id]? with
    | none => rfl
    | some rec => exact absurd (mem_ids.2 ⟨rec, there⟩) held

theorem survives_of_included (included : small.Included large) (held : small.records[id]? = some rec)
    (survives : id ∈ large.evict.ids) : small.evict.records[id]? = some rec := by
  rw [ids_evict] at survives
  refine getElem?_evict_eq_some.2 ⟨held, ?_⟩
  rw [included.keptIds]
  exact mem_cut_of_subset included.ids (mem_ids.2 ⟨rec, held⟩) survives

theorem members_evict (state : GameState) (group : Group) :
    state.evict.members group = {id ∈ state.keptIds | state.groupAt id = some group} := by
  rw [members, ids_evict]
  refine Finset.filter_congr fun id kept => ?_
  rw [(included_evict state).groupAt (ids_evict state ▸ kept)]

theorem members_evict_of_small (few : (state.members group).card ≤ group.kind.k) :
    state.evict.members group = state.members group := by
  rw [members_evict]
  ext id
  rw [members, Finset.mem_filter, Finset.mem_filter]
  refine and_congr_left fun own => ⟨fun kept => cut_subset kept, fun held => ?_⟩
  refine mem_cut_of_small held fun group' own' => ?_
  obtain rfl : group = group' := Option.some.inj (own.symm.trans own')
  exact few

theorem card_members_evict (many : group.kind.k < (state.members group).card) :
    (state.evict.members group).card = group.kind.k := by
  have enough := card_group_cut (k := fun own : Group => own.kind.k) many.le
  rw [members_evict]
  exact le_antisymm card_group_cut_le enough

theorem getElem?_evict_of_ungrouped (held : state.records[id]? = some rec) (alone : groupOf rec = none) :
    state.evict.records[id]? = some rec := by
  refine getElem?_evict_eq_some.2 ⟨held, mem_cut.2 ⟨mem_ids.2 ⟨rec, held⟩, fun group own => ?_⟩⟩
  rw [groupAt_of_get held, alone] at own
  cases own

/-- Top-K eviction distributes over the union of maps that agree where they overlap, does
nothing the second time, and is monotone: what survives in a map survives in every part of
it. A group of at most K records loses none, a larger one is left with exactly K of its
own, and a resignation is never touched. The records need not verify, nor be held under
their own ids. -/
theorem evict_distributes :
    (∀ state other : GameState, state.Agrees other →
      (state.evict.union other.evict).evict = (state.union other).evict) ∧
    (∀ state : GameState, state.evict.evict = state.evict) ∧
    (∀ small large : GameState, small.Included large → ∀ (id : RecordId) (rec : Record),
      small.records[id]? = some rec → large.evict.records[id]? = some rec →
        small.evict.records[id]? = some rec) ∧
    (∀ state : GameState, state.evict.Included state ∧ ∀ group : Group,
      ((state.members group).card ≤ group.kind.k → state.evict.members group = state.members group) ∧
      (group.kind.k < (state.members group).card → (state.evict.members group).card = group.kind.k)) ∧
    ∀ (state : GameState) (id : RecordId) (rec : Record),
      state.records[id]? = some rec → rec.body = .resign → state.evict.records[id]? = some rec := by
  refine ⟨fun state other agrees => evict_union_evict agrees, evict_evict, ?_, ?_, ?_⟩
  · intro small large included id rec held survives
    exact survives_of_included included held (mem_ids.2 ⟨rec, survives⟩)
  · intro state
    exact ⟨included_evict state, fun group => ⟨members_evict_of_small, card_members_evict⟩⟩
  · intro state id rec held resigns
    refine getElem?_evict_of_ungrouped held ?_
    simp [groupOf, resigns, Body.ply]

/-- For an offer and the same player's other offer, of which one is left. -/
theorem evict_distributes_offers :
    ((empty.absorbForTest Sample.crypto Sample.offer).evict.union
        (empty.absorbForTest Sample.crypto Sample.decoy).evict).evict =
      ((empty.absorbForTest Sample.crypto Sample.offer).union
        (empty.absorbForTest Sample.crypto Sample.decoy)).evict := by
  refine evict_distributes.1 _ _ fun id rec rec' held held' => ?_
  have apart : Sample.offer.id Sample.crypto ≠ Sample.decoy.id Sample.crypto := by decide +kernel
  simp only [absorbForTest, empty, ExtTreeMap.getElem?_insert, ExtTreeMap.getElem?_empty,
    compare_eq_iff_eq, Option.ite_none_right_eq_some] at held held'
  exact absurd (held.1.trans held'.1.symm) apart

end GameState

end Adjourn
