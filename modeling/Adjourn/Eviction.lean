import Adjourn.State
import Adjourn.TopK

/-! Eviction is the grouped top-K selection of a state's ids. -/

namespace Adjourn
open Std (ExtTreeMap)
open OrderedMap TopK

namespace GameState

theorem ext_getElem? {state other : GameState}
    (same : ∀ id : RecordId, state.records[id]? = other.records[id]?) : state = other := by
  cases state
  cases other
  exact congrArg GameState.mk (ExtTreeMap.ext_getElem? same)

def ids (state : GameState) : Finset RecordId := (state.records.toList.map Prod.fst).toFinset

theorem mem_ids {state : GameState} {id : RecordId} :
    id ∈ state.ids ↔ ∃ rec, state.records[id]? = some rec := by
  simp only [ids, List.mem_toFinset, List.mem_map, Prod.exists,
    ExtTreeMap.mem_toList_iff_getElem?_eq_some]
  exact exists_comm.trans (exists_congr fun rec => by simp)

def groupAt (state : GameState) (id : RecordId) : Option Group := state.records[id]?.bind groupOf

theorem groupAt_of_get {state : GameState} {id : RecordId} {rec : Record}
    (held : state.records[id]? = some rec) : state.groupAt id = groupOf rec := by
  simp [groupAt, held]

def keptIds (state : GameState) : Finset RecordId :=
  cut state.groupAt (fun group => group.kind.k) state.ids

theorem mem_keysIn {state : GameState} {id : RecordId} {group : Group} :
    id ∈ keysIn groupOf state.records.toList group ↔ id ∈ state.ids ∧ state.groupAt id = some group := by
  simp only [keysIn, List.mem_map, List.mem_filter, decide_eq_true_eq, Prod.exists,
    ExtTreeMap.mem_toList_iff_getElem?_eq_some, mem_ids]
  constructor
  · rintro ⟨key, rec, ⟨held, own⟩, rfl⟩
    exact ⟨⟨rec, held⟩, (groupAt_of_get held).trans own⟩
  · rintro ⟨⟨rec, held⟩, own⟩
    exact ⟨id, rec, ⟨held, (groupAt_of_get held).symm.trans own⟩, rfl⟩

theorem keysIn_sorted (state : GameState) (group : Group) :
    (keysIn groupOf state.records.toList group).Pairwise (· < ·) := by
  have whole := keys_sorted state.records
  exact whole.sublist (List.filter_sublist.map _)

/-- The grouping loop of `evict` collects each group's ids in ascending order. -/
theorem getD_groups (state : GameState) (group : Group) :
    state.groups[group]?.getD [] = keysIn groupOf state.records.toList group := by
  have loop : state.groups = state.records.toList.foldl (push groupOf) ∅ := by
    rw [groups, ExtTreeMap.foldl_eq_foldl_toList]
    congr 1
    funext groups entry
    unfold push
    cases groupOf entry.2 <;> rfl
  rw [loop, getD_foldl_push]
  simp

theorem card_below (state : GameState) (group : Group) (id : RecordId) :
    (below state.groupAt state.ids group id).card =
      ((keysIn groupOf state.records.toList group).filter (· < id)).length := by
  have nodup := ((state.keysIn_sorted group).filter (· < id)).imp ne_of_lt
  rw [← List.toFinset_card_of_nodup nodup]
  congr 1
  ext other
  simp only [below, Finset.mem_filter, List.mem_toFinset, List.mem_filter, mem_keysIn,
    decide_eq_true_eq, and_assoc]

theorem mem_drop_groups {state : GameState} {id : RecordId} {group : Group} :
    id ∈ (state.groups[group]?.getD []).drop group.kind.k ↔
      id ∈ state.ids ∧ state.groupAt id = some group ∧
        group.kind.k ≤ (below state.groupAt state.ids group id).card := by
  rw [getD_groups, mem_drop_iff (state.keysIn_sorted group), mem_keysIn, card_below, and_assoc]

private theorem getElem?_foldl_drop (entries : List (Group × List RecordId))
    (records : ExtTreeMap RecordId Record) (id : RecordId) :
    (entries.foldl (fun records entry =>
      if entry.1.kind.k < entry.2.length then (entry.2.drop entry.1.kind.k).foldl ExtTreeMap.erase records
      else records) records)[id]? =
    if ∃ entry ∈ entries, id ∈ entry.2.drop entry.1.kind.k then none else records[id]? := by
  induction entries generalizing records with
  | nil => simp
  | cons entry rest ih =>
    rw [List.foldl_cons, ih]
    by_cases tooMany : entry.1.kind.k < entry.2.length
    · rw [if_pos tooMany, getElem?_foldl_erase]
      by_cases later : ∃ entry ∈ rest, id ∈ entry.2.drop entry.1.kind.k
      · obtain ⟨other, member, out⟩ := later
        rw [if_pos ⟨other, member, out⟩, if_pos ⟨other, List.mem_cons_of_mem _ member, out⟩]
      · by_cases here : id ∈ entry.2.drop entry.1.kind.k
        · rw [if_neg later, if_pos here, if_pos ⟨entry, List.mem_cons_self, here⟩]
        · rw [if_neg later, if_neg here, if_neg]
          simp only [List.mem_cons, exists_eq_or_imp, not_or]
          exact ⟨here, later⟩
    · have nothing : entry.2.drop entry.1.kind.k = [] := List.drop_eq_nil_of_le (not_lt.1 tooMany)
      simp only [tooMany, if_false, List.mem_cons, exists_eq_or_imp, nothing, List.not_mem_nil, false_or]

theorem getElem?_evict (state : GameState) (id : RecordId) :
    state.evict.records[id]? = if id ∈ state.keptIds then state.records[id]? else none := by
  have loops : state.evict.records[id]? =
      if ∃ entry ∈ state.groups.toList, id ∈ entry.2.drop entry.1.kind.k then none
      else state.records[id]? := by
    rw [← getElem?_foldl_drop, evict, ExtTreeMap.foldl_eq_foldl_toList]
  have dropped : (∃ entry ∈ state.groups.toList, id ∈ entry.2.drop entry.1.kind.k) ↔
      ∃ group : Group, id ∈ (state.groups[group]?.getD []).drop group.kind.k := by
    constructor
    · rintro ⟨⟨group, ids⟩, member, out⟩
      have held : state.groups[group]? = some ids := ExtTreeMap.mem_toList_iff_getElem?_eq_some.1 member
      exact ⟨group, by simpa [held] using out⟩
    · rintro ⟨group, out⟩
      cases held : state.groups[group]? with
      | none => simp [held] at out
      | some ids =>
        exact ⟨(group, ids), ExtTreeMap.mem_toList_iff_getElem?_eq_some.2 held, by simpa [held] using out⟩
  rw [loops]
  by_cases out : ∃ group : Group, id ∈ (state.groups[group]?.getD []).drop group.kind.k
  · rw [if_pos (dropped.2 out), if_neg]
    obtain ⟨group, out⟩ := out
    obtain ⟨-, own, many⟩ := mem_drop_groups.1 out
    intro kept
    exact absurd many (not_le.2 ((mem_cut.1 kept).2 group own))
  · rw [if_neg (fun lost => out (dropped.1 lost))]
    split_ifs with kept
    · rfl
    · by_contra held
      obtain ⟨rec, held⟩ := Option.ne_none_iff_exists'.1 held
      refine kept (mem_cut.2 ⟨mem_ids.2 ⟨rec, held⟩, fun group own => ?_⟩)
      by_contra many
      exact out ⟨group, mem_drop_groups.2 ⟨mem_ids.2 ⟨rec, held⟩, own, not_lt.1 many⟩⟩

theorem getElem?_evict_eq_some {state : GameState} {id : RecordId} {rec : Record} :
    state.evict.records[id]? = some rec ↔ state.records[id]? = some rec ∧ id ∈ state.keptIds := by
  rw [getElem?_evict]
  split_ifs with kept <;> simp [kept]

theorem ids_evict (state : GameState) : state.evict.ids = state.keptIds := by
  ext id
  simp only [mem_ids, getElem?_evict_eq_some]
  constructor
  · rintro ⟨rec, -, kept⟩
    exact kept
  · intro kept
    obtain ⟨rec, held⟩ := mem_ids.1 (cut_subset kept)
    exact ⟨rec, held, kept⟩

theorem keptIds_evict (state : GameState) : state.evict.keptIds = state.evict.ids := by
  have groups : ∀ id ∈ state.keptIds, state.evict.groupAt id = state.groupAt id := by
    intro id kept
    rw [groupAt, getElem?_evict, if_pos kept, groupAt]
  rw [keptIds, ids_evict, cut_congr groups]
  exact cut_idempotent

end GameState

end Adjourn
