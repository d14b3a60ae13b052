import Adjourn.StateSize
import Adjourn.Unvetted

/-! How many records a returned state has. Every path through `update_state` ends in an
eviction of verifying records, and there are only so many groups. -/

namespace Adjourn.RecordCount
open Std (ExtTreeMap)
open Cbor OrderedMap NormalForm Contract StateSize

variable {crypto : Crypto} {reader : Reader} {params : GameParams} {state game : GameState}
  {parameters bytes result : Bytes} {data : List UpdateData}

theorem settled_apply (op : Op) (holds : state.Holds crypto fun rec => rec.verify crypto params = true) :
    Settled crypto params (op.apply crypto params state) where
  holds := by
    have brought : ∀ rec ∈ [op].flatMap Op.records, rec.verify crypto params = true →
        rec.verify crypto params = true := fun _ _ valid => valid
    exact holds.run brought
  kept := by
    rw [Op.apply_eq]
    exact GameState.keptIds_evict _

theorem settled_filterValid (state : GameState) : Settled crypto params (state.filterValid crypto params) :=
  settled_apply (.merge state) fun id rec held => absurd held (by simp [GameState.empty])

section Updates
variable (settled : Settled crypto params state)
include settled

theorem settled_updateWithState (accepted : updateWithState crypto reader params state bytes = .ok game) :
    Settled crypto params game := by
  obtain ⟨incoming, -, -, rfl⟩ := updateWithState_eq_ok.1 accepted
  exact settled_apply (.merge incoming) settled.holds

theorem settled_updateWithDelta (accepted : updateWithDelta crypto reader params state bytes = .ok game) :
    Settled crypto params game := by
  rcases updateWithDelta_eq_ok.1 accepted with ⟨-, rfl⟩ | ⟨-, delta, -, -, rfl⟩
  · exact settled
  · exact settled_apply (.applyDelta delta) settled.holds

theorem settled_applyUpdate {update : UpdateData}
    (accepted : applyUpdate crypto reader params state update = .ok game) : Settled crypto params game := by
  cases update with
  | state bytes => exact settled_updateWithState settled accepted
  | delta bytes => exact settled_updateWithDelta settled accepted
  | stateAndDelta bytes bytes' =>
    obtain ⟨half, first, second⟩ := applyUpdate_stateAndDelta.1 accepted
    exact settled_updateWithDelta (settled_updateWithState settled first) second
  | unknown => cases accepted
  | relatedState | relatedDelta | relatedStateAndDelta =>
    obtain rfl := Except.ok.inj accepted
    exact settled

theorem settled_applyUpdates (accepted : data.foldlM (applyUpdate crypto reader params) state = .ok game) :
    Settled crypto params game := by
  induction data generalizing state with
  | nil =>
    obtain rfl := Except.ok.inj accepted
    exact settled
  | cons update rest ih =>
    obtain ⟨next, first, accepted⟩ := foldlM_cons_eq_ok.1 accepted
    exact ih (settled_applyUpdate settled first) accepted

theorem filterValid_of_settled : state.filterValid crypto params = state := by
  have same : Unvetted.absorbed crypto params .empty state = state := by
    apply GameState.ext_getElem?
    intro id
    have blank : GameState.empty.records[id]? = none := by simp [GameState.empty]
    cases held : state.records[id]? with
    | none => rw [Unvetted.getElem?_absorbed_none settled.keyed held, blank]
    | some rec =>
      rw [Unvetted.getElem?_absorbed_some settled.keyed held, blank]
      exact if_pos ⟨(settled.holds id rec held).2, fun _ absent => by cases absent⟩
  have evicted : state.filterValid crypto params = (Unvetted.absorbed crypto params .empty state).evict := rfl
  rw [evicted, same]
  apply GameState.ext_getElem?
  intro id
  rw [GameState.getElem?_evict, settled.kept]
  split_ifs with held
  · rfl
  · cases at' : state.records[id]? with
    | none => rfl
    | some rec => exact absurd (GameState.mem_ids.2 ⟨rec, at'⟩) held

theorem card_resignations_le (signer : KeyBytes) :
    {rec ∈ recordSet state | rec.signer = signer ∧ rec.body = .resign}.card ≤ 1 := by
  refine Finset.card_le_one.2 fun rec member rec' member' => ?_
  obtain ⟨held, rfl, body⟩ := Finset.mem_filter.1 member
  obtain ⟨held', signers, body'⟩ := Finset.mem_filter.1 member'
  exact injOn_id settled.keyed held held' (Record.id_congr crypto signers.symm (body.trans body'.symm))

theorem size_le : state.records.size ≤ 40972 := by
  have counted := card_recordSet_le settled
  rwa [recordSet, List.toFinset_card_of_nodup (nodup_valuesOf settled.keyed), valuesOf, List.length_map,
    ExtTreeMap.length_toList] at counted

end Updates

theorem size_summarize (state : GameState) : (state.summarize crypto).size = state.records.size := by
  have keys : (state.records.toList.map fun entry => (entry.1, entry.2.sigDigest crypto)).map Prod.fst =
      state.records.toList.map Prod.fst := by
    rw [List.map_map]
    rfl
  have distinct := (keys ▸ keys_sorted state.records : (List.map Prod.fst _).Pairwise (· < ·))
  rw [List.pairwise_map] at distinct
  have size : (state.summarize crypto).size = (state.records.toList.map fun entry =>
      (entry.1, entry.2.sigDigest crypto)).length :=
    ExtTreeMap.size_ofList (distinct.imp fun less same => less.ne (compare_eq_iff_eq.mp same))
  rw [size, List.length_map, ExtTreeMap.length_toList]

theorem length_pack (summary : Summary) : summary.pack.length = 64 * summary.size := by
  have each : ∀ entry ∈ summary.toList, (entry.1.val ++ entry.2.val).length = 64 := by
    intro entry _
    rw [List.length_append, entry.1.length_eq, entry.2.length_eq]
  rw [Summary.pack, List.length_flatMap, List.map_congr_left each, List.map_const', List.sum_replicate,
    smul_eq_mul, mul_comm, ExtTreeMap.length_toList]

theorem length_summary_le (settled : Settled crypto params state) :
    (state.summarize crypto).encode.length ≤ 64 * state.records.size + 5 := by
  have packed : (state.summarize crypto).pack.length = 64 * state.records.size := by
    rw [length_pack, size_summarize]
  have few : (state.summarize crypto).pack.length ≤ 64 * 40972 := by
    have := size_le settled
    omega
  have header : (head 2 (state.summarize crypto).pack.length).length ≤ 5 :=
    (head_length_le 2 few).trans (by decide)
  rw [Summary.encode, Item.encode, List.length_append]
  omega

/-- Whatever the base bytes and the accepted updates bring, the state that `update_state`
returns holds verifying records under their own ids, two moves and one record of each draw
kind for each signer and ply, and one resignation for each signer; so there are no more than
the plies allow, and its summary takes 64 bytes for each and a header. -/
theorem record_count_bounded (crypto : Crypto) (reader : Reader) (parameters bytes result : Bytes)
    (data : List UpdateData) (reads : reader.RoundTrips)
    (accepted : updateState crypto reader parameters bytes data = .ok result) :
    ∃ params state, decodeParams reader parameters = .ok params ∧
      decodeState crypto reader result = .ok state ∧
      (∀ (id : RecordId) (rec : Record), state.records[id]? = some rec →
        rec.id crypto = id ∧ rec.verify crypto params = true) ∧
      (∀ signer ply, {rec ∈ recordSet state | groupOf rec = some ⟨signer, .move, ply⟩}.card ≤ 2) ∧
      (∀ signer ply, ∀ kind ∈ [Kind.drawOffer, Kind.drawAccept, Kind.drawClaim],
        {rec ∈ recordSet state | groupOf rec = some ⟨signer, kind, ply⟩}.card ≤ 1) ∧
      (∀ signer, {rec ∈ recordSet state | rec.signer = signer ∧ rec.body = .resign}.card ≤ 1) ∧
      state.records.size ≤ 2 * (5 * (MAX_PLY.val + 1) + 1) ∧
      ∃ summary, summarizeState crypto reader parameters result = .ok summary ∧
        summary.length ≤ 64 * state.records.size + 5 := by
  obtain ⟨params, base, game, read, -, folded, rfl⟩ := updateState_eq_ok accepted
  have settled : Settled crypto params game := settled_applyUpdates (settled_filterValid base) folded
  have decodes := decodeState_encode reads settled.keyed
  refine ⟨params, game, read, decodes, settled.holds, ?_, ?_, card_resignations_le settled, size_le settled, ?_⟩
  · exact fun signer ply => card_groupOf_le settled ⟨signer, .move, ply⟩
  · intro signer ply kind draw
    refine (card_groupOf_le settled ⟨signer, kind, ply⟩).trans ?_
    simp only [List.mem_cons, List.not_mem_nil, or_false] at draw
    rcases draw with rfl | rfl | rfl <;> exact le_rfl
  · refine ⟨_, summarizeState_eq read decodes, ?_⟩
    rw [filterValid_of_settled settled]
    exact length_summary_le settled

theorem record_count_bounded_posting :
    ∃ params state, decodeParams Reader.exact Sample.params.encode = .ok params ∧
      decodeState Sample.crypto Reader.exact (GameState.empty.applyDelta Sample.crypto Sample.params
        [Sample.opening]).encode = .ok state ∧
      state.records.size ≤ 2 * (5 * (MAX_PLY.val + 1) + 1) ∧
      ∃ summary, summarizeState Sample.crypto Reader.exact Sample.params.encode
          (GameState.empty.applyDelta Sample.crypto Sample.params [Sample.opening]).encode = .ok summary ∧
        summary.length ≤ 64 * state.records.size + 5 := by
  obtain ⟨params, state, read, decodes, -, -, -, -, few, summarized⟩ := record_count_bounded Sample.crypto
    Reader.exact Sample.params.encode [] _ [.delta (encodeRecords [Sample.opening])] Reader.exact_roundTrips
      (run_posting (show Sample.opening.verify Sample.crypto Sample.params = true by decide +kernel))
  exact ⟨params, state, read, decodes, few, summarized⟩

end Adjourn.RecordCount
