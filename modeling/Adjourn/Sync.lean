import Adjourn.Contract
import Adjourn.Convergence
import Adjourn.Sample

/-! One round of sync. Each peer sends a summary, is answered with a delta and applies
it; both end with the normal form of everything either of them held. -/

namespace Adjourn.Sync
open Std (ExtTreeMap)
open Cbor OrderedMap NormalForm Convergence Contract

section Calls
variable (crypto : Crypto) (reader : Reader) (parameters : Bytes)

/-- What the holder of `mine` is told to send to the holder of `theirs`. -/
def offer (mine theirs : Bytes) : Except ContractError Bytes := do
  let summary ← summarizeState crypto reader parameters theirs
  getStateDelta crypto reader parameters mine summary

/-- What the holder of `mine` stores after one round with the holder of `theirs`. -/
def pull (mine theirs : Bytes) : Except ContractError Bytes := do
  let delta ← offer crypto reader parameters theirs mine
  updateState crypto reader parameters mine [.delta delta]

end Calls

variable {crypto : Crypto} {reader : Reader} {parameters : Bytes} {params : GameParams}
  {offers offers' : List Record} {state other a b : GameState} {rec : Record} {records : Set Record}

theorem mem_deltaAgainst {summary : Summary} : rec ∈ state.deltaAgainst crypto summary ↔
    ∃ id : RecordId, state.records[id]? = some rec ∧ summary[id]? ≠ some (rec.sigDigest crypto) := by
  simp only [GameState.deltaAgainst, List.mem_map, List.mem_filter, Prod.exists, exists_eq_right,
    ExtTreeMap.mem_toList_iff_getElem?_eq_some, bne_iff_ne]

theorem getElem?_summarize (state : GameState) (id : RecordId) :
    (state.summarize crypto)[id]? = state.records[id]?.map (Record.sigDigest crypto) :=
  getElem?_ofList_toList state.records (Record.sigDigest crypto) id

theorem deltaAgainst_summarize (state : GameState) :
    state.deltaAgainst crypto (state.summarize crypto) = [] := by
  refine List.eq_nil_iff_forall_not_mem.2 fun rec member => ?_
  obtain ⟨id, held, differs⟩ := mem_deltaAgainst.1 member
  rw [getElem?_summarize, held] at differs
  exact differs rfl

section Universe
variable (free : crypto.CollisionFree (Record.idInput '' records))
include free

theorem Represents.filterValid_eq (inside : ∀ rec ∈ offers, rec ∈ records)
    (represents : Represents crypto params offers state) :
    state.filterValid crypto params = state :=
  empty_merged free inside represents

theorem Represents.applyDelta_nil (inside : ∀ rec ∈ offers, rec ∈ records)
    (represents : Represents crypto params offers state) :
    state.applyDelta crypto params [] = state :=
  (represents.between.evict free inside).unique represents

theorem Represents.applyDelta_delta
    (digests : crypto.CollisionFree (Record.sigDigestInput '' records))
    (inside : ∀ rec ∈ offers ++ offers', rec ∈ records)
    (left : Represents crypto params offers state) (right : Represents crypto params offers' other) :
    Represents crypto params (offers ++ offers')
      (state.applyDelta crypto params (other.deltaAgainst crypto (state.summarize crypto))) := by
  refine left.absorbBatch free inside (fun rec member => ?_) fun rec survives inRight => ?_
  · obtain ⟨id, held, -⟩ := mem_deltaAgainst.1 member
    exact (right.between.sound id rec held).2.2
  · have kept := survives.mono (fun o m _ => List.mem_append_right offers m) inRight
    have held := right.between.complete rec kept
    by_cases skipped : (state.summarize crypto)[rec.id crypto]? = some (rec.sigDigest crypto)
    · left
      rw [getElem?_summarize, Option.map_eq_some_iff] at skipped
      obtain ⟨mine, atId, digest⟩ := skipped
      obtain ⟨own, -, member⟩ := left.between.sound _ mine atId
      have known : mine ∈ records := inside mine (List.mem_append_left _ member)
      have known' : rec ∈ records := inside rec survives.1.1
      have sigs := Record.sigDigestInput_inj (digests ⟨mine, known, rfl⟩ ⟨rec, known', rfl⟩ digest)
      rwa [← eq_of_id free known known' own sigs]
    · exact .inr (mem_deltaAgainst.2 ⟨_, held, skipped⟩)

end Universe

section Round
variable (reads : reader.RoundTrips) (read : decodeParams reader parameters = .ok params)
include reads read

theorem offer_eq {mine theirs : Bytes} (decodesA : decodeState crypto reader mine = .ok a)
    (decodesB : decodeState crypto reader theirs = .ok b) :
    offer crypto reader parameters mine theirs =
      .ok (let delta := (a.filterValid crypto params).deltaAgainst crypto
            ((b.filterValid crypto params).summarize crypto)
        if delta.isEmpty then [] else encodeRecords delta) := by
  rw [offer, summarizeState_eq read decodesB]
  exact getStateDelta_eq reads read decodesA _

theorem pull_eq {mine theirs : Bytes} (decodesA : decodeState crypto reader mine = .ok a)
    (decodesB : decodeState crypto reader theirs = .ok b)
    (free : crypto.CollisionFree (Record.idInput '' records))
    (digests : crypto.CollisionFree (Record.sigDigestInput '' records))
    (inside : ∀ rec ∈ valuesOf a.records ++ valuesOf b.records, rec ∈ records) :
    ∃ state, pull crypto reader parameters mine theirs = .ok state.encode ∧
      Represents crypto params (valuesOf a.records ++ valuesOf b.records) state := by
  obtain ⟨inA, inB⟩ := List.forall_mem_append.1 inside
  have left : Represents crypto params _ _ := represents_filterValid free inA
  have right : Represents crypto params _ _ := represents_filterValid free inB
  refine ⟨_, ?_, Represents.applyDelta_delta free digests inside left right⟩
  have valid : ∀ rec ∈ (b.filterValid crypto params).deltaAgainst crypto
      ((a.filterValid crypto params).summarize crypto), rec.verify crypto params = true := by
    intro rec member
    obtain ⟨id, held, -⟩ := mem_deltaAgainst.1 member
    exact (right.between.sound id rec held).2.1
  have applied := updateWithDelta_eq reads valid (Represents.applyDelta_nil free inA left)
  rw [pull, offer_eq reads read decodesB decodesA]
  simp only [bind, Except.bind, updateState, read, decodesA, List.foldlM_cons, List.foldlM_nil, applyUpdate]
  rw [applied]
  rfl

theorem settled (represents : Represents crypto params offers state) :
    validateState crypto reader parameters state.encode = .ok .valid ∧
      offer crypto reader parameters state.encode state.encode = .ok [] := by
  have decodes := decodeState_encode reads represents.keyed
  refine ⟨validateState_encode reads read represents.keyed represents.allValid, ?_⟩
  rw [offer_eq reads read decodes decodes, deltaAgainst_summarize]
  rfl

end Round

/-- After one round in both directions the two peers store the same bytes, the
contract validates them, and neither has anything left to send. -/
theorem one_round_sync (crypto : Crypto) (reader : Reader) (parameters left right : Bytes)
    (params : GameParams) (a b : GameState) (reads : reader.RoundTrips)
    (read : decodeParams reader parameters = .ok params)
    (decodesA : decodeState crypto reader left = .ok a)
    (decodesB : decodeState crypto reader right = .ok b)
    (free : crypto.CollisionFree
      (Record.idInput '' {rec | rec ∈ valuesOf a.records ++ valuesOf b.records}))
    (digests : crypto.CollisionFree
      (Record.sigDigestInput '' {rec | rec ∈ valuesOf a.records ++ valuesOf b.records})) :
    ∃ left' right', pull crypto reader parameters left right = .ok left' ∧
      pull crypto reader parameters right left = .ok right' ∧ left' = right' ∧
      validateState crypto reader parameters left' = .ok .valid ∧
      validateState crypto reader parameters right' = .ok .valid ∧
      offer crypto reader parameters left' right' = .ok [] ∧
      offer crypto reader parameters right' left' = .ok [] := by
  have swap : ∀ rec ∈ valuesOf b.records ++ valuesOf a.records,
      rec ∈ valuesOf a.records ++ valuesOf b.records :=
    fun rec member => List.mem_append.2 (List.mem_append.1 member).symm
  obtain ⟨first, stored, represents⟩ :=
    pull_eq reads read decodesA decodesB free digests fun rec member => member
  obtain ⟨second, stored', represents'⟩ := pull_eq reads read decodesB decodesA free digests swap
  obtain rfl : first = second := by
    refine represents_eq represents represents' fun rec _ => ?_
    rw [List.mem_append, List.mem_append, or_comm]
  obtain ⟨valid, rest⟩ := settled reads read represents
  exact ⟨_, _, stored, stored', rfl, valid, valid, rest, rest⟩

/-- One peer stores a player's move, the other a forgery under the same id. -/
theorem one_round_sync_forgery :
    ∃ left' right',
      pull Sample.crypto Reader.exact Sample.params.encode
        (GameState.empty.absorbForTest Sample.crypto Sample.opening).encode
        (GameState.empty.absorbForTest Sample.crypto Sample.forgery).encode = .ok left' ∧
      pull Sample.crypto Reader.exact Sample.params.encode
        (GameState.empty.absorbForTest Sample.crypto Sample.forgery).encode
        (GameState.empty.absorbForTest Sample.crypto Sample.opening).encode = .ok right' ∧
      left' = right' ∧
      validateState Sample.crypto Reader.exact Sample.params.encode left' = .ok .valid ∧
      validateState Sample.crypto Reader.exact Sample.params.encode right' = .ok .valid ∧
      offer Sample.crypto Reader.exact Sample.params.encode left' right' = .ok [] ∧
      offer Sample.crypto Reader.exact Sample.params.encode right' left' = .ok [] := by
  have read := decodeParams_encode Reader.exact_roundTrips Sample.params
  have decodes : ∀ rec : Record, decodeState Sample.crypto Reader.exact
      (GameState.empty.absorbForTest Sample.crypto rec).encode =
        .ok (GameState.empty.absorbForTest Sample.crypto rec) := fun rec =>
    decodeState_encode Reader.exact_roundTrips ((GameState.keyed_empty _).absorbForTest rec)
  exact one_round_sync Sample.crypto Reader.exact Sample.params.encode _ _ Sample.params _ _
    Reader.exact_roundTrips read (decodes _) (decodes _)
    (Sample.collisionFree_image _ _ (by decide +kernel))
    (Sample.collisionFree_image _ _ (by decide +kernel))

end Adjourn.Sync
