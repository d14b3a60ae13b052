import Adjourn.Batches
import Adjourn.Watch

/-! A watcher mirrors the contract: its merge arms skip empty payloads and check nothing,
and still they arrive at the bytes that the contract stores. -/

namespace Adjourn.Mirror
open Cbor OrderedMap NormalForm Convergence Contract StateSize Batches Session Watch

variable {crypto : Crypto} {reader : Reader} {parameters bytes result : Bytes} {params : GameParams}
  {start game out : GameState} {update : UpdateData} {data payloads : List UpdateData}
  {offers : List Record} {records : Set Record}

def followUpdate (crypto : Crypto) (reader : Reader) (params : GameParams) (held : GameState)
    (update : UpdateData) : Except SessionError GameState :=
  (mergeUpdate crypto reader params held update).map (Option.getD · held)

/-- The merge arms over a run of payloads, without the return at a decided game. -/
def follow (crypto : Crypto) (reader : Reader) (params : GameParams) (held : GameState)
    (payloads : List UpdateData) : Except SessionError GameState :=
  payloads.foldlM (followUpdate crypto reader params) held

/-- The contract merges the empty state where the watcher merges nothing. -/
theorem mergeState_eq (settled : game.evict = game)
    (accepted : updateWithState crypto reader params game bytes = .ok out) :
    mergeState crypto reader params game bytes = .ok out := by
  obtain ⟨incoming, decodes, -, rfl⟩ := updateWithState_eq_ok.1 accepted
  rw [decodeState_eq_ok] at decodes
  unfold mergeState decodeStatePayload
  split_ifs at decodes ⊢ with nothing
  · rw [decodes]
    exact congrArg Except.ok settled.symm
  · rw [GameState.decode, decodes]
    rfl

theorem mergeDelta_eq (accepted : updateWithDelta crypto reader params game bytes = .ok out) :
    mergeDelta crypto reader params game bytes = .ok out := by
  unfold mergeDelta decodeDeltaPayload
  rcases updateWithDelta_eq_ok.1 accepted with ⟨nothing, rfl⟩ | ⟨sent, delta, decodes, -, rfl⟩
  · rw [if_pos nothing]
    rfl
  · rw [sent, if_neg Bool.false_ne_true, decodes]
    rfl

theorem followUpdate_eq (settled : game.evict = game)
    (accepted : applyUpdate crypto reader params game update = .ok out) :
    followUpdate crypto reader params game update = .ok out := by
  cases update with
  | state bytes =>
    have merged := mergeState_eq settled accepted
    simp [followUpdate, mergeUpdate, merged, Except.map]
  | delta bytes =>
    have merged := mergeDelta_eq accepted
    simp [followUpdate, mergeUpdate, merged, Except.map]
  | stateAndDelta state delta =>
    obtain ⟨half, first, second⟩ := applyUpdate_stateAndDelta.1 accepted
    have merged := mergeState_eq settled first
    have merged' := mergeDelta_eq second
    simp [followUpdate, mergeUpdate, merged, merged', Except.map, bind, Except.bind]
  | relatedState | relatedDelta | relatedStateAndDelta =>
    obtain rfl := Except.ok.inj accepted
    rfl
  | unknown => cases accepted

section Universe
variable (free : crypto.CollisionFree (Record.idInput '' records))
include free

theorem follow_eq (inside : ∀ rec ∈ offers ++ data.flatMap (carried crypto reader), rec ∈ records)
    (represents : Represents crypto params offers game)
    (accepted : data.foldlM (applyUpdate crypto reader params) game = .ok out) :
    follow crypto reader params game data = .ok out := by
  induction data generalizing game offers with
  | nil => exact congrArg Except.ok (Except.ok.inj accepted)
  | cons update rest ih =>
    rw [List.flatMap_cons, ← List.append_assoc] at inside
    obtain ⟨next, first, accepted⟩ := foldlM_cons_eq_ok.1 accepted
    have early : ∀ rec ∈ offers ++ carried crypto reader update, rec ∈ records :=
      fun rec member => inside rec (List.mem_append_left _ member)
    have settled : game.evict = game := Sync.Represents.applyDelta_nil free
      (fun rec member => early rec (List.mem_append_left _ member)) represents
    have following := ih inside (represents_applyUpdate free early represents first) accepted
    exact foldlM_cons_eq_ok.2 ⟨next, followUpdate_eq settled first, following⟩

end Universe

theorem accepted_of_updates (read : decodeParams reader parameters = .ok params)
    (accepted : data.foldlM (fun stored update => updateState crypto reader parameters stored [update])
      bytes = .ok result) : ∀ update ∈ data, Accepted crypto reader params update := by
  induction data generalizing bytes with
  | nil => simp
  | cons update rest ih =>
    obtain ⟨stored, first, accepted⟩ := foldlM_cons_eq_ok.1 accepted
    obtain ⟨params', base, game, read', -, folded, -⟩ := updateState_eq_ok first
    obtain rfl : params' = params := Except.ok.inj (read'.symm.trans read)
    exact List.forall_mem_cons.2 ⟨accepted_of_foldlM folded update List.mem_cons_self, ih accepted⟩

theorem represents_updates (reads : reader.RoundTrips) (read : decodeParams reader parameters = .ok params)
    (free : crypto.CollisionFree (Record.idInput '' records))
    (represents : Represents crypto params offers start)
    (inside : ∀ rec ∈ offers ++ data.flatMap (carried crypto reader), rec ∈ records)
    (accepted : ∀ update ∈ data, Accepted crypto reader params update) :
    ∃ game, data.foldlM (fun stored update => updateState crypto reader parameters stored [update])
        start.encode = .ok game.encode ∧
      Represents crypto params (offers ++ data.flatMap (carried crypto reader)) game := by
  cases data with
  | nil => exact ⟨start, rfl, by simpa using represents⟩
  | cons update rest =>
    have settled := Sync.Represents.filterValid_eq free
      (fun rec member => inside rec (List.mem_append_left _ member)) represents
    have flat : ((update :: rest).map fun update => [update]).flatten = update :: rest := by
      rw [← List.flatMap_def, List.flatMap_singleton']
    have batches := represents_batches reads read free
      (show (update :: rest).map (fun update => [update]) ≠ [] by simp)
      (decodeState_encode reads represents.keyed) (by rwa [settled]) (by rwa [flat]) (by rwa [flat])
    rwa [flat, List.foldlM_map] at batches

/-- A watcher that starts from what the contract stores, and gets every update that the
contract then accepts, in any order and any number of times, fails at none of them and
holds in the end what the contract stores, byte for byte. -/
theorem watcher_mirrors (crypto : Crypto) (reader : Reader) (parameters : Bytes) (params : GameParams)
    (start : GameState) (data payloads : List UpdateData) (result : Bytes) (reads : reader.RoundTrips)
    (read : decodeParams reader parameters = .ok params) (keyed : start.Keyed crypto)
    (valid : start.allValid crypto params = true) (normalised : start.evict = start)
    (free : crypto.CollisionFree (Record.idInput ''
      {rec | rec ∈ valuesOf start.records ++ data.flatMap (carried crypto reader)}))
    (accepted : data.foldlM (fun stored update => updateState crypto reader parameters stored [update])
      start.encode = .ok result)
    (same : ∀ update, update ∈ payloads ↔ update ∈ data) :
    ∃ held, follow crypto reader params start payloads = .ok held ∧ held.encode = result := by
  have all := accepted_of_updates read accepted
  have settled : start.filterValid crypto params = start := by
    rw [InSync.filterValid_eq_evict free keyed valid fun rec member => List.mem_append_left _ member, normalised]
  have normal : Represents crypto params (valuesOf start.records) (start.filterValid crypto params) :=
    represents_filterValid free fun rec member => List.mem_append_left _ member
  rw [settled] at normal
  obtain ⟨game, stored, contract⟩ := represents_updates reads read free normal (fun _ member => member) all
  obtain rfl : game.encode = result := Except.ok.inj (stored.symm.trans accepted)
  have brought : ∀ rec, rec ∈ valuesOf start.records ++ payloads.flatMap (carried crypto reader) ↔
      rec ∈ valuesOf start.records ++ data.flatMap (carried crypto reader) := by
    intro rec
    rw [List.mem_append, List.mem_append, List.mem_flatMap, List.mem_flatMap]
    exact or_congr_right (exists_congr fun update => and_congr_left fun _ => same update)
  have inside : ∀ rec ∈ valuesOf start.records ++ payloads.flatMap (carried crypto reader),
      rec ∈ {rec | rec ∈ valuesOf start.records ++ data.flatMap (carried crypto reader)} :=
    fun rec member => (brought rec).1 member
  obtain ⟨held, folded⟩ := foldlM_of_accepted (fun update member => all update ((same update).1 member)) start
  have watcher := represents_applyUpdates free inside normal folded
  refine ⟨held, follow_eq free inside normal folded, ?_⟩
  rw [represents_eq watcher contract fun rec _ => brought rec]

theorem watcher_mirrors_repeat :
    ∃ held, follow Sample.crypto Reader.exact Sample.params .empty
        [.delta (encodeRecords [Sample.opening]), .delta (encodeRecords [Sample.opening])] = .ok held ∧
      held.encode = (GameState.empty.applyDelta Sample.crypto Sample.params [Sample.opening]).encode := by
  have reads := Reader.exact_roundTrips
  have keyed := GameState.keyed_empty Sample.crypto
  have carries : valuesOf GameState.empty.records ++ [UpdateData.delta (encodeRecords [Sample.opening])].flatMap
      (carried Sample.crypto Reader.exact) = [Sample.opening] := brings_posting Sample.opening
  have free : Sample.crypto.CollisionFree (Record.idInput '' {rec | rec ∈ valuesOf GameState.empty.records ++
      [UpdateData.delta (encodeRecords [Sample.opening])].flatMap (carried Sample.crypto Reader.exact)}) := by
    rw [carries]
    simp [Crypto.CollisionFree]
  have posted : updateState Sample.crypto Reader.exact Sample.params.encode GameState.empty.encode
      [.delta (encodeRecords [Sample.opening])] =
        .ok (GameState.empty.applyDelta Sample.crypto Sample.params [Sample.opening]).encode := by
    rw [← run_posting (by decide +kernel), Call.run, posting, updateState, updateState,
      decodeState_encode reads keyed]
    rfl
  refine watcher_mirrors Sample.crypto Reader.exact Sample.params.encode Sample.params .empty
    [.delta (encodeRecords [Sample.opening])] _ _ reads (decodeParams_encode reads _) keyed (by decide +kernel)
    (by decide +kernel) free ?_ (by simp)
  rw [List.foldlM_cons, posted]
  rfl

end Adjourn.Mirror
