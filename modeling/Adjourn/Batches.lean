import Adjourn.StateSize

/-! What `update_state` returns depends only on the updates it has accepted, not on
their order, on how they were batched or on how often each came. -/

namespace Adjourn.Batches
open Cbor OrderedMap NormalForm Convergence Contract StateSize

/-- `StateAndDelta` as a `State` and a `Delta`. -/
def halves : UpdateData → List UpdateData
  | .stateAndDelta state delta => [.state state, .delta delta]
  | update => [update]

variable {crypto : Crypto} {reader : Reader} {parameters bytes result : Bytes} {params : GameParams}
  {base game start out : GameState} {update : UpdateData} {data : List UpdateData}
  {offers : List Record} {records : Set Record}

/-- Some state accepts the update. Every state does then, since an update is checked
without a look at the state. -/
def Accepted (crypto : Crypto) (reader : Reader) (params : GameParams) (update : UpdateData) : Prop :=
  ∃ start out, applyUpdate crypto reader params start update = .ok out

theorem updateWithState_ok (accepted : updateWithState crypto reader params start bytes = .ok out)
    (game : GameState) : ∃ out, updateWithState crypto reader params game bytes = .ok out := by
  obtain ⟨incoming, decodes, valid, -⟩ := updateWithState_eq_ok.1 accepted
  exact ⟨_, updateWithState_eq_ok.2 ⟨incoming, decodes, valid, rfl⟩⟩

theorem updateWithDelta_ok (accepted : updateWithDelta crypto reader params start bytes = .ok out)
    (game : GameState) : ∃ out, updateWithDelta crypto reader params game bytes = .ok out := by
  rcases updateWithDelta_eq_ok.1 accepted with ⟨nothing, -⟩ | ⟨sent, delta, decodes, valid, -⟩
  · exact ⟨game, updateWithDelta_eq_ok.2 (.inl ⟨nothing, rfl⟩)⟩
  · exact ⟨_, updateWithDelta_eq_ok.2 (.inr ⟨sent, delta, decodes, valid, rfl⟩)⟩

theorem accepted_stateAndDelta {state delta : Bytes} :
    Accepted crypto reader params (.stateAndDelta state delta) ↔
      Accepted crypto reader params (.state state) ∧ Accepted crypto reader params (.delta delta) := by
  constructor
  · intro accepted
    obtain ⟨start, out, accepted⟩ := accepted
    obtain ⟨half, first, second⟩ := applyUpdate_stateAndDelta.1 accepted
    exact ⟨⟨start, half, first⟩, half, out, second⟩
  · intro both
    obtain ⟨⟨start, half, first⟩, other, out, second⟩ := both
    obtain ⟨last, second'⟩ := updateWithDelta_ok second half
    exact ⟨start, last, applyUpdate_stateAndDelta.2 ⟨half, first, second'⟩⟩

theorem Accepted.apply (accepted : Accepted crypto reader params update) (game : GameState) :
    ∃ out, applyUpdate crypto reader params game update = .ok out := by
  cases update with
  | state bytes =>
    obtain ⟨start, out, accepted⟩ := accepted
    exact updateWithState_ok accepted game
  | delta bytes =>
    obtain ⟨start, out, accepted⟩ := accepted
    exact updateWithDelta_ok accepted game
  | stateAndDelta state delta =>
    obtain ⟨⟨start, half, first⟩, other, out, second⟩ := accepted_stateAndDelta.1 accepted
    obtain ⟨next, first'⟩ := updateWithState_ok first game
    obtain ⟨last, second'⟩ := updateWithDelta_ok second next
    exact ⟨last, applyUpdate_stateAndDelta.2 ⟨next, first', second'⟩⟩
  | relatedState | relatedDelta | relatedStateAndDelta => exact ⟨game, rfl⟩
  | unknown =>
    obtain ⟨start, out, accepted⟩ := accepted
    cases accepted

theorem accepted_of_foldlM (accepted : data.foldlM (applyUpdate crypto reader params) start = .ok out) :
    ∀ update ∈ data, Accepted crypto reader params update := by
  induction data generalizing start with
  | nil => simp
  | cons update rest ih =>
    obtain ⟨next, first, accepted⟩ := foldlM_cons_eq_ok.1 accepted
    exact List.forall_mem_cons.2 ⟨⟨start, next, first⟩, ih accepted⟩

theorem foldlM_of_accepted (accepted : ∀ update ∈ data, Accepted crypto reader params update)
    (game : GameState) : ∃ out, data.foldlM (applyUpdate crypto reader params) game = .ok out := by
  induction data generalizing game with
  | nil => exact ⟨game, rfl⟩
  | cons update rest ih =>
    obtain ⟨next, first⟩ := (accepted update List.mem_cons_self).apply game
    obtain ⟨out, last⟩ := ih (fun other member => accepted other (List.mem_cons_of_mem _ member)) next
    exact ⟨out, foldlM_cons_eq_ok.2 ⟨next, first, last⟩⟩

theorem accepted_halves : (∀ half ∈ halves update, Accepted crypto reader params half) ↔
    Accepted crypto reader params update := by
  cases update with
  | stateAndDelta state delta => simp [halves, accepted_stateAndDelta]
  | _ => simp [halves]

theorem accepted_flatMap_halves :
    (∀ half ∈ data.flatMap halves, Accepted crypto reader params half) ↔
      ∀ update ∈ data, Accepted crypto reader params update := by
  simp only [List.mem_flatMap, forall_exists_index, and_imp]
  calc
    _ ↔ ∀ update ∈ data, ∀ half ∈ halves update, Accepted crypto reader params half := by tauto
    _ ↔ _ := forall₂_congr fun update _ => accepted_halves

theorem carried_halves (update : UpdateData) :
    (halves update).flatMap (carried crypto reader) = carried crypto reader update := by
  cases update with
  | stateAndDelta state delta => simp [halves, carried]
  | _ => simp [halves]

theorem carried_flatMap_halves (data : List UpdateData) :
    (data.flatMap halves).flatMap (carried crypto reader) = data.flatMap (carried crypto reader) := by
  rw [List.flatMap_assoc]
  exact congrArg data.flatMap (funext carried_halves)

theorem updateWithDelta_verified (reads : reader.RoundTrips) {delta : Delta}
    (valid : ∀ rec ∈ delta, rec.verify crypto params = true) (game : GameState) :
    updateWithDelta crypto reader params game (encodeRecords delta) = .ok (game.applyDelta crypto params delta) := by
  have sent : (encodeRecords delta).isEmpty = false := by simpa using encodeRecords_ne_nil delta
  exact updateWithDelta_eq_ok.2 (.inr ⟨sent, delta, reads.records delta, List.all_eq_true.2 valid, rfl⟩)

theorem updateState_verified (reads : reader.RoundTrips) {delta : Delta}
    (decodes : decodeState crypto reader bytes = .ok base) (valid : ∀ rec ∈ delta, rec.verify crypto params = true) :
    updateState crypto reader params.encode bytes [.delta (encodeRecords delta)] =
      .ok ((base.filterValid crypto params).applyDelta crypto params delta).encode := by
  have taken : applyUpdate crypto reader params (base.filterValid crypto params) (.delta (encodeRecords delta)) =
      .ok ((base.filterValid crypto params).applyDelta crypto params delta) :=
    updateWithDelta_verified reads valid _
  rw [updateState, decodeParams_encode reads, decodes]
  simp only [bind, Except.bind, List.foldlM_cons, List.foldlM_nil, taken]
  rfl

theorem keyed_verified (crypto : Crypto) (params : GameParams) (base : GameState) (delta : Delta) :
    ((base.filterValid crypto params).applyDelta crypto params delta).Keyed crypto := by
  have holds : (run crypto params .empty [.merge base, .applyDelta delta]).Holds crypto fun _ => True :=
    GameState.Holds.run (fun id rec held => by simp [GameState.empty] at held) fun _ _ _ => trivial
  exact fun id rec held => (holds id rec held).1

section Calls
variable (reads : reader.RoundTrips) (read : decodeParams reader parameters = .ok params)
  (free : crypto.CollisionFree (Record.idInput '' records))
include read free

theorem represents_updateState (decodes : decodeState crypto reader bytes = .ok base)
    (represents : Represents crypto params offers (base.filterValid crypto params))
    (inside : ∀ rec ∈ offers ++ data.flatMap (carried crypto reader), rec ∈ records)
    (accepted : ∀ update ∈ data, Accepted crypto reader params update) :
    ∃ game, updateState crypto reader parameters bytes data = .ok game.encode ∧
      Represents crypto params (offers ++ data.flatMap (carried crypto reader)) game := by
  obtain ⟨game, folded⟩ := foldlM_of_accepted accepted (base.filterValid crypto params)
  refine ⟨game, ?_, represents_applyUpdates free inside represents folded⟩
  rw [updateState, read, decodes]
  simp only [bind, Except.bind, folded]
  rfl

include reads

theorem represents_batches {batches : List (List UpdateData)} (nonempty : batches ≠ [])
    (decodes : decodeState crypto reader bytes = .ok base)
    (represents : Represents crypto params offers (base.filterValid crypto params))
    (inside : ∀ rec ∈ offers ++ batches.flatten.flatMap (carried crypto reader), rec ∈ records)
    (accepted : ∀ update ∈ batches.flatten, Accepted crypto reader params update) :
    ∃ game, batches.foldlM (updateState crypto reader parameters) bytes = .ok game.encode ∧
      Represents crypto params (offers ++ batches.flatten.flatMap (carried crypto reader)) game := by
  induction batches generalizing bytes base offers with
  | nil => exact absurd rfl nonempty
  | cons data rest ih =>
    rw [List.flatten_cons, List.flatMap_append, ← List.append_assoc] at inside ⊢
    rw [List.flatten_cons, List.forall_mem_append] at accepted
    have early : ∀ rec ∈ offers ++ data.flatMap (carried crypto reader), rec ∈ records :=
      fun rec member => inside rec (List.mem_append_left _ member)
    obtain ⟨game, stored, represents'⟩ := represents_updateState read free decodes represents early accepted.1
    by_cases last : rest = []
    · subst last
      refine ⟨game, ?_, by simpa using represents'⟩
      rw [List.foldlM_cons, stored]
      rfl
    · have settled := Sync.Represents.filterValid_eq free early represents'
      obtain ⟨final, stored', represents''⟩ := ih last (decodeState_encode reads represents'.keyed)
        (by rwa [settled]) inside accepted.2
      refine ⟨final, ?_, represents''⟩
      rw [List.foldlM_cons, stored]
      exact stored'

end Calls

/-- The updates of an accepted call may be reordered, repeated, cut in halves and spread
over any number of calls: the last call stores the same bytes. They validate, an empty
call leaves them as they are, and there is nothing to send to a peer that holds them. -/
theorem update_batch_blind (crypto : Crypto) (reader : Reader) (parameters state : Bytes)
    (data : List UpdateData) (result : Bytes) (reads : reader.RoundTrips)
    (free : crypto.CollisionFree
      (Record.idInput '' {rec | rec ∈ Call.brings crypto reader ⟨parameters, state, data⟩}))
    (accepted : updateState crypto reader parameters state data = .ok result) :
    (∀ batches : List (List UpdateData), batches ≠ [] →
      (∀ update, update ∈ batches.flatten.flatMap halves ↔ update ∈ data.flatMap halves) →
        batches.foldlM (updateState crypto reader parameters) state = .ok result) ∧
    validateState crypto reader parameters result = .ok .valid ∧
    updateState crypto reader parameters result [] = .ok result ∧
    ∃ summary, summarizeState crypto reader parameters result = .ok summary ∧
      getStateDelta crypto reader parameters result summary = .ok [] := by
  obtain ⟨params, base, _, read, decodes, folded, -⟩ := updateState_eq_ok accepted
  have all := accepted_of_foldlM folded
  have started : recordsOf crypto reader state = valuesOf base.records := by rw [recordsOf, decodes]
  rw [Call.brings, started] at free
  have normal : Represents crypto params (valuesOf base.records) (base.filterValid crypto params) :=
    Convergence.represents_filterValid free fun rec member => List.mem_append_left _ member
  obtain ⟨game, stored, represents⟩ :=
    represents_updateState read free decodes normal (fun _ member => member) all
  obtain rfl : game.encode = result := Except.ok.inj (stored.symm.trans accepted)
  obtain ⟨valid, rest⟩ := Sync.settled reads read represents
  refine ⟨?_, valid, ?_, ?_⟩
  · intro batches nonempty same
    have brought : ∀ rec, rec ∈ batches.flatten.flatMap (carried crypto reader) ↔
        rec ∈ data.flatMap (carried crypto reader) := by
      intro rec
      rw [← carried_flatMap_halves, ← carried_flatMap_halves data, List.mem_flatMap, List.mem_flatMap]
      exact exists_congr fun update => and_congr_left fun _ => same update
    have members : ∀ rec, rec ∈ valuesOf base.records ++ batches.flatten.flatMap (carried crypto reader) ↔
        rec ∈ valuesOf base.records ++ data.flatMap (carried crypto reader) := by
      intro rec
      rw [List.mem_append, List.mem_append, brought]
    have all' : ∀ update ∈ batches.flatten, Accepted crypto reader params update := by
      refine accepted_flatMap_halves.1 fun half member => ?_
      exact accepted_flatMap_halves.2 all half ((same half).1 member)
    obtain ⟨final, stored', represents'⟩ := represents_batches reads read free nonempty decodes normal
      (fun rec member => (members rec).1 member) all'
    rw [stored', represents_eq represents' represents fun rec _ => members rec]
  · have settled := Sync.Represents.filterValid_eq free (fun _ member => member) represents
    rw [updateState, read, decodeState_encode reads represents.keyed]
    simp only [bind, Except.bind, settled, List.foldlM_nil]
    rfl
  · have asked := summarizeState_eq read (decodeState_encode reads represents.keyed)
    rw [Sync.offer, asked] at rest
    exact ⟨_, asked, rest⟩

/-- A move that comes twice, in two calls, is stored as it is when it comes once. -/
theorem update_batch_blind_posting :
    [[UpdateData.delta (encodeRecords [Sample.opening])], [.delta (encodeRecords [Sample.opening])]].foldlM
        (updateState Sample.crypto Reader.exact Sample.params.encode) [] =
      .ok (GameState.empty.applyDelta Sample.crypto Sample.params [Sample.opening]).encode := by
  have free : Sample.crypto.CollisionFree
      (Record.idInput '' {rec | rec ∈ (posting Sample.opening).brings Sample.crypto Reader.exact}) := by
    rw [brings_posting]
    simp [Crypto.CollisionFree]
  refine (update_batch_blind Sample.crypto Reader.exact Sample.params.encode [] _ _
    Reader.exact_roundTrips free (run_posting (by decide +kernel))).1 _ (by simp) fun update => ?_
  simp [halves]

end Adjourn.Batches
