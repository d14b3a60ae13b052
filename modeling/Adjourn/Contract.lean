import Adjourn.Wire

/-! The contract interface: parameters, states, deltas and summaries in, bytes or an
error out. -/

namespace Adjourn.Contract
open Cbor OrderedMap NormalForm

inductive ContractError where
  | deser (error : DecodeError)
  | invalidUpdateWithInfo (reason : String)
  | invalidUpdate
  deriving DecidableEq

inductive ValidateResult where
  | valid
  | invalid
  deriving DecidableEq

/-- What a peer sends. `unknown` is a variant of the non-exhaustive enum that this
build does not know. -/
inductive UpdateData where
  | state (bytes : Bytes)
  | delta (bytes : Bytes)
  | stateAndDelta (state delta : Bytes)
  | relatedState
  | relatedDelta
  | relatedStateAndDelta
  | unknown

variable (crypto : Crypto) (reader : Reader)

/-- Empty bytes mean "nothing yet", not "malformed". -/
def decodeState (bytes : Bytes) : Except ContractError GameState :=
  if bytes.isEmpty then .ok .empty
  else (GameState.deserialize crypto reader bytes).mapError .deser

def decodeParams (parameters : Bytes) : Except ContractError GameParams :=
  (reader.gameParams parameters).mapError .deser

/-- Structural only: chess legality is not checked. -/
def checkValid (state : GameState) (params : GameParams) : Except ContractError Unit :=
  if state.allValid crypto params then .ok ()
  else .error (.invalidUpdateWithInfo "state contains a record not signed by either player")

def validateState (parameters state : Bytes) : Except ContractError ValidateResult :=
  if state.isEmpty then .ok .valid
  else do
    let params ← decodeParams reader parameters
    let state ← decodeState crypto reader state
    return if state.allValid crypto params then .valid else .invalid

def updateWithState (params : GameParams) (game : GameState) (bytes : Bytes) :
    Except ContractError GameState := do
  let incoming ← decodeState crypto reader bytes
  checkValid crypto incoming params
  return game.merge crypto params incoming

/-- The `Delta` arm, and the second half of `StateAndDelta`: every record is verified
before any is absorbed. -/
def updateWithDelta (params : GameParams) (game : GameState) (bytes : Bytes) :
    Except ContractError GameState :=
  if bytes.isEmpty then .ok game
  else do
    let delta ← (reader.records bytes).mapError .deser
    if delta.all (Record.verify crypto params) then
      return game.applyDelta crypto params delta
    else .error (.invalidUpdateWithInfo "delta contains a record not signed by either player")

def applyUpdate (params : GameParams) (game : GameState) : UpdateData → Except ContractError GameState
  | .state incoming => updateWithState crypto reader params game incoming
  | .delta d => updateWithDelta crypto reader params game d
  | .stateAndDelta state delta => do
    let game ← updateWithState crypto reader params game state
    updateWithDelta crypto reader params game delta
  -- this game has no related contracts
  | .relatedState | .relatedDelta | .relatedStateAndDelta => .ok game
  | .unknown => .error .invalidUpdate

/-- The base is normalized first, exactly as in the two functions below. -/
def updateState (parameters state : Bytes) (data : List UpdateData) : Except ContractError Bytes := do
  let params ← decodeParams reader parameters
  let base ← decodeState crypto reader state
  let game ← data.foldlM (applyUpdate crypto reader params) (base.filterValid crypto params)
  return game.encode

def summarizeState (parameters state : Bytes) : Except ContractError Bytes := do
  let params ← decodeParams reader parameters
  let game ← decodeState crypto reader state
  return ((game.filterValid crypto params).summarize crypto).encode

/-- An empty summary means the peer holds nothing; an empty delta is zero bytes. -/
def getStateDelta (parameters state summary : Bytes) : Except ContractError Bytes := do
  let params ← decodeParams reader parameters
  let game ← decodeState crypto reader state
  let summary ←
    if summary.isEmpty then .ok ∅ else (Summary.deserialize reader summary).mapError .deser
  let delta := (game.filterValid crypto params).deltaAgainst crypto summary
  return if delta.isEmpty then [] else encodeRecords delta

variable {crypto reader} {parameters bytes : Bytes} {params : GameParams} {state : GameState}

theorem decodeState_eq_ok : decodeState crypto reader bytes = .ok state ↔
    if bytes.isEmpty then state = GameState.empty else GameState.deserialize crypto reader bytes = .ok state := by
  unfold decodeState
  split_ifs
  · rw [Except.ok.injEq, eq_comm]
  · cases GameState.deserialize crypto reader bytes <;> simp [Except.mapError]

theorem keyed_decodeState (decodes : decodeState crypto reader bytes = .ok state) :
    state.Keyed crypto := by
  rw [decodeState_eq_ok] at decodes
  split_ifs at decodes
  · rw [decodes]
    exact GameState.keyed_empty crypto
  · exact GameState.keyed_deserialize decodes

theorem decodeParams_encode (reads : reader.RoundTrips) (params : GameParams) :
    decodeParams reader params.encode = .ok params := by
  rw [decodeParams, reads.gameParams]
  rfl

theorem decodeState_encode (reads : reader.RoundTrips) (keyed : state.Keyed crypto) :
    decodeState crypto reader state.encode = .ok state := by
  have stored : state.encode.isEmpty = false := by simpa using state.encode_ne_nil
  rw [decodeState, stored, GameState.deserialize_encode reads keyed]
  rfl

theorem validateState_encode (reads : reader.RoundTrips) (read : decodeParams reader parameters = .ok params)
    (keyed : state.Keyed crypto) (valid : state.allValid crypto params = true) :
    validateState crypto reader parameters state.encode = .ok .valid := by
  have stored : state.encode.isEmpty = false := by simpa using state.encode_ne_nil
  rw [validateState, stored, read, decodeState_encode reads keyed]
  simp only [Bool.false_eq_true, if_false, bind, Except.bind, valid, if_true]
  rfl

theorem bind_eq_ok {ε α β : Type} {first : Except ε α} {next : α → Except ε β} {result : β} :
    first >>= next = .ok result ↔ ∃ value, first = .ok value ∧ next value = .ok result := by
  cases first with
  | error fault => simp [bind, Except.bind]
  | ok value => simp [bind, Except.bind]

theorem foldlM_cons_eq_ok {ε α β : Type} {f : β → α → Except ε β} {first : α} {rest : List α} {start result : β} :
    (first :: rest).foldlM f start = .ok result ↔
      ∃ next, f start first = .ok next ∧ rest.foldlM f next = .ok result := by
  rw [List.foldlM_cons]
  exact bind_eq_ok

section Accepted
variable {game : GameState} {data : List UpdateData} {result : Bytes}

theorem checkValid_eq_ok {checked : Unit} :
    checkValid crypto state params = .ok checked ↔ state.allValid crypto params = true := by
  unfold checkValid
  split_ifs with valid <;> simp [valid]

theorem updateWithState_eq_ok : updateWithState crypto reader params state bytes = .ok game ↔
    ∃ incoming, decodeState crypto reader bytes = .ok incoming ∧ incoming.allValid crypto params = true ∧
      game = state.merge crypto params incoming := by
  constructor
  · intro accepted
    obtain ⟨incoming, decodes, accepted⟩ := bind_eq_ok.1 accepted
    obtain ⟨_, checked, accepted⟩ := bind_eq_ok.1 accepted
    exact ⟨incoming, decodes, checkValid_eq_ok.1 checked, (Except.ok.inj accepted).symm⟩
  · intro given
    obtain ⟨incoming, decodes, valid, rfl⟩ := given
    exact bind_eq_ok.2 ⟨incoming, decodes, bind_eq_ok.2 ⟨(), checkValid_eq_ok.2 valid, rfl⟩⟩

theorem updateWithDelta_eq_ok : updateWithDelta crypto reader params state bytes = .ok game ↔
    bytes.isEmpty = true ∧ game = state ∨
      bytes.isEmpty = false ∧ ∃ delta, reader.records bytes = .ok delta ∧
        delta.all (Record.verify crypto params) = true ∧ game = state.applyDelta crypto params delta := by
  unfold updateWithDelta
  cases nothing : bytes.isEmpty with
  | true =>
    rw [if_pos rfl, Except.ok.injEq]
    simp only [true_and, Bool.true_eq_false, false_and, or_false]
    exact eq_comm
  | false =>
    rw [if_neg Bool.false_ne_true, bind_eq_ok]
    simp only [Bool.false_eq_true, false_and, false_or, true_and]
    refine exists_congr fun delta => and_congr ?_ ?_
    · cases reader.records bytes <;> simp [Except.mapError]
    · split_ifs with valid
      · rw [valid, eq_self, true_and]
        exact ⟨fun same => (Except.ok.inj same).symm, fun same => congrArg Except.ok same.symm⟩
      · simp [valid]

theorem applyUpdate_stateAndDelta {bytes' : Bytes} :
    applyUpdate crypto reader params state (.stateAndDelta bytes bytes') = .ok game ↔
      ∃ half, updateWithState crypto reader params state bytes = .ok half ∧
        updateWithDelta crypto reader params half bytes' = .ok game :=
  bind_eq_ok

theorem updateState_eq_ok (accepted : updateState crypto reader parameters bytes data = .ok result) :
    ∃ params base game, decodeParams reader parameters = .ok params ∧
      decodeState crypto reader bytes = .ok base ∧
      data.foldlM (applyUpdate crypto reader params) (base.filterValid crypto params) = .ok game ∧
      result = game.encode := by
  obtain ⟨params, read, accepted⟩ := bind_eq_ok.1 accepted
  obtain ⟨base, decodes, accepted⟩ := bind_eq_ok.1 accepted
  obtain ⟨game, folded, accepted⟩ := bind_eq_ok.1 accepted
  exact ⟨params, base, game, read, decodes, folded, (Except.ok.inj accepted).symm⟩

end Accepted

theorem summarizeState_eq (read : decodeParams reader parameters = .ok params)
    (decodes : decodeState crypto reader bytes = .ok state) :
    summarizeState crypto reader parameters bytes =
      .ok ((state.filterValid crypto params).summarize crypto).encode := by
  rw [summarizeState, read, decodes]
  rfl

theorem getStateDelta_eq (reads : reader.RoundTrips) (read : decodeParams reader parameters = .ok params)
    (decodes : decodeState crypto reader bytes = .ok state) (summary : Summary) :
    getStateDelta crypto reader parameters bytes summary.encode =
      .ok (let delta := (state.filterValid crypto params).deltaAgainst crypto summary
        if delta.isEmpty then [] else encodeRecords delta) := by
  have sent : summary.encode.isEmpty = false := by simpa using summary.encode_ne_nil
  rw [getStateDelta, read, decodes, sent, Summary.deserialize_encode reads]
  rfl

theorem updateWithDelta_eq (reads : reader.RoundTrips) {delta : Delta}
    (valid : ∀ rec ∈ delta, rec.verify crypto params = true)
    (settled : state.applyDelta crypto params [] = state) :
    updateWithDelta crypto reader params state (if delta.isEmpty then [] else encodeRecords delta) =
      .ok (state.applyDelta crypto params delta) := by
  cases delta with
  | nil => simp [updateWithDelta, settled]
  | cons rec rest =>
    have sent : (encodeRecords (rec :: rest)).isEmpty = false := by
      simpa using encodeRecords_ne_nil _
    have all : (rec :: rest).all (Record.verify crypto params) = true := List.all_eq_true.2 valid
    rw [updateWithDelta, List.isEmpty_cons, if_neg Bool.false_ne_true, sent, reads.records]
    simp only [Bool.false_eq_true, if_false, Except.mapError, bind, Except.bind, all, if_true]
    rfl

end Adjourn.Contract
