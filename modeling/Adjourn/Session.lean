import Adjourn.Grants
import Adjourn.InSync

/-! The client's side: what it asks of a node, and how a label becomes an open game. -/

namespace Adjourn.Session
open Cbor Contract Delegate

structure ContractContainer where
  parameters : Bytes
  code : Bytes
  deriving DecidableEq

/-- A node, as the flows see it. `get` answers `none` where the network does not have the
contract, and `nextUpdate` answers `none` where nothing more will come. -/
class NodeClient (N : Type) where
  get : Bytes32 → Bool → StateM N (Except String (Option Bytes))
  put : ContractContainer → Bytes → StateM N (Except String Unit)
  update : Bytes32 → Bytes → StateM N (Except String Unit)
  delegate : Request → StateM N (Except String Response)
  nextUpdate : StateM N (Except String (Option (Bytes32 × UpdateData)))

inductive SessionError where
  | node (context : Option String) (reason : String)
  | refused (refusal : Refusal)
  | unexpected (request : String) (response : Response)
  | bail (message : String)
  /-- "no key exists for label" -/
  | noKey (label : String)
  /-- "label has a key but no game bound yet" -/
  | notBound (label : String)
  /-- "build mismatch": what this build derives, and what the delegate recorded. -/
  | buildMismatch (derived recorded : Bytes32) (label : String)
  /-- "build mismatch": what this build derives, and what the offer names. -/
  | offerMismatch (derived offered : Bytes32)
  /-- "the previous contract is no longer on the network, so this game cannot be migrated" -/
  | gone (contract : Bytes32)
  | undecodable (message : String)
  /-- "an update notification's Delta payload did not decode" -/
  | undecodableDelta (error : DecodeError)

abbrev Client (N : Type) := ExceptT SessionError (StateM N)

section Runs
variable {N α β : Type} {node node' : N} {value : α} {result : β}

theorem run_pure (value : α) (node : N) : (pure value : StateM N α).run node = (value, node) := rfl

theorem run_bind (action : StateM N α) (next : α → StateM N β) (node : N) :
    (action >>= next).run node = (next (action.run node).1).run (action.run node).2 := rfl

def perform (flow : Client N α) (node : N) : Except SessionError α × N := flow.run.run node

theorem perform_lift (outcome : Except SessionError α) (node : N) :
    perform (liftExcept outcome : Client N α) node = (outcome, node) := by
  cases outcome <;> rfl

theorem perform_bind (flow : Client N α) (next : α → Client N β) (node : N) :
    perform (flow >>= next) node =
      match perform flow node with
      | (.ok value, node') => perform (next value) node'
      | (.error fault, node') => (.error fault, node') := by
  unfold perform
  rw [ExceptT.run_bind, StateT.run_bind]
  cases first : flow.run.run node with
  | mk outcome node' => cases outcome <;> rfl

theorem perform_bind_ok {flow : Client N α} {next : α → Client N β}
    (done : perform (flow >>= next) node = (.ok result, node')) :
    ∃ value middle, perform flow node = (.ok value, middle) ∧
      perform (next value) middle = (.ok result, node') := by
  rw [perform_bind] at done
  cases first : perform flow node with
  | mk outcome middle =>
    rw [first] at done
    cases outcome with
    | ok value => exact ⟨value, middle, rfl, done⟩
    | error fault => exact absurd (congrArg Prod.fst done) (by simp)

def call (context : String) (answer : StateM N (Except String α)) : Client N α :=
  ExceptT.mk (return (← answer).mapError (.node (some context)))

theorem perform_call (context : String) (answer : StateM N (Except String α)) (node : N) :
    perform (call context answer) node =
      ((answer.run node).1.mapError (.node (some context)), (answer.run node).2) := rfl

theorem perform_call_ok {context : String} {answer : StateM N (Except String α)}
    (done : perform (call context answer) node = (.ok value, node')) : answer.run node = (.ok value, node') := by
  rw [perform_call] at done
  cases outcome : answer.run node with
  | mk first middle =>
    rw [outcome] at done
    cases first with
    | ok other =>
      obtain ⟨same, rfl⟩ := Prod.mk.inj done
      rw [Except.ok.inj same]
    | error reason => exact absurd (congrArg Prod.fst done) (by simp [Except.mapError])

theorem perform_call_bind {context : String} {answer : StateM N (Except String α)} {next : α → Client N β}
    (answered : answer.run node = (.ok value, node')) :
    perform (call context answer >>= next) node = perform (next value) node' := by
  rw [perform_bind, perform_call, answered]
  rfl

theorem perform_lift_bind {outcome : Except SessionError α} {next : α → Client N β} (is : outcome = .ok value) :
    perform (liftExcept outcome >>= next) node = perform (next value) node := by
  rw [perform_bind, perform_lift, is]

theorem perform_lift_ok {outcome : Except SessionError α}
    (done : perform (liftExcept outcome : Client N α) node = (.ok value, node')) :
    outcome = .ok value ∧ node' = node := by
  rw [perform_lift] at done
  exact ⟨congrArg Prod.fst done, (congrArg Prod.snd done).symm⟩

end Runs

section Flows
variable {N : Type} [NodeClient N]

/-- What the delegate must have recorded before a game can be opened. -/
def IsBound (summary : GameSummary) : Prop :=
  summary.gameId.isSome ∧ summary.side.isSome ∧ summary.params.isSome ∧ summary.contract.isSome

instance decidableIsBound (summary : GameSummary) : Decidable (IsBound summary) :=
  inferInstanceAs (Decidable (_ ∧ _ ∧ _ ∧ _))

structure BoundGame where
  summary : GameSummary
  isBound : IsBound summary

namespace BoundGame
variable (game : BoundGame)

def gameId : GameId := game.summary.gameId.get game.isBound.1
def side : Side := game.summary.side.get game.isBound.2.1
def params : GameParams := game.summary.params.get game.isBound.2.2.1
def contract : Bytes32 := game.summary.contract.get game.isBound.2.2.2

end BoundGame

def gamesOf : Response → Except SessionError (List GameSummary)
  | .games games => .ok games
  | .refused refusal => .error (.refused refusal)
  | other => .error (.unexpected "ListGames" other)

def findBound (label : String) (games : List GameSummary) : Except SessionError BoundGame :=
  match games.find? (fun game => decide (game.label = label)) with
  | none => .error (.noKey label)
  | some summary =>
    if isBound : IsBound summary then .ok ⟨summary, isBound⟩ else .error (.notBound label)

def boundGame (label : String) : Client N BoundGame := do
  let response ← call "ListGames" (NodeClient.delegate .listGames)
  let games ← liftExcept (gamesOf response)
  liftExcept (findBound label games)

variable {label : String} {node node' : N} {games : List GameSummary} {game : BoundGame}

theorem perform_boundGame
    (listed : (NodeClient.delegate .listGames).run node = (.ok (.games games), node')) :
    perform (boundGame label) node = (findBound label games, node') := by
  have answer : gamesOf (.games games) = .ok games := rfl
  rw [boundGame, perform_call_bind listed, perform_lift_bind answer, perform_lift]

end Flows

section Build
variable (instanceId : Bytes → Bytes → Bytes32)

def contractContainer (wasm : Bytes) (params : GameParams) : ContractContainer × Bytes32 :=
  (⟨params.encode, wasm⟩, instanceId params.encode wasm)

/-- A build that derives another id than the recorded one would address another contract. -/
def expectedContainer (label : String) (wasm : Bytes) (params : GameParams) (bound : Bytes32) :
    Except SessionError ContractContainer :=
  let (container, id) := contractContainer instanceId wasm params
  if id ≠ bound then .error (.buildMismatch id bound label) else .ok container

end Build

structure GameView where
  label : String
  side : Side
  params : GameParams
  gameId : GameId
  contract : Bytes32
  previous : Option Bytes32
  state : GameState
  status : Status

structure OpenGame where
  view : GameView
  container : ContractContainer

/-- The accepted moves in play order. An id that the state does not hold is skipped. -/
def movesInOrder (view : GameView) : List String :=
  view.status.chain.filterMap fun id =>
    match view.state.records[id]?.map Record.body with
    | some (.move _ _ uci) => some uci
    | _ => none

section Opening
variable {N : Type} [NodeClient N] (rules : Rules) (crypto : Crypto) (reader : Reader)
  (instanceId : Bytes → Bytes → Bytes32)

def fetchState (contract : Bytes32) : Client N GameState := do
  let bytes ← call "GET contract" (NodeClient.get contract false)
  match InSync.fetchState crypto reader (bytes.getD []) with
  | some state => return state
  | none => throw (.undecodable "contract state did not decode as a GameState")

def openGame (label : String) (wasm : Bytes) : Client N OpenGame := do
  let game ← boundGame label
  let container ← liftExcept (expectedContainer instanceId label wasm game.params game.contract)
  let state ← fetchState crypto reader game.contract
  return {
    view := {
      label := label
      side := game.side
      params := game.params
      gameId := game.gameId
      contract := game.contract
      previous := game.summary.previous
      state := state
      status := state.project rules crypto game.params }
    container := container }

def signedOf : Response → Except SessionError Record
  | .signed record => .ok record
  | .refused refusal => .error (.refused refusal)
  | other => .error (.unexpected "Sign" other)

/-- Have the delegate sign the body, submit the record alone, and read the game again. -/
def signAndSubmit (game : OpenGame) (body : Body) : Client N Status := do
  let response ← call "Sign" (NodeClient.delegate (.sign game.view.gameId body))
  let record ← liftExcept (signedOf response)
  call "UPDATE contract" (NodeClient.update (instanceId game.container.parameters game.container.code)
    (encodeRecords [record]))
  let state ← fetchState crypto reader game.view.contract
  return state.project rules crypto game.view.params

variable {rules crypto reader instanceId} {label : String} {wasm : Bytes} {node node' : N}

theorem perform_fetchState {contract : Bytes32} {bytes : Option Bytes} {state : GameState}
    (answers : (NodeClient.get contract false).run node = (.ok bytes, node'))
    (decodes : InSync.fetchState crypto reader (bytes.getD []) = some state) :
    perform (fetchState crypto reader contract) node = (.ok state, node') := by
  rw [fetchState, perform_call_bind answers]
  simp only [decodes]
  rfl

theorem perform_openGame {game : BoundGame} {container : ContractContainer} {middle : N} {state : GameState}
    (bound : perform (boundGame label) node = (.ok game, middle))
    (build : expectedContainer instanceId label wasm game.params game.contract = .ok container)
    (fetched : perform (fetchState crypto reader game.contract) middle = (.ok state, node')) :
    perform (openGame rules crypto reader instanceId label wasm) node =
      (.ok ⟨⟨label, game.side, game.params, game.gameId, game.contract, game.summary.previous, state,
        state.project rules crypto game.params⟩, container⟩, node') := by
  rw [openGame, perform_bind, bound]
  dsimp only
  rw [perform_lift_bind build, perform_bind, fetched]
  rfl

theorem status_of_openGame {game : OpenGame}
    (opened : perform (openGame rules crypto reader instanceId label wasm) node = (.ok game, node')) :
    game.view.status = game.view.state.project rules crypto game.view.params := by
  unfold openGame at opened
  obtain ⟨bound, _, -, opened⟩ := perform_bind_ok opened
  obtain ⟨container, _, -, opened⟩ := perform_bind_ok opened
  obtain ⟨state, _, -, opened⟩ := perform_bind_ok opened
  obtain rfl := Except.ok.inj (congrArg Prod.fst opened)
  rfl

end Opening

end Adjourn.Session
