import Adjourn.Project
import Adjourn.Secrets

/-! The delegate's handlers: what each request reads, decides, writes and answers. -/

namespace Adjourn.Delegate
open Cbor

inductive Request where
  | createGameKey (label : String) (callerEntropy : Option Bytes32)
  | bindGame (label : String) (params : GameParams) (contract : Bytes32)
  | rebind (label : String) (contract : Bytes32)
  | sign (gameId : GameId) (body : Body)
  | listGames

structure GameSummary where
  label : String
  publicKey : KeyBytes
  gameId : Option GameId
  side : Option Side
  lastSignedPly : U16
  entropy : Option EntropyQuality
  params : Option GameParams
  contract : Option Bytes32
  previous : Option Bytes32

inductive Response where
  | gameKey (label : String) (publicKey : KeyBytes) (entropy : EntropyQuality)
  | bound (gameId : GameId)
  | signed (record : Record)
  | games (games : List GameSummary)
  | refused (refusal : Refusal)

def afterWrites (writes : Writes) (response : Response) : Store × Response :=
  if writes.ok then (writes.store, response) else (writes.store, .refused .storeFailed)

section Handlers
variable (rules : Rules) (crypto : Crypto) (reader : Reader) (secrets : SecretReader) (host : Host)
  (store : Store) (origin : Option Bytes32)

def handleCreateGameKey (label : String) (callerEntropy : Option Bytes32) : Store × Response :=
  if store[keySecret label]?.isSome then (store, .refused .labelExists)
  else
    match deriveSeed crypto (classifyHostEntropy host.draws.1 host.draws.2) callerEntropy label with
    | .error refusal => (store, .refused refusal)
    | .ok (seed, quality) =>
      let keyed := ((Writes.start store).set (host.writes 0) (keySecret label) seed.val).set
        (host.writes 1) (qualitySecret label) quality.encode
      let owned :=
        match origin with
        | none => keyed
        | some originId => keyed.set (host.writes 2) (ownerSecret label) originId.val
      afterWrites owned (.gameKey label (crypto.verifyingKey seed) quality)

def boundGame (label : String) : Option GameRecord :=
  (loadBoundGameId store label).bind (loadGame secrets store)

def handleBindGame (label : String) (params : GameParams) (contract : Bytes32) : Store × Response :=
  match loadSeed store label with
  | none => (store, .refused .unknownLabel)
  | some seed =>
    -- a label belongs to whoever created it
    if loadOwner store label ≠ origin then (store, .refused .wrongOrigin)
    else
      let publicKey := crypto.verifyingKey seed
      let existing := boundGame secrets store label
      -- one delegate may hold both sides of a game, under two labels
      if existing.isNone &&
          (loadGame secrets store (params.gameId crypto)).any (fun other => decide (other.label ≠ label)) then
        (store, .refused (.alreadyBound (params.gameId crypto)))
      else
        let quality := (loadQuality secrets store label).getD .degraded
        match decideBind crypto existing label publicKey params contract quality origin with
        | .refuse refusal => (store, .refused refusal)
        | .bind record =>
          afterWrites (storeGame crypto host store record) (.bound (record.gameId crypto))

def handleRebindGame (label : String) (contract : Bytes32) : Store × Response :=
  match decideRebind (boundGame secrets store label) label contract origin with
  | .refuse refusal => (store, .refused refusal)
  | .rebind record => afterWrites (storeGame crypto host store record) (.bound (record.gameId crypto))

/-- Best-effort: where nothing is known, the signature is granted. -/
def locallyKnownToBeIllegal (record : GameRecord) (body : Body) : Bool :=
  match body with
  | .move ply _ uci =>
    match (host.contractState record.contract).bind (GameState.decode crypto reader) with
    | none => false
    | some state =>
      let status := state.project rules crypto record.params
      if status.isOver then true
      -- the local replica is behind, or ahead
      else if status.ply + 1 ≠ ply then false
      else !(state.legalMoves rules crypto record.params).contains uci
  | _ => false

def handleSign (gameId : GameId) (body : Body) : Store × Response :=
  match loadGame secrets store gameId with
  | none => (store, .refused .unknownGame)
  | some record =>
    match loadSeed store record.label with
    | none => (store, .refused .unknownLabel)
    | some seed =>
      if locallyKnownToBeIllegal rules crypto reader host record body then (store, .refused .illegalMove)
      else
        match decideSign crypto record body origin with
        | .refuse refusal => (store, .refused refusal)
        -- persisted before the signature is handed out
        | .sign updated =>
          afterWrites (storeGame crypto host store updated)
            (.signed (Record.sign crypto seed record.params body))

def summary (label : String) : Option GameSummary :=
  if loadOwner store label ≠ origin then none
  else
    (loadSeed store label).map fun seed =>
      match boundGame secrets store label with
      | some record =>
        { label := label
          publicKey := crypto.verifyingKey seed
          gameId := some (record.gameId crypto)
          side := some record.side
          lastSignedPly := record.lastSignedPly
          entropy := some record.entropy
          params := some record.params
          contract := some record.contract
          previous := record.previous }
      | none =>
        { label := label
          publicKey := crypto.verifyingKey seed
          gameId := none
          side := none
          lastSignedPly := 0
          entropy := loadQuality secrets store label
          params := none
          contract := none
          previous := none }

def handleListGames : Response := .games ((listLabels store).filterMap (summary crypto secrets store origin))

def handle : Request → Store × Response
  | .createGameKey label callerEntropy => handleCreateGameKey crypto host store origin label callerEntropy
  | .bindGame label params contract => handleBindGame crypto secrets host store origin label params contract
  | .rebind label contract => handleRebindGame crypto secrets host store origin label contract
  | .sign gameId body => handleSign rules crypto reader secrets host store origin gameId body
  | .listGames => (store, handleListGames crypto secrets store origin)

end Handlers

end Adjourn.Delegate
