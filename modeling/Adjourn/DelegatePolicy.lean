import Adjourn.Wire

/-! The decisions of the delegate that holds the signing keys. Nothing here reads or
writes the store. -/

namespace Adjourn
open Cbor

abbrev GameId := Bytes32

inductive Side where
  | white
  | black
  deriving DecidableEq

def Side.ofColor : Color → Side
  | .white => .white
  | .black => .black

def Side.toColor : Side → Color
  | .white => .white
  | .black => .black

inductive EntropyQuality where
  | hostBacked
  | degraded
  deriving DecidableEq

inductive Refusal where
  | unknownLabel
  | labelExists
  | unknownGame
  | alreadyBound (gameId : GameId)
  | keyNotInParams
  | wrongSide (ours plyNeeds : Side)
  | plyAlreadySigned (ply : U16)
  | plyOutOfRange (ply max : U16)
  | wrongOrigin
  | notBound
  | noEntropy
  | staleRecordFormat (found expected : Byte)
  | malformed (message : String)
  | storeFailed
  | illegalMove
  deriving DecidableEq

def DOMAIN_KEYGEN : Bytes := utf8 "adjourn-v1/keygen"
def DOMAIN_BODY : Bytes := utf8 "adjourn-v1/delegate-body"

def zeros : Bytes32 := ⟨List.replicate 32 0, List.length_replicate⟩

inductive HostEntropy where
  | live (draw : Bytes32)
  | dead
  deriving DecidableEq

/-- All zeros, or the same bytes twice, mean that there is no host source. -/
def classifyHostEntropy (first second : Bytes32) : HostEntropy :=
  if first = zeros ∨ first = second then .dead else .live first

/-- A caller's zeros are no contribution; with no source at all there is no key. -/
def deriveSeed (crypto : Crypto) (host : HostEntropy) (caller : Option Bytes32) (label : String) :
    Except Refusal (Bytes32 × EntropyQuality) := do
  let caller := caller.filter fun bytes => decide (bytes ≠ zeros)
  let (hostBytes, quality) ←
    match host with
    | .live draw => .ok (draw, EntropyQuality.hostBacked)
    | .dead => if caller.isNone then .error .noEntropy else .ok (zeros, .degraded)
  -- the label's length is a little-endian `u32`
  return (crypto.sha256 (DOMAIN_KEYGEN ++ hostBytes.val ++ (caller.getD zeros).val ++
    (bigEndian 4 (utf8 label).length).reverse ++ utf8 label), quality)

def GAME_RECORD_FORMAT : Byte := 3

/-- What the delegate knows about one game. A `lastSignedPly` of 0 means that nothing
has been signed. -/
structure GameRecord where
  format : Byte
  label : String
  params : GameParams
  side : Side
  origin : Option Bytes32
  contract : Bytes32
  previous : Option Bytes32
  entropy : EntropyQuality
  lastSignedPly : U16
  lastMoveBodyHash : Bytes32
  deriving DecidableEq

def Side.toItem : Side → Item
  | .white => .text "White"
  | .black => .text "Black"

def EntropyQuality.toItem : EntropyQuality → Item
  | .hostBacked => .text "HostBacked"
  | .degraded => .text "Degraded"

def EntropyQuality.encode (quality : EntropyQuality) : Bytes := quality.toItem.encode

def idItem : Option Bytes32 → Item
  | some id => .bytes id.val
  | none => .null

theorem Side.toItem_injective : Function.Injective Side.toItem := by
  intro a b same
  cases a <;> cases b <;> simp_all [Side.toItem]

theorem EntropyQuality.toItem_injective : Function.Injective EntropyQuality.toItem := by
  intro a b same
  cases a <;> cases b <;> simp_all [EntropyQuality.toItem]

theorem EntropyQuality.encode_injective : Function.Injective EntropyQuality.encode :=
  encode_selfDelimiting.injective.comp EntropyQuality.toItem_injective

theorem idItem_injective : Function.Injective idItem := by
  intro a b same
  cases a <;> cases b <;> simp_all [idItem, FixedBytes.ext_iff]

namespace GameRecord

def gameId (crypto : Crypto) (record : GameRecord) : GameId := record.params.gameId crypto

def toItem (record : GameRecord) : Item :=
  .map [(.text "v", .uint record.format.val), (.text "label", .text record.label),
    (.text "params", record.params.toItem), (.text "side", record.side.toItem),
    (.text "origin", idItem record.origin), (.text "contract", .bytes record.contract.val),
    (.text "previous", idItem record.previous), (.text "entropy", record.entropy.toItem),
    (.text "last_signed_ply", .uint record.lastSignedPly.val),
    (.text "last_move_body_hash", .bytes record.lastMoveBodyHash.val)]

def encode (record : GameRecord) : Bytes := record.toItem.encode

theorem encode_injective : Function.Injective encode := by
  intro record other same
  have items := encode_selfDelimiting.injective same
  simp only [toItem, Item.map.injEq, List.cons.injEq, Prod.mk.injEq, Item.bytes.injEq, Item.uint.injEq,
    Item.text.injEq, GameParams.toItem_injective.eq_iff, Side.toItem_injective.eq_iff,
    idItem_injective.eq_iff, EntropyQuality.toItem_injective.eq_iff, and_true, true_and] at items
  obtain ⟨formats, labels, params, sides, origins, contracts, previouses, qualities, plies, hashes⟩ := items
  cases record
  cases other
  simp_all [Fin.ext_iff, FixedBytes.ext_iff]

end GameRecord

/-- Records of this format pass, those of the format before gain a field, and all
others are refused. -/
def migrateRecord (record : GameRecord) : Option GameRecord :=
  if record.format = GAME_RECORD_FORMAT then some record
  else if record.format = 2 then some { record with format := GAME_RECORD_FORMAT, previous := none }
  else none

theorem migrateRecord_of_format {record : GameRecord} (current : record.format = GAME_RECORD_FORMAT) :
    migrateRecord record = some record :=
  if_pos current

theorem migrateRecord_eq_some {record migrated : GameRecord} (known : migrateRecord record = some migrated) :
    migrated.format = GAME_RECORD_FORMAT ∧ migrated.label = record.label ∧ migrated.params = record.params ∧
      migrated.lastSignedPly = record.lastSignedPly ∧ migrated.lastMoveBodyHash = record.lastMoveBodyHash := by
  unfold migrateRecord at known
  split_ifs at known with current earlier <;> obtain rfl := Option.some.inj known
  · exact ⟨current, rfl, rfl, rfl, rfl⟩
  · exact ⟨rfl, rfl, rfl, rfl, rfl⟩

def bodyHashInput (body : Body) : Bytes := DOMAIN_BODY ++ bodyBytes body

def bodyHash (crypto : Crypto) (body : Body) : Bytes32 := crypto.sha256 (bodyHashInput body)

theorem bodyHashInput_injective : Function.Injective bodyHashInput := fun _ _ same =>
  bodyBytes_injective (List.append_cancel_left same)

inductive BindDecision where
  | bind (record : GameRecord)
  | refuse (refusal : Refusal)
  deriving DecidableEq

def decideBind (crypto : Crypto) (existing : Option GameRecord) (label : String) (publicKey : KeyBytes)
    (params : GameParams) (contract : Bytes32) (entropy : EntropyQuality) (origin : Option Bytes32) :
    BindDecision :=
  match existing with
  | some existing =>
    if existing.format ≠ GAME_RECORD_FORMAT then
      .refuse (.staleRecordFormat existing.format GAME_RECORD_FORMAT)
    else if existing.origin ≠ origin then .refuse .wrongOrigin
    else if existing.gameId crypto ≠ params.gameId crypto then
      .refuse (.alreadyBound (existing.gameId crypto))
    else .bind existing
  | none =>
    match params.colorOf publicKey with
    | none => .refuse .keyNotInParams
    | some color =>
      .bind
        { format := GAME_RECORD_FORMAT
          label := label
          params := params
          side := .ofColor color
          origin := origin
          contract := contract
          previous := none
          entropy := entropy
          lastSignedPly := 0
          lastMoveBodyHash := zeros }

inductive RebindDecision where
  | rebind (record : GameRecord)
  | refuse (refusal : Refusal)
  deriving DecidableEq

def decideRebind (existing : Option GameRecord) (label : String) (contract : Bytes32)
    (origin : Option Bytes32) : RebindDecision :=
  match existing with
  | none => .refuse .notBound
  | some existing =>
    if existing.format ≠ GAME_RECORD_FORMAT then
      .refuse (.staleRecordFormat existing.format GAME_RECORD_FORMAT)
    else if existing.origin ≠ origin then .refuse .wrongOrigin
    else if existing.label ≠ label then .refuse .unknownLabel
    else
      let previous := if existing.contract = contract then existing.previous else some existing.contract
      .rebind { existing with contract := contract, previous := previous }

inductive SignDecision where
  | sign (updated : GameRecord)
  | refuse (refusal : Refusal)
  deriving DecidableEq

/-- Moves go up in ply, and a signed ply is signed again only for the same body. -/
def decideSign (crypto : Crypto) (record : GameRecord) (body : Body) (origin : Option Bytes32) :
    SignDecision :=
  if record.format ≠ GAME_RECORD_FORMAT then
    .refuse (.staleRecordFormat record.format GAME_RECORD_FORMAT)
  else if record.origin ≠ origin then .refuse .wrongOrigin
  else
    match body with
    | .move ply _ _ =>
      let needs := Side.ofColor (colorAtPly ply)
      if MAX_PLY < ply then .refuse (.plyOutOfRange ply MAX_PLY)
      else if needs ≠ record.side then .refuse (.wrongSide record.side needs)
      else if ply < record.lastSignedPly then .refuse (.plyAlreadySigned ply)
      else if ply = record.lastSignedPly then
        if record.lastSignedPly ≠ 0 ∧ bodyHash crypto body = record.lastMoveBodyHash then .sign record
        else .refuse (.plyAlreadySigned ply)
      else .sign { record with lastSignedPly := ply, lastMoveBodyHash := bodyHash crypto body }
    | .resign | .drawOffer _ _ | .drawAccept _ _ | .drawClaim _ _ => .sign record

end Adjourn
