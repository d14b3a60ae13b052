import Adjourn.Cbor
import Adjourn.OrderedMap

/-! Signed records and game parameters. A record is a body, the signer's public
key and a signature; its id is a hash of the signer and the body, without the
signature. -/

namespace Adjourn
open Cbor

abbrev Bytes32 := FixedBytes 32
abbrev U16 := Fin 65536

abbrev RecordId := Bytes32
abbrev KeyBytes := Bytes32

instance u16NeZero : NeZero 65536 := ⟨by decide⟩

instance bytes32TransCmp : Std.TransCmp (compare : Bytes32 → Bytes32 → Ordering) := inferInstance

inductive Color where
  | white
  | black
  deriving DecidableEq

def Color.other : Color → Color
  | .white => .black
  | .black => .white

@[simp] theorem Color.other_other (color : Color) : color.other.other = color := by cases color <;> rfl

theorem Color.other_ne (color : Color) : color.other ≠ color := by cases color <;> decide

theorem Color.eq_or_other (color player : Color) : color = player ∨ color = player.other := by
  cases color <;> cases player <;> decide

/-- SHA-256 and Ed25519. `verifies` stands for `VerifyingKey::from_bytes`,
`Signature::from_slice` and `verify` together, and a signing key is its seed. -/
structure Crypto where
  sha256 : Bytes → Bytes32
  verifies : KeyBytes → Bytes → Bytes → Bool
  verifyingKey : Bytes32 → KeyBytes
  sign : Bytes32 → Bytes → FixedBytes 64

/-- The hash does not collide on the byte strings it is applied to. -/
def Crypto.CollisionFree (crypto : Crypto) (inputs : Set Bytes) : Prop :=
  Set.InjOn crypto.sha256 inputs

def Crypto.Signs (crypto : Crypto) : Prop :=
  ∀ key payload, crypto.verifies (crypto.verifyingKey key) payload (crypto.sign key payload).val = true

def MAX_PLY : U16 := 4096

inductive Kind where
  | move
  | resign
  | drawOffer
  | drawAccept
  | drawClaim

def Kind.toFin : Kind → Fin 5
  | .move => 0
  | .resign => 1
  | .drawOffer => 2
  | .drawAccept => 3
  | .drawClaim => 4

theorem Kind.toFin_injective : Function.Injective Kind.toFin := by
  intro a b same
  cases a <;> cases b <;> simp_all [Kind.toFin]

instance : LinearOrder Kind := LinearOrder.lift' Kind.toFin Kind.toFin_injective

/-- How many records one signer may hold in one `(signer, kind, ply)` group. Two
moves, so that a double-sign proof survives eviction. -/
def Kind.k : Kind → Nat
  | .move => 2
  | _ => 1

def DOMAIN_GAME : Bytes := utf8 "adjourn-v1/game"
def DOMAIN_GENESIS : Bytes := utf8 "adjourn-v1/genesis"
def DOMAIN_REC : Bytes := utf8 "adjourn-v1/rec"
def DOMAIN_SIG : Bytes := utf8 "adjourn-v1/sig"
def DOMAIN_SIGDIGEST : Bytes := utf8 "adjourn-v1/sigdigest"

structure GameParams where
  white : KeyBytes
  black : KeyBytes
  nonce : FixedBytes 16
  deriving DecidableEq

namespace GameParams

def gameId (crypto : Crypto) (params : GameParams) : Bytes32 :=
  crypto.sha256 (DOMAIN_GAME ++ params.white.val ++ params.black.val ++ params.nonce.val)

def genesisInput (crypto : Crypto) (params : GameParams) : Bytes :=
  DOMAIN_GENESIS ++ (params.gameId crypto).val

def genesis (crypto : Crypto) (params : GameParams) : RecordId :=
  crypto.sha256 (params.genesisInput crypto)

def colorOf (params : GameParams) (key : KeyBytes) : Option Color :=
  if key = params.white then some .white
  else if key = params.black then some .black
  else none

def keyOf (params : GameParams) : Color → KeyBytes
  | .white => params.white
  | .black => params.black

theorem keyOf_of_colorOf {params : GameParams} {key : KeyBytes} {color : Color}
    (owner : params.colorOf key = some color) : params.keyOf color = key := by
  unfold colorOf at owner
  split_ifs at owner with white black <;> cases owner
  · exact white.symm
  · exact black.symm

theorem colorOf_white (params : GameParams) : params.colorOf params.white = some .white := by
  simp [colorOf]

theorem colorOf_keyOf_isSome (params : GameParams) (color : Color) :
    (params.colorOf (params.keyOf color)).isSome := by
  unfold colorOf
  cases color with
  | white => simp [keyOf]
  | black => simp only [keyOf]; split_ifs <;> rfl

theorem colorOf_keyOf {params : GameParams} (distinct : params.white ≠ params.black)
    (color : Color) : params.colorOf (params.keyOf color) = some color := by
  cases color with
  | white => exact params.colorOf_white
  | black => simp [colorOf, keyOf, Ne.symm distinct]

end GameParams

/-- Whose turn it is at a ply, counted in half-moves from 1. -/
def colorAtPly (ply : U16) : Color :=
  if ply.val % 2 = 1 then .white else .black

/-- What a player can assert. `head` is the source's field `at`; on the draw bodies
`ply` is a grouping index for eviction only. -/
inductive Body where
  | move (ply : U16) (parent : RecordId) (uci : String)
  | resign
  | drawOffer (ply : U16) (head : RecordId)
  | drawAccept (ply : U16) (offer : RecordId)
  | drawClaim (ply : U16) (head : RecordId)
  deriving DecidableEq

namespace Body

def ply : Body → Option U16
  | .move ply _ _ => some ply
  | .drawOffer ply _ => some ply
  | .drawAccept ply _ => some ply
  | .drawClaim ply _ => some ply
  | .resign => none

def kind : Body → Kind
  | .move _ _ _ => .move
  | .resign => .resign
  | .drawOffer _ _ => .drawOffer
  | .drawAccept _ _ => .drawAccept
  | .drawClaim _ _ => .drawClaim

/-- serde's externally tagged enum, under the renamed variants and fields. -/
def toItem : Body → Item
  | .move ply parent uci => .map [(.text "m", .map [(.text "p", .uint ply.val),
      (.text "t", .bytes parent.val), (.text "u", .text uci)])]
  | .resign => .text "r"
  | .drawOffer ply head => .map [(.text "o", .map [(.text "p", .uint ply.val),
      (.text "t", .bytes head.val)])]
  | .drawAccept ply offer => .map [(.text "a", .map [(.text "p", .uint ply.val),
      (.text "o", .bytes offer.val)])]
  | .drawClaim ply head => .map [(.text "c", .map [(.text "p", .uint ply.val),
      (.text "t", .bytes head.val)])]

theorem toItem_injective : Function.Injective toItem := by
  intro a b same
  cases a <;> cases b <;> simp_all [toItem, Fin.ext_iff, FixedBytes.ext_iff]

end Body

def bodyBytes (body : Body) : Bytes := body.toItem.encode

theorem bodyBytes_injective : Function.Injective bodyBytes :=
  encode_selfDelimiting.injective.comp Body.toItem_injective

def signingPayload (gameId : Bytes32) (body : Body) : Bytes :=
  DOMAIN_SIG ++ gameId.val ++ bodyBytes body

theorem signingPayload_injective {gameId gameId' : Bytes32} {body body' : Body}
    (same : signingPayload gameId body = signingPayload gameId' body') :
    gameId = gameId' ∧ body = body' := by
  simp only [signingPayload, List.append_assoc, List.append_cancel_left_eq] at same
  obtain ⟨ids, bodies⟩ := fixedBytes_selfDelimiting 32 _ _ _ _ same
  exact ⟨ids, bodyBytes_injective bodies⟩

structure Record where
  body : Body
  signer : KeyBytes
  sig : Bytes
  deriving DecidableEq

namespace Record

def idInput (rec : Record) : Bytes := DOMAIN_REC ++ rec.signer.val ++ bodyBytes rec.body

/-- Content address of the statement, excluding the signature. -/
def id (crypto : Crypto) (rec : Record) : RecordId := crypto.sha256 rec.idInput

def sigDigestInput (rec : Record) : Bytes := DOMAIN_SIGDIGEST ++ rec.sig

def sigDigest (crypto : Crypto) (rec : Record) : Bytes32 := crypto.sha256 rec.sigDigestInput

def sign (crypto : Crypto) (key : Bytes32) (params : GameParams) (body : Body) : Record :=
  { body := body
    signer := crypto.verifyingKey key
    sig := (crypto.sign key (signingPayload (params.gameId crypto) body)).val }

/-- Structural validity: a real statement by one of the two players. Chess
legality is not checked here. -/
def verify (crypto : Crypto) (params : GameParams) (rec : Record) : Bool :=
  if (params.colorOf rec.signer).isNone then false
  else if rec.body.ply.any (fun ply => decide (MAX_PLY < ply)) then false
  else if rec.sig.length ≠ 64 then false
  else crypto.verifies rec.signer (signingPayload (params.gameId crypto) rec.body) rec.sig

def color (params : GameParams) (rec : Record) : Option Color := params.colorOf rec.signer

theorem idInput_inj {rec other : Record} (same : rec.idInput = other.idInput) :
    rec.signer = other.signer ∧ rec.body = other.body := by
  simp only [idInput, List.append_assoc, List.append_cancel_left_eq] at same
  obtain ⟨signers, bodies⟩ := fixedBytes_selfDelimiting 32 _ _ _ _ same
  exact ⟨signers, bodyBytes_injective bodies⟩

theorem sigDigestInput_inj {rec other : Record} (same : rec.sigDigestInput = other.sigDigestInput) :
    rec.sig = other.sig := by
  simpa only [sigDigestInput, List.append_cancel_left_eq] using same

theorem id_congr (crypto : Crypto) {rec other : Record} (signers : rec.signer = other.signer)
    (bodies : rec.body = other.body) : rec.id crypto = other.id crypto := by
  simp only [id, idInput, signers, bodies]

theorem verify_iff (crypto : Crypto) (params : GameParams) (rec : Record) :
    rec.verify crypto params = true ↔
      (rec.color params).isSome ∧ (∀ ply ∈ rec.body.ply, ply ≤ MAX_PLY) ∧ rec.sig.length = 64 ∧
        crypto.verifies rec.signer (signingPayload (params.gameId crypto) rec.body) rec.sig = true := by
  unfold verify color
  cases owner : params.colorOf rec.signer with
  | none => simp
  | some color =>
    cases rec.body.ply with
    | none => simp
    | some ply => simp

end Record

end Adjourn
