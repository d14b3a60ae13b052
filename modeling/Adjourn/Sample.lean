import Adjourn.Project

/-! A small concrete instance of the primitives, for evaluating definitions on given
records: a polynomial hash, signatures that carry the game and a hash of the rest, and
the first moves of a few king's and queen's pawn games. -/

namespace Adjourn.Sample
open Cbor

def word (n : Nat) : Bytes32 := ⟨bigEndian 32 n, bigEndian_length 32 n⟩

def hash (input : Bytes) : Bytes32 :=
  word (input.foldl (fun sum byte => sum * 257 + byte.val + 1) 0)

/-- The game that a payload is for, and a hash of the key and the payload. -/
def sign (key : Bytes32) (payload : Bytes) : FixedBytes 64 :=
  ⟨((payload.drop DOMAIN_SIG.length ++ List.replicate 32 0).take 32) ++ (hash (key.val ++ payload)).val,
    by simp [(hash (key.val ++ payload)).length_eq]⟩

def crypto : Crypto where
  sha256 := hash
  verifies signer payload sig := decide (sig = (sign signer payload).val)
  verifyingKey key := key
  sign := sign

def whiteKey : Bytes32 := word 1
def blackKey : Bytes32 := word 2

def params : GameParams := ⟨whiteKey, blackKey, ⟨List.replicate 16 7, rfl⟩⟩

def opening : Record := Record.sign crypto whiteKey params (.move 1 (params.genesis crypto) "e2e4")

def queenPawn : Record := Record.sign crypto whiteKey params (.move 1 (params.genesis crypto) "d2d4")

def garbage : Record := Record.sign crypto whiteKey params (.move 1 (params.genesis crypto) "junk")

def reply : Record := Record.sign crypto blackKey params (.move 2 (opening.id crypto) "e7e5")

def offer : Record := Record.sign crypto whiteKey params (.drawOffer 0 (params.genesis crypto))
def acceptance : Record := Record.sign crypto blackKey params (.drawAccept 0 (offer.id crypto))

/-- Another offer by White under the same ply index, which names no head and whose id
is smaller. -/
def decoy : Record :=
  Record.sign crypto whiteKey params (.drawOffer 0 ⟨List.replicate 32 108, List.length_replicate⟩)

def laterOffer : Record := Record.sign crypto whiteKey params (.drawOffer 1 (opening.id crypto))
def laterAcceptance : Record := Record.sign crypto blackKey params (.drawAccept 1 (laterOffer.id crypto))
def laterDecoy : Record :=
  Record.sign crypto whiteKey params (.drawOffer 1 ⟨List.replicate 32 142, List.length_replicate⟩)

def forgery : Record := { opening with sig := List.replicate 64 0 }

/-- Positions are the moves that led to them; all of these are pawn moves, so the
halfmove clock stays at zero. -/
def lines : List (List String) := [[], ["e2e4"], ["d2d4"], ["e2e4", "e7e5"], ["d2d4", "e7e5"]]

def name (line : List String) : String :=
  if lines.contains line then String.intercalate " " line else "off the book"

def continuations (line : List String) : List String :=
  ["e2e4", "d2d4", "e7e5"].filter fun mv => lines.contains (line ++ [mv])

def rules : Rules where
  Position := List String
  Move := String
  UciMove := String
  start := []
  fromAscii ascii := ["e2e4", "d2d4", "e7e5"].find? fun mv => utf8 mv = ascii
  toMove mv line := if (continuations line).contains mv then some mv else none
  fromMove mv := mv
  uciString mv := mv
  play line mv := line ++ [mv]
  turn line := if line.length % 2 = 0 then .white else .black
  halfmoves _ := 0
  isCheckmate _ := false
  isStalemate _ := false
  isInsufficientMaterial _ := false
  legalMoves := continuations
  repetitionKey := name
  fen := name
  parseFen fen := lines.find? fun line => name line = fen

theorem parity_succ (n : Nat) : (if (n + 1) % 2 = 0 then Color.white else .black) =
    (if n % 2 = 0 then Color.white else .black).other := by
  rcases Nat.mod_two_eq_zero_or_one n with even | odd
  · rw [if_neg (by omega), if_pos even]
    rfl
  · rw [if_pos (by omega), if_neg (by omega)]
    rfl

theorem rules_alternates : rules.Alternates where
  start := rfl
  play uci line mv _ := by
    have longer : (rules.play line mv).length = line.length + 1 := List.length_append
    change (if (rules.play line mv).length % 2 = 0 then Color.white else .black) = _
    rw [longer]
    exact parity_succ line.length

/-- The moves of a game by alternating players, each signed on top of the one before. -/
def played (params : GameParams) (ply : U16) (parent : RecordId) : List String → List Record
  | [] => []
  | uci :: rest =>
    let move := Record.sign crypto (params.keyOf (colorAtPly ply)) params (.move ply parent uci)
    move :: played params (ply + 1) (move.id crypto) rest

/-- The rules as far as one game goes: positions are counted in plies, and in each the move is
legal that was played there. -/
def along (moves : List String) (clock : Nat → Nat) : Rules where
  Position := Nat
  Move := String
  UciMove := String
  start := 0
  fromAscii ascii := moves.find? fun mv => utf8 mv = ascii
  toMove mv ply := if moves[ply]? = some mv then some mv else none
  fromMove mv := mv
  uciString mv := mv
  play ply _ := ply + 1
  turn ply := if ply % 2 = 0 then .white else .black
  halfmoves := clock
  isCheckmate _ := false
  isStalemate _ := false
  isInsufficientMaterial _ := false
  legalMoves ply := moves[ply]?.toList
  repetitionKey := toString
  fen := toString
  parseFen _ := none

theorem continuations_find (line line' : List String)
    (parsed : lines.find? (fun other => name other = name line) = some line') :
    continuations line' = continuations line := by
  have known : line' ∈ lines := List.mem_of_find?_eq_some parsed
  have found := List.find?_some parsed
  have same : name line' = name line := of_decide_eq_true found
  have separate : ∀ a ∈ lines, ∀ b ∈ lines, name a = name b → a = b := by decide +kernel
  have printed : ∀ a ∈ lines, name a ≠ "off the book" := by decide +kernel
  by_cases known' : lines.contains line
  · rw [separate line' known line (List.contains_iff_mem.1 known') same]
  · refine absurd ?_ (printed line' known)
    rw [same, name, if_neg known']

theorem find_continuations {line : List String} {mv : String} (legal : mv ∈ continuations line) :
    ["e2e4", "d2d4", "e7e5"].find? (fun other => utf8 other = utf8 mv) = some mv := by
  have read : ∀ mv ∈ ["e2e4", "d2d4", "e7e5"],
      ["e2e4", "d2d4", "e7e5"].find? (fun other => utf8 other = utf8 mv) = some mv := by decide +kernel
  exact read mv (List.mem_of_mem_filter legal)

theorem rules_roundTrips : rules.RoundTrips where
  fen line line' parsed uci := by
    change (if (continuations line').contains uci then some uci else none) =
      if (continuations line).contains uci then some uci else none
    rw [continuations_find line line' parsed]
  uci uci line mv legal := by
    change (if (continuations line).contains uci then some uci else none) = some mv at legal
    split_ifs at legal with legal'
    cases legal
    exact ⟨uci, find_continuations (List.contains_iff_mem.1 legal'), if_pos legal'⟩

theorem crypto_signs : crypto.Signs := by
  intro key payload
  simp [crypto]

theorem sign_game (key : Bytes32) (gameId : Bytes32) (body : Body) :
    (sign key (signingPayload gameId body)).val.take 32 = gameId.val := by
  have carried : ((signingPayload gameId body).drop DOMAIN_SIG.length ++ List.replicate 32 0).take 32 =
      gameId.val := by
    rw [signingPayload, List.append_assoc, List.drop_left, List.append_assoc]
    exact List.take_left' gameId.length_eq
  unfold sign
  dsimp only
  rw [carried]
  exact List.take_left' gameId.length_eq

theorem eq_of_verifies {key key' : Bytes32} {gameId gameId' : Bytes32} {body body' : Body} {sig : Bytes}
    (signed : crypto.verifies key (signingPayload gameId body) sig = true)
    (signed' : crypto.verifies key' (signingPayload gameId' body') sig = true) : gameId = gameId' := by
  have same : sig = (sign key (signingPayload gameId body)).val := of_decide_eq_true signed
  have same' : sig = (sign key' (signingPayload gameId' body')).val := of_decide_eq_true signed'
  apply FixedBytes.val_injective
  rw [← sign_game key, ← sign_game key' gameId' body', ← same, ← same']

def poisoned : GameState := GameState.empty.absorbForTest crypto garbage

def premoved : GameState := GameState.empty.absorbForTest crypto reply

/-- An accepted offer in a group that holds one record too many. -/
def crowded : GameState :=
  ((GameState.empty.absorbForTest crypto offer).absorbForTest crypto decoy).absorbForTest crypto acceptance

def agreed : GameState :=
  ((GameState.empty.absorbForTest crypto opening).absorbForTest crypto laterOffer).absorbForTest crypto
    laterAcceptance

theorem collisionFree_of_list (inputs : Set Bytes) (list : List Bytes) (covered : ∀ x ∈ inputs, x ∈ list)
    (distinct : ∀ x ∈ list, ∀ y ∈ list, hash x = hash y → x = y) : crypto.CollisionFree inputs :=
  fun x hx y hy same => distinct x (covered x hx) y (covered y hy) same

theorem collisionFree_image (input : Record → Bytes) (list : List Record)
    (distinct : ∀ x ∈ list.map input, ∀ y ∈ list.map input, hash x = hash y → x = y) :
    crypto.CollisionFree (input '' {rec | rec ∈ list}) := by
  refine collisionFree_of_list _ (list.map input) ?_ distinct
  rintro x ⟨rec, member, rfl⟩
  exact List.mem_map_of_mem member

end Adjourn.Sample
