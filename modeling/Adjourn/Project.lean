import Adjourn.State
import Adjourn.Stepping

/-! Projection: record set to game position. Chess itself is a parameter; the walk
along the parent hashes, the forfeit rule, draws, resignations and their precedence
are the program's own. -/

namespace Adjourn
open Std (ExtTreeMap)
open Cbor OrderedMap

/-- What shakmaty provides. `play` is applied only to moves that `toMove` returned for
the position, where it cannot fail. -/
structure Rules where
  Position : Type
  Move : Type
  UciMove : Type
  start : Position
  fromAscii : Bytes → Option UciMove
  toMove : UciMove → Position → Option Move
  fromMove : Move → UciMove
  uciString : UciMove → String
  play : Position → Move → Position
  turn : Position → Color
  halfmoves : Position → Nat
  isCheckmate : Position → Bool
  isStalemate : Position → Bool
  isInsufficientMaterial : Position → Bool
  legalMoves : Position → List Move
  repetitionKey : Position → String
  fen : Position → String
  parseFen : String → Option Position

/-- The players move in turn, White first. -/
structure Rules.Alternates (rules : Rules) : Prop where
  start : rules.turn rules.start = .white
  play : ∀ uci pos mv, rules.toMove uci pos = some mv →
    rules.turn (rules.play pos mv) = (rules.turn pos).other

/-- A position read back from its FEN has the same legal moves, and a legal move read
back from its canonical spelling is the same move. -/
structure Rules.RoundTrips (rules : Rules) : Prop where
  fen : ∀ pos pos', rules.parseFen (rules.fen pos) = some pos' →
    ∀ uci, rules.toMove uci pos' = rules.toMove uci pos
  uci : ∀ uci pos mv, rules.toMove uci pos = some mv →
    ∃ parsed, rules.fromAscii (utf8 (rules.uciString (rules.fromMove mv))) = some parsed ∧
      rules.toMove parsed pos = some mv

def FIVEFOLD : Nat := 5
def SEVENTY_FIVE_MOVE_HALFMOVES : Nat := 150
def THREEFOLD : Nat := 3
def FIFTY_MOVE_HALFMOVES : Nat := 100

inductive Reason where
  | checkmate
  | stalemate
  | insufficientMaterial
  | automaticDraw
  | resignation
  | drawAgreement
  | doubleSignForfeit
  | mutualResignation
  | threefoldClaim
  | fiftyMoveClaim
  deriving DecidableEq

/-- `none` means a draw. -/
structure Decision where
  winner : Option Color
  reason : Reason
  deriving DecidableEq

structure Status where
  decision : Option Decision
  ply : U16
  turn : Color
  fen : String
  chain : List RecordId
  ignored : Nat
  repetitions : Nat
  halfmoveClock : Nat

def Status.isOver (status : Status) : Bool := status.decision.isSome

structure Walk (rules : Rules) where
  pos : rules.Position
  chain : List RecordId
  parent : RecordId
  ply : U16
  seen : ExtTreeMap String Nat
  repetitions : Nat
  autoDraw : Bool

namespace GameState

variable (rules : Rules) (crypto : Crypto) (state : GameState) (params : GameParams)

/-- What one record contributes to the candidates of a ply: well-formed, correctly
parented, signed by the player to move, and legal in the position. -/
def candidate (pos : rules.Position) (parent : RecordId) (ply : U16) (entry : RecordId × Record) :
    Option (RecordId × rules.Move) :=
  match entry.2.body with
  | .move recPly recParent uci =>
    if recPly ≠ ply ∨ recParent ≠ parent ∨ entry.2.signer ≠ params.keyOf (colorAtPly ply) then none
    else do
      let parsed ← rules.fromAscii (utf8 uci)
      let mv ← rules.toMove parsed pos
      return (entry.1, mv)
  | _ => none

def candidates (pos : rules.Position) (parent : RecordId) (ply : U16) : List (RecordId × rules.Move) :=
  state.records.toList.filterMap (candidate rules params pos parent ply)

def walkStart : Walk rules where
  pos := rules.start
  chain := []
  parent := params.genesis crypto
  ply := 1
  seen := (∅ : ExtTreeMap String Nat).insert (rules.repetitionKey rules.start) 1
  repetitions := 1
  autoDraw := false

/-- One accepted move. Fivefold repetition and the 75-move rule end the game the
instant they are reached. -/
def advance (walk : Walk rules) (id : RecordId) (mv : rules.Move) : Walk rules :=
  let pos := rules.play walk.pos mv
  let repetitions := (walk.seen[rules.repetitionKey pos]?).getD 0 + 1
  { pos := pos
    chain := walk.chain ++ [id]
    parent := id
    ply := walk.ply + 1
    seen := walk.seen.insert (rules.repetitionKey pos) repetitions
    repetitions := repetitions
    autoDraw := decide (FIVEFOLD ≤ repetitions ∨ SEVENTY_FIVE_MOVE_HALFMOVES ≤ rules.halfmoves pos) }

def walkStep (stopBefore : Option U16) (walk : Walk rules) : Option (Walk rules) :=
  if walk.autoDraw then none
  else if stopBefore.any (· ≤ walk.ply) then none
  else
    match candidates rules state params walk.pos walk.parent walk.ply with
    | [(id, mv)] => some (advance rules walk id mv)
    | _ => none

/-- The source's loop has no bound of its own. A `u16` of rounds is more than any
state that verifies can take. -/
def walk (stopBefore : Option U16) : Walk rules :=
  Stepping.run (walkStep rules state params stopBefore) 65535 (walkStart rules crypto params)

structure Fraud where
  winner : Option Color
  firstPly : U16
  deriving DecidableEq

instance moveKeyTransCmp :
    Std.TransCmp (compare : (KeyBytes ×ₗ U16) → (KeyBytes ×ₗ U16) → Ordering) := inferInstance

def moveCounts : ExtTreeMap (KeyBytes ×ₗ U16) Nat :=
  (valuesOf state.records).foldl (fun counts rec =>
    match rec.body with
    | .move ply _ _ => counts.alter (toLex (rec.signer, ply)) (fun n => some (n.getD 0 + 1))
    | _ => counts) ∅

structure Tally where
  white : Bool
  black : Bool
  firstPly : Option U16

def Tally.note (tally : Tally) (ply : U16) : Option U16 :=
  some (tally.firstPly.elim ply fun p => min p ply)

def Tally.add (tally : Tally) (key : KeyBytes ×ₗ U16) (n : Nat) : Tally :=
  if n < 2 then tally
  else
    match params.colorOf (ofLex key).1 with
    | some .white => { tally with white := true, firstPly := tally.note (ofLex key).2 }
    | some .black => { tally with black := true, firstPly := tally.note (ofLex key).2 }
    -- not a player
    | none => tally

def Tally.winner (tally : Tally) : Option Color :=
  match tally.white, tally.black with
  | true, true => none
  | true, false => some .black
  | false, true => some .white
  -- `firstPly` is set only alongside a colour
  | false, false => none

/-- Structural double-sign detection: position-free, it only counts records. -/
def doubleSigned : Option Fraud :=
  let tally := state.moveCounts.foldl (Tally.add params) ⟨false, false, none⟩
  tally.firstPly.map fun firstPly => ⟨tally.winner, firstPly⟩

/-- Is this record an acceptance, by the other player, of an offer that names the head? -/
def accepts (head : RecordId) (rec : Record) : Bool :=
  match rec.body with
  | .drawAccept _ offer =>
    match rec.color params, state.records[offer]? with
    | some accepter, some offerRec =>
      match offerRec.body with
      | .drawOffer _ named =>
        decide (named = head) && (offerRec.color params).any (fun offerer => decide (offerer ≠ accepter))
      | _ => false
    | _, _ => false
  | _ => false

def drawAgreed (head : RecordId) : Bool := (valuesOf state.records).any (accepts state params head)

def claims (head : RecordId) (turn : Color) (repetitions halfmoves : Nat) (rec : Record) : Option Reason :=
  match rec.body with
  | .drawClaim _ named =>
    if named ≠ head then none
    else if rec.color params ≠ some turn then none
    else if THREEFOLD ≤ repetitions then some .threefoldClaim
    else if FIFTY_MOVE_HALFMOVES ≤ halfmoves then some .fiftyMoveClaim
    else none
  | _ => none

def drawClaimed (head : RecordId) (turn : Color) (repetitions halfmoves : Nat) : Option Reason :=
  (valuesOf state.records).findSome? (claims params head turn repetitions halfmoves)

def resignedBy (color : Color) : Bool :=
  (valuesOf state.records).any fun rec => decide (rec.body = .resign ∧ rec.color params = some color)

def resigned : Bool × Bool := (state.resignedBy params .white, state.resignedBy params .black)

def boardResult (walk : Walk rules) : Option Decision :=
  if rules.isCheckmate walk.pos then some ⟨some (rules.turn walk.pos).other, .checkmate⟩
  else if rules.isStalemate walk.pos then some ⟨none, .stalemate⟩
  else if rules.isInsufficientMaterial walk.pos then some ⟨none, .insufficientMaterial⟩
  else if walk.autoDraw then some ⟨none, .automaticDraw⟩
  else none

def headOf (chain : List RecordId) : RecordId := chain.getLast?.getD (params.genesis crypto)

/-- Precedence: forfeit, resignation, board result, draw claim, draw agreement. -/
def decision (fraud : Option Fraud) (walk : Walk rules) : Option Decision :=
  match fraud with
  | some fraud => some ⟨fraud.winner, .doubleSignForfeit⟩
  | none =>
    match state.resigned params with
    | (true, true) => some ⟨none, .mutualResignation⟩
    | (true, false) => some ⟨some .black, .resignation⟩
    | (false, true) => some ⟨some .white, .resignation⟩
    | (false, false) =>
      (boardResult rules walk).or <|
        let head := headOf crypto params walk.chain
        ((state.drawClaimed params head (rules.turn walk.pos) walk.repetitions
          (rules.halfmoves walk.pos)).map (Decision.mk none)).or
        (if state.drawAgreed params head then some ⟨none, .drawAgreement⟩ else none)

def project : Status :=
  let fraud := state.doubleSigned params
  let walk := walk rules crypto state params (fraud.map Fraud.firstPly)
  { decision := decision rules crypto state params fraud walk
    ply := Fin.ofNat 65536 walk.chain.length
    turn := rules.turn walk.pos
    fen := rules.fen walk.pos
    chain := walk.chain
    ignored := (state.records.toList.filter fun (id, rec) =>
      decide (rec.body.kind = .move) && !walk.chain.contains id).length
    repetitions := walk.repetitions
    halfmoveClock := rules.halfmoves walk.pos }

/-- The next move record for a key, under the canonical spelling of the move. -/
def makeMove (key : Bytes32) (uci : String) : Option Record := do
  let status := project rules crypto state params
  if status.isOver then none
  let signer := crypto.verifyingKey key
  let color ← params.colorOf signer
  if color ≠ status.turn then none
  let pos ← rules.parseFen status.fen
  let parsed ← rules.fromAscii (utf8 uci)
  let mv ← rules.toMove parsed pos
  let canonical := rules.uciString (rules.fromMove mv)
  -- `checked_add` on a `u16`
  if status.ply.val + 1 ≥ 65536 then none
  let ply := status.ply + 1
  if MAX_PLY < ply then none
  return Record.sign crypto key params (.move ply (headOf crypto params status.chain) canonical)

def legalMoves : List String :=
  let status := project rules crypto state params
  if status.isOver then []
  else
    match rules.parseFen status.fen with
    | none => []
    | some pos => (rules.legalMoves pos).map fun mv => rules.uciString (rules.fromMove mv)

end GameState

end Adjourn
