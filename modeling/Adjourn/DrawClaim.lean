import Adjourn.Convergence
import Adjourn.IdlePlayer

/-! Claimed draws against the records of the opponent. -/

namespace Adjourn.DrawClaim
open Cbor OrderedMap NormalForm GameState IdlePlayer

variable {rules : Rules} {crypto : Crypto} {params : GameParams} {records : Set Record}
  {state : GameState} {op : Op} {claimant : Color} {reason : Reason}

section Setting
variable (free : crypto.CollisionFree (Record.idInput '' records))
  (setting : OneSided crypto params records state op.records claimant.other)
  (normal : state.filterValid crypto params = state)
include free setting normal

theorem held_after {id : RecordId} {rec : Record} (owner : rec.color params = some claimant)
    (held : state.records[id]? = some rec) : (op.apply crypto params state).records[id]? = some rec := by
  have represents : Represents crypto params _ _ :=
    Convergence.represents_filterValid free setting.inside_before
  rw [normal] at represents
  obtain ⟨own, survives⟩ := (represents id rec).1 held
  have owner' : rec.color params = some claimant.other.other := by rw [Color.other_other]; exact owner
  have after := setting.before.apply free op setting.inside
  exact (after id rec).2 ⟨own, setting.survives_of_other free owner' survives⟩

theorem decision_of_playing (alternates : rules.Alternates)
    (turn : (state.project rules crypto params).turn = claimant)
    (claim : reason = .threefoldClaim ∨ reason = .fiftyMoveClaim)
    (decided : (state.project rules crypto params).decision = some ⟨none, reason⟩)
    (honest : (op.apply crypto params state).doubleSigned params = none)
    (playing : (op.apply crypto params state).resigned params = (false, false)) :
    ((op.apply crypto params state).project rules crypto params).decision = some ⟨none, reason⟩ := by
  obtain ⟨undecided, claimed⟩ := (decision_eq_claim_iff claim).1 decided
  have turn' : rules.turn (state.finalWalk rules crypto params).pos = claimant := turn
  have mover : colorAtPly (state.finalWalk rules crypto params).ply = claimant.other.other := by
    have own : rules.turn (state.finalWalk rules crypto params).pos =
        colorAtPly (state.finalWalk rules crypto params).ply := turn_walk alternates setting.valid
    rw [Color.other_other]
    exact own.symm.trans turn'
  have walks := setting.finalWalk_eq (setting.before.apply free op setting.inside).between free undecided
    mover honest
  have open' : (op.apply crypto params state).Undecided rules crypto params := by
    refine ⟨honest, playing, ?_⟩
    rw [walks]
    exact undecided.2.2
  obtain ⟨grounded, id, rec, ply, held, body, owner⟩ := isSome_liveClaim.1 (Option.isSome_of_eq_some claimed)
  have stands : ((op.apply crypto params state).liveClaim rules crypto params).isSome := by
    refine isSome_liveClaim.2 ⟨?_, id, rec, ply, ?_, ?_, ?_⟩
    · rw [Grounded, walks]
      exact grounded
    · exact held_after free setting normal (owner.trans (congrArg some turn')) held
    · rw [GameState.head, walks]
      exact body
    · rw [walks]
      exact owner
  obtain ⟨reason', claimed'⟩ := Option.isSome_iff_exists.1 stands
  have same : reason' = reason := by
    rw [drawClaimed_eq_some claimed', drawClaimed_eq_some claimed, walks]
  exact (decision_eq_claim_iff claim).2 ⟨open', same ▸ claimed'⟩

end Setting

/-- A draw claimed by the player to move stands against whatever his opponent signs,
unless the opponent loses by it: he can resign or double-sign, and nothing else. -/
theorem claim_kept (rules : Rules) (crypto : Crypto) (params : GameParams) (records : Set Record)
    (state : GameState) (op : Op) (reason : Reason)
    (free : crypto.CollisionFree (Record.idInput '' records)) (alternates : rules.Alternates)
    (setting : OneSided crypto params records state op.records (state.project rules crypto params).turn.other)
    (normal : state.filterValid crypto params = state)
    (claim : reason = .threefoldClaim ∨ reason = .fiftyMoveClaim)
    (decided : (state.project rules crypto params).decision = some ⟨none, reason⟩) :
    ((op.apply crypto params state).project rules crypto params).decision = some ⟨none, reason⟩ ∨
      ((op.apply crypto params state).project rules crypto params).decision =
        some ⟨some (state.project rules crypto params).turn, .resignation⟩ ∨
      ((op.apply crypto params state).project rules crypto params).decision =
        some ⟨some (state.project rules crypto params).turn, .doubleSignForfeit⟩ := by
  have undecided := ((decision_eq_claim_iff claim).1 decided).1
  have between := (setting.before.apply free op setting.inside).between
  have loses : ∀ reason, some (Decision.mk (some (state.project rules crypto params).turn.other.other) reason) =
      some ⟨some (state.project rules crypto params).turn, reason⟩ := by
    intro reason
    rw [Color.other_other]
  by_cases doubled : ∃ ply, (op.apply crypto params state).Doubled params
      (state.project rules crypto params).turn.other ply
  · obtain ⟨ply, doubled⟩ := doubled
    exact .inr (.inr ((setting.decision_of_doubled between free undecided doubled).trans (loses _)))
  have honest := setting.honest_of_not_doubled between free undecided doubled
  by_cases resigns : (op.apply crypto params state).resignedBy params
      (state.project rules crypto params).turn.other = true
  · exact .inr (.inl ((setting.decision_of_resigned between free undecided honest resigns).trans (loses _)))
  have playing := setting.playing_of_not_resigned between free undecided resigns
  exact .inl (decision_of_playing free setting normal alternates rfl claim decided honest playing)

/-- The knights go out and come home, over and over; positions are counted in plies. -/
def shuttle : List String := ["g1f3", "g8f6", "f3g1", "f6g8"]

def knights : Rules where
  Position := Nat
  Move := String
  UciMove := String
  start := 0
  fromAscii ascii := shuttle.find? fun mv => utf8 mv = ascii
  toMove mv ply := if shuttle[ply % 4]? = some mv then some mv else none
  fromMove mv := mv
  uciString mv := mv
  play ply _ := ply + 1
  turn ply := if ply % 2 = 0 then .white else .black
  halfmoves ply := ply
  isCheckmate _ := false
  isStalemate _ := false
  isInsufficientMaterial _ := false
  legalMoves ply := shuttle[ply % 4]?.toList
  repetitionKey ply := toString (ply % 4)
  fen ply := toString ply
  parseFen _ := none

theorem knights_alternates : knights.Alternates where
  start := rfl
  play _ ply _ _ := Sample.parity_succ ply

def repeated : List Record := Sample.played Sample.params 1 (Sample.params.genesis Sample.crypto) (shuttle ++ shuttle)

def claim : Record :=
  Record.sign Sample.crypto Sample.whiteKey Sample.params
    (.drawClaim 8 ((repeated.getLast?.map (Record.id Sample.crypto)).getD (Sample.params.genesis Sample.crypto)))

def claimed : GameState := (repeated ++ [claim]).foldl (absorbForTest Sample.crypto) .empty

def outOfTurn : Record :=
  Record.sign Sample.crypto Sample.blackKey Sample.params (.move 9 (claim.id Sample.crypto) "g8f6")

theorem claim_kept_outOfTurn :
    (((Op.insertVerified outOfTurn).apply Sample.crypto Sample.params claimed).project knights Sample.crypto
        Sample.params).decision = some ⟨none, .threefoldClaim⟩ ∨
      (((Op.insertVerified outOfTurn).apply Sample.crypto Sample.params claimed).project knights Sample.crypto
        Sample.params).decision =
          some ⟨some (claimed.project knights Sample.crypto Sample.params).turn, .resignation⟩ ∨
      (((Op.insertVerified outOfTurn).apply Sample.crypto Sample.params claimed).project knights Sample.crypto
        Sample.params).decision =
          some ⟨some (claimed.project knights Sample.crypto Sample.params).turn, .doubleSignForfeit⟩ := by
  have free : Sample.crypto.CollisionFree
      (Record.idInput '' {rec | rec ∈ repeated ++ [claim, outOfTurn]}) :=
    Sample.collisionFree_image _ _ (by decide +kernel)
  refine claim_kept knights Sample.crypto Sample.params _ claimed _ .threefoldClaim free knights_alternates
    ⟨?_, (keyed_empty _).foldl_absorbForTest _, ?_, ?_, ?_⟩ ?_ (.inl rfl) ?_ <;> decide +kernel

end Adjourn.DrawClaim
