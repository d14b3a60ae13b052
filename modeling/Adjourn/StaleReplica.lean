import Adjourn.BoardResult
import Adjourn.NextMove
import Adjourn.Grants
import Adjourn.Canonical

/-! The delegate's best-effort check against a replica that is behind. It asks whether the
game is over before it asks whether the replica knows the ply, and a game drawn by
statements at a head that has been moved on from is not over. -/

namespace Adjourn

/-- Where there is too little material to mate, no move brings any back. -/
structure Rules.Dwindles (rules : Rules) : Prop where
  play : ∀ uci pos mv, rules.toMove uci pos = some mv → rules.isInsufficientMaterial pos = true →
    rules.isInsufficientMaterial (rules.play pos mv) = true

namespace StaleReplica
open Cbor OrderedMap NormalForm GameState Delegate

variable {rules : Rules} {crypto : Crypto} {params : GameParams} {records : Set Record} {start state : GameState}
  {ops : List Op} {stopBefore : Option U16} {w w' : Walk rules}

theorem insufficient_step (dwindles : rules.Dwindles) (taken : walkStep rules state params stopBefore w = some w')
    (bare : rules.isInsufficientMaterial w.pos = true) : rules.isInsufficientMaterial w'.pos = true := by
  obtain ⟨-, -, id, mv, single, rfl⟩ := walkStep_eq_some.1 taken
  obtain ⟨-, -, parsed, -, -, -, -, legal⟩ := mem_candidates.1 (candidates_eq_singleton.1 single).1
  exact dwindles.play parsed _ mv legal bare

theorem isInsufficientMaterial_of_boardResult (none' : boardResult rules w = none) :
    rules.isInsufficientMaterial w.pos = false := by
  unfold boardResult at none'
  split_ifs at none' with mate stale bare
  simpa using bare

section Runs
variable (free : crypto.CollisionFree (Record.idInput '' records))
  (keyed : start.Keyed crypto) (valid : start.allValid crypto params = true)
  (inside : ∀ rec ∈ offered start ops, rec ∈ records)
  (open' : ((run crypto params start ops).project rules crypto params).decision = none)
include free keyed valid inside open'

theorem playing_of_later : start.doubleSigned params = none ∧ start.resigned params = (false, false) := by
  obtain ⟨honest, playing, -⟩ := NextMove.undecided_of_open open'
  constructor
  · refine doubleSigned_eq_none.2 fun color ply doubled => ?_
    exact doubleSigned_eq_none.1 honest color ply (Forfeit.doubled_run free keyed valid inside doubled)
  · have silent : ∀ color, start.resignedBy params color = false := by
      intro color
      by_contra resigns
      have stays := Resignation.resignedBy_run free keyed valid inside (Bool.not_eq_false _ ▸ resigns)
      rw [resigned, Prod.mk.injEq] at playing
      cases color
      · exact absurd (playing.1.symm.trans stays) (by decide)
      · exact absurd (playing.2.symm.trans stays) (by decide)
    rw [resigned, silent, silent]

theorem reaches_of_later :
    Relation.ReflTransGen (Stepping.Steps (walkStep rules (run crypto params start ops) params none))
      (start.finalWalk rules crypto params) ((run crypto params start ops).finalWalk rules crypto params) :=
  BoardResult.walk_run_reaches free keyed valid inside (NextMove.undecided_of_open open').1

theorem undecided_of_later (final : rules.Final) (dwindles : rules.Dwindles) :
    start.Undecided rules crypto params := by
  obtain ⟨-, -, result⟩ := NextMove.undecided_of_open open'
  obtain ⟨honest, playing⟩ := playing_of_later free keyed valid inside open'
  refine ⟨honest, playing, ?_⟩
  have reaches := reaches_of_later free keyed valid inside open'
  rcases Relation.ReflTransGen.cases_head reaches with same | ⟨next, taken, -⟩
  · rw [same]
    exact result
  · refine (BoardResult.boardResult_of_walkStep final taken).2 (Bool.not_eq_true _ ▸ fun bare => ?_)
    have still := Stepping.reaches_preserves (fun w : Walk rules => rules.isInsufficientMaterial w.pos = true)
      (fun _ _ taken bare => insufficient_step dwindles taken bare) reaches bare
    rw [isInsufficientMaterial_of_boardResult result] at still
    cases still

theorem finalWalk_eq_of_ply
    (same : (start.project rules crypto params).ply =
      ((run crypto params start ops).project rules crypto params).ply) :
    start.finalWalk rules crypto params = (run crypto params start ops).finalWalk rules crypto params := by
  have valid' := BoardResult.allValid_run free keyed valid inside
  have short : (start.finalWalk rules crypto params).chain.length ≤ 4096 := (walked_walk valid).short
  have short' : ((run crypto params start ops).finalWalk rules crypto params).chain.length ≤ 4096 :=
    (walked_walk valid').short
  have lengths : (start.finalWalk rules crypto params).chain.length =
      ((run crypto params start ops).finalWalk rules crypto params).chain.length := by
    have plies : (start.finalWalk rules crypto params).chain.length % 65536 =
        ((run crypto params start ops).finalWalk rules crypto params).chain.length % 65536 :=
      congrArg Fin.val same
    omega
  have reaches := reaches_of_later free keyed valid inside open'
  rcases Relation.ReflTransGen.cases_head reaches with same' | ⟨next, taken, further⟩
  · exact same'
  · obtain ⟨-, -, id, mv, -, rfl⟩ := walkStep_eq_some.1 taken
    have grown : (start.finalWalk rules crypto params).chain ++ [id] <+:
        ((run crypto params start ops).finalWalk rules crypto params).chain :=
      Stepping.reaches_preserves
        (fun w : Walk rules => (start.finalWalk rules crypto params).chain ++ [id] <+: w.chain)
        (fun _ _ taken grown => grown.trans (walkStep_chain taken)) further (List.prefix_refl _)
    have longer := grown.length_le
    rw [List.length_append, List.length_singleton] at longer
    omega

end Runs

theorem legalMoves_eq {other : GameState}
    (walks : state.finalWalk rules crypto params = other.finalWalk rules crypto params)
    (open' : (state.project rules crypto params).decision = none)
    (open'' : (other.project rules crypto params).decision = none) :
    state.legalMoves rules crypto params = other.legalMoves rules crypto params := by
  obtain ⟨-, -, fens⟩ := project_eq_of_walk walks
  simp only [legalMoves, Status.isOver, open', open'', fens]

theorem decision_eq_none_iff (undecided : state.Undecided rules crypto params) :
    (state.project rules crypto params).decision = none ↔
      state.liveClaim rules crypto params = none ∧ state.liveAgreement rules crypto params = false := by
  rw [decision_of_undecided undecided, Option.or_eq_none_iff, Option.map_eq_none_iff]
  refine and_congr_right fun _ => ?_
  cases state.liveAgreement rules crypto params <;> simp

theorem locallyKnownToBeIllegal_move {reader : Reader} {host : Host} {record : GameRecord} {ply : U16}
    {parent : RecordId} {uci : String}
    (fetched : (host.contractState record.contract).bind (GameState.decode crypto reader) = some state) :
    locallyKnownToBeIllegal rules crypto reader host record (.move ply parent uci) = false ↔
      (state.project rules crypto record.params).decision = none ∧
        ((state.project rules crypto record.params).ply + 1 = ply →
          uci ∈ state.legalMoves rules crypto record.params) := by
  have unfinished : (state.project rules crypto record.params).isOver = false ↔
      (state.project rules crypto record.params).decision = none := by
    simp [Status.isOver]
  simp only [locallyKnownToBeIllegal, fetched]
  rw [← unfinished]
  cases (state.project rules crypto record.params).isOver with
  | true => simp
  | false => by_cases next : (state.project rules crypto record.params).ply + 1 = ply <;> simp [next]

/-- A replica that is behind refuses no legal move exactly when no draw agreement and no
grounded draw claim stands at its own head. -/
theorem stale_replica_iff (rules : Rules) (crypto : Crypto) (reader : Reader) (record : GameRecord) (host : Host)
    (records : Set Record) (start : GameState) (ops : List Op) (ply : U16) (parent : RecordId) (uci : String)
    (final : rules.Final) (dwindles : rules.Dwindles) (free : crypto.CollisionFree (Record.idInput '' records))
    (keyed : start.Keyed crypto) (valid : start.allValid crypto record.params = true)
    (inside : ∀ rec ∈ offered start ops, rec ∈ records)
    (fetched : (host.contractState record.contract).bind (GameState.decode crypto reader) = some start)
    (open' : ((run crypto record.params start ops).project rules crypto record.params).decision = none)
    (next : ply = ((run crypto record.params start ops).project rules crypto record.params).ply + 1)
    (legal : uci ∈ (run crypto record.params start ops).legalMoves rules crypto record.params) :
    locallyKnownToBeIllegal rules crypto reader host record (.move ply parent uci) = false ↔
      start.liveClaim rules crypto record.params = none ∧
        start.liveAgreement rules crypto record.params = false := by
  have undecided := undecided_of_later free keyed valid inside open' final dwindles
  rw [locallyKnownToBeIllegal_move fetched, decision_eq_none_iff undecided]
  refine and_iff_left_of_imp fun quiet same => ?_
  have plies : (start.project rules crypto record.params).ply =
      ((run crypto record.params start ops).project rules crypto record.params).ply := by
    rw [next] at same
    exact add_right_cancel same
  have walks := finalWalk_eq_of_ply free keyed valid inside open' plies
  rw [legalMoves_eq walks ((decision_eq_none_iff undecided).2 quiet) open']
  exact legal

def sampleReplica (state : GameState) : Host := ⟨(zeros, zeros), fun _ => some state.encode, fun _ => true⟩

def blackRecord : GameRecord :=
  ⟨GAME_RECORD_FORMAT, "black", Sample.params, .black, none, zeros, none, .degraded, 0, zeros⟩

/-- The replica of a player who has seen the draw agreed before the first move and not that
White moved after all. -/
def sampleStale : GameState :=
  (GameState.empty.absorbForTest Sample.crypto Sample.offer).absorbForTest Sample.crypto Sample.acceptance

theorem sample_final : Sample.rules.Final where
  checkmate _ _ mated := by cases mated
  stalemate _ _ stuck := by cases stuck

theorem sample_dwindles : Sample.rules.Dwindles where
  play _ _ _ _ bare := by cases bare

def sampleOffered : GameState := GameState.empty.absorbForTest Sample.crypto Sample.offer

/-- As long as the offer is not accepted, Black may answer the opening. -/
theorem stale_replica_iff_offered : locallyKnownToBeIllegal Sample.rules Sample.crypto Reader.exact
    (sampleReplica sampleOffered) blackRecord (.move 2 (Sample.opening.id Sample.crypto) "e7e5") = false := by
  have keyed : sampleOffered.Keyed Sample.crypto := (GameState.keyed_empty _).absorbForTest _
  refine (stale_replica_iff Sample.rules Sample.crypto Reader.exact blackRecord (sampleReplica sampleOffered)
    {rec | rec ∈ [Sample.offer, Sample.opening]} sampleOffered [.insertVerified Sample.opening] 2 _ "e7e5"
    sample_final sample_dwindles ?_ keyed ?_ ?_ ?_ ?_ ?_ ?_).2 ?_
  · exact Sample.collisionFree_image _ _ (by decide +kernel)
  · decide +kernel
  · decide +kernel
  · exact Canonical.decode_encode Reader.exact_roundTrips keyed
  · decide +kernel
  · decide +kernel
  · decide +kernel
  · decide +kernel

/-- Black, whose replica has the agreement and not the opening that voided it, may not answer
the opening. -/
theorem stale_replica_refuses :
    Sample.rules.Final ∧ Sample.rules.Dwindles ∧
    sampleStale.Keyed Sample.crypto ∧ sampleStale.allValid Sample.crypto Sample.params = true ∧
    ((sampleReplica sampleStale).contractState blackRecord.contract).bind
      (GameState.decode Sample.crypto Reader.exact) = some sampleStale ∧
    ((run Sample.crypto Sample.params sampleStale [.insertVerified Sample.opening]).project
      Sample.rules Sample.crypto Sample.params).decision = none ∧
    2 = ((run Sample.crypto Sample.params sampleStale [.insertVerified Sample.opening]).project
      Sample.rules Sample.crypto Sample.params).ply + 1 ∧
    "e7e5" ∈ (run Sample.crypto Sample.params sampleStale [.insertVerified Sample.opening]).legalMoves
      Sample.rules Sample.crypto Sample.params ∧
    locallyKnownToBeIllegal Sample.rules Sample.crypto Reader.exact (sampleReplica sampleStale) blackRecord
      (.move 2 (Sample.opening.id Sample.crypto) "e7e5") = true := by
  have keyed : sampleStale.Keyed Sample.crypto := ((GameState.keyed_empty _).absorbForTest _).absorbForTest _
  have fetched : ((sampleReplica sampleStale).contractState blackRecord.contract).bind
      (GameState.decode Sample.crypto Reader.exact) = some sampleStale :=
    Canonical.decode_encode Reader.exact_roundTrips keyed
  refine ⟨sample_final, sample_dwindles, keyed, by decide +kernel, fetched, by decide +kernel, by decide +kernel,
    by decide +kernel, ?_⟩
  rw [← Bool.not_eq_false, locallyKnownToBeIllegal_move fetched]
  rintro ⟨open', -⟩
  revert open'
  decide +kernel

end StaleReplica

end Adjourn
