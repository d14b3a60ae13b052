import Adjourn.ChainShape
import Adjourn.Resignation

/-! Results read off the board. Fivefold repetition and the 75-move rule stop the walk,
mate and stalemate leave no legal move; insufficient material does neither, so a game drawn
by it can be played on. -/

namespace Adjourn

/-- A mated or stalemated player has no legal move. -/
structure Rules.Final (rules : Rules) : Prop where
  checkmate : ∀ uci pos, rules.isCheckmate pos = true → rules.toMove uci pos = none
  stalemate : ∀ uci pos, rules.isStalemate pos = true → rules.toMove uci pos = none

namespace BoardResult
open Cbor OrderedMap NormalForm GameState

variable {rules : Rules} {crypto : Crypto} {params : GameParams} {records : Set Record}
  {start state : GameState} {ops : List Op} {stopBefore : Option U16} {w w' : Walk rules}
  {decided : Decision}

def Ended (status : Status) : Prop :=
  ∃ decided, status.decision = some decided ∧ (decided.reason = .checkmate ∨ decided.reason = .stalemate ∨
    decided.reason = .insufficientMaterial ∨ decided.reason = .automaticDraw)

def Overruled (status : Status) : Prop :=
  ∃ decided, status.decision = some decided ∧ (decided.reason = .doubleSignForfeit ∨
    decided.reason = .resignation ∨ decided.reason = .mutualResignation)

/-- Nothing that the board decides has changed. -/
def Kept (before after : Status) : Prop :=
  after.chain = before.chain ∧ after.ply = before.ply ∧ after.fen = before.fen ∧
    after.decision = before.decision

/-- The game is drawn for lack of material alone, and one of the records is a move that
continues it. -/
def PlayedOn (rules : Rules) (crypto : Crypto) (params : GameParams) (start : GameState)
    (offers : List Record) : Prop :=
  rules.isInsufficientMaterial (start.finalWalk rules crypto params).pos = true ∧
    (start.finalWalk rules crypto params).autoDraw = false ∧
    ∃ rec ∈ offers, rec.verify crypto params = true ∧
      (candidate rules params (start.finalWalk rules crypto params).pos
        (start.finalWalk rules crypto params).parent (start.finalWalk rules crypto params).ply
        (rec.id crypto, rec)).isSome

/-- The walk comes through here, with a proper prefix of the chain that it reports. -/
def Passed (rules : Rules) (crypto : Crypto) (params : GameParams) (state : GameState) (w : Walk rules) :
    Prop :=
  Relation.ReflTransGen (Stepping.Steps (walkStep rules state params
      ((state.doubleSigned params).map Fraud.firstPly))) (walkStart rules crypto params) w ∧
    w.chain ≠ (state.project rules crypto params).chain

theorem Ended.not_overruled {status : Status} (ended : Ended status) : ¬Overruled status := by
  obtain ⟨decided, outcome, board⟩ := ended
  rintro ⟨decided', outcome', above⟩
  obtain rfl := Option.some.inj (outcome.symm.trans outcome')
  rcases board with reason | reason | reason | reason <;> rw [reason] at above <;> simp at above

theorem playing_of_not_overruled (plain : ¬Overruled (state.project rules crypto params)) :
    state.doubleSigned params = none ∧ state.resigned params = (false, false) := by
  have silent : ∀ color, state.resignedBy params color = false := by
    intro color
    by_contra resigns
    rw [Bool.not_eq_false] at resigns
    rcases Resignation.decision_cases rules crypto resigns with ⟨fraud, -, forfeited⟩ | drawn | lost
    · exact plain ⟨_, forfeited, .inl rfl⟩
    · exact plain ⟨_, drawn, .inr (.inr rfl)⟩
    · exact plain ⟨_, lost, .inr (.inl rfl)⟩
  refine ⟨?_, by rw [resigned, silent, silent]⟩
  cases found : state.doubleSigned params with
  | none => rfl
  | some fraud => exact absurd ⟨_, Forfeit.project_decision found, .inl rfl⟩ plain

theorem decision_of_board (honest : state.doubleSigned params = none)
    (playing : state.resigned params = (false, false))
    (result : boardResult rules (state.finalWalk rules crypto params) = some decided) :
    (state.project rules crypto params).decision = some decided := by
  have same : state.finalWalk rules crypto params = walk rules crypto state params none := by
    simp [finalWalk, honest]
  rw [same] at result
  simp [project, decision, honest, playing, result]

theorem board_of_ended (ended : Ended (state.project rules crypto params)) :
    state.doubleSigned params = none ∧ state.resigned params = (false, false) ∧
      (boardResult rules (state.finalWalk rules crypto params)).isSome := by
  obtain ⟨honest, playing⟩ := playing_of_not_overruled ended.not_overruled
  obtain ⟨decided, outcome, board⟩ := ended
  refine ⟨honest, playing, ?_⟩
  by_contra none'
  rw [Option.not_isSome_iff_eq_none] at none'
  rw [decision_of_undecided ⟨honest, playing, none'⟩] at outcome
  cases claimed : state.liveClaim rules crypto params with
  | none =>
    rw [claimed, Option.map_none, Option.none_or] at outcome
    split_ifs at outcome
    cases outcome
    simp at board
  | some reason =>
    have fixed := drawClaimed_eq_some claimed
    rw [claimed, Option.map_some, Option.some_or] at outcome
    cases outcome
    rw [fixed, ground] at board
    split_ifs at board <;> simp at board

theorem boardResult_of_walkStep (final : rules.Final)
    (taken : walkStep rules state params stopBefore w = some w') :
    boardResult rules w = none ↔ rules.isInsufficientMaterial w.pos = false := by
  obtain ⟨running, -, id, mv, single, -⟩ := walkStep_eq_some.1 taken
  obtain ⟨-, -, parsed, -, -, -, -, legal⟩ := mem_candidates.1 (candidates_eq_singleton.1 single).1
  have mate : rules.isCheckmate w.pos = false := by
    by_contra mated
    rw [Bool.not_eq_false] at mated
    rw [final.checkmate parsed _ mated] at legal
    cases legal
  have stale : rules.isStalemate w.pos = false := by
    by_contra stuck
    rw [Bool.not_eq_false] at stuck
    rw [final.stalemate parsed _ stuck] at legal
    cases legal
  simp [boardResult, mate, stale, running]

theorem Passed.taken (valid : state.allValid crypto params = true) (passed : Passed rules crypto params state w) :
    ∃ w', walkStep rules state params ((state.doubleSigned params).map Fraud.firstPly) w = some w' := by
  obtain ⟨reaches, short⟩ := passed
  by_contra stuck
  rw [← Option.isSome_iff_exists, Option.not_isSome_iff_eq_none] at stuck
  refine short (congrArg Walk.chain (Stepping.reaches_of_stuck stuck ?_)).symm
  exact Stepping.reaches_of_reaches reaches (walkStep_walk valid) (Stepping.reaches_run _ _)

section Runs
variable (free : crypto.CollisionFree (Record.idInput '' records))
  (keyed : start.Keyed crypto) (valid : start.allValid crypto params = true)
  (inside : ∀ rec ∈ offered start ops, rec ∈ records)
include free keyed valid inside

theorem allValid_run : (run crypto params start ops).allValid crypto params = true := by
  obtain ⟨-, after⟩ := Forfeit.between_start free keyed valid inside
  exact allValid_iff.2 fun id rec held => (after.sound id rec held).2.1

variable (clean : (run crypto params start ops).doubleSigned params = none)
include clean

theorem walkStep_run_iff : (∃ w', walkStep rules (run crypto params start ops) params none w = some w') ↔
    w.autoDraw = false ∧ ∃ rec ∈ offered start ops, rec.verify crypto params = true ∧
      (candidate rules params w.pos w.parent w.ply (rec.id crypto, rec)).isSome := by
  obtain ⟨-, after⟩ := Forfeit.between_start free keyed valid inside
  constructor
  · rintro ⟨w', taken⟩
    obtain ⟨running, -, id, mv, single, rfl⟩ := walkStep_eq_some.1 taken
    obtain ⟨rec, uci, parsed, held, body, signer, read, legal⟩ :=
      mem_candidates.1 (candidates_eq_singleton.1 single).1
    obtain ⟨rfl, verified, member⟩ := after.sound id rec held
    refine ⟨running, rec, member, verified, Option.isSome_iff_exists.2 ⟨(rec.id crypto, mv), ?_⟩⟩
    exact candidate_eq_some.2 ⟨rfl, signer, uci, parsed, body, read, legal⟩
  · rintro ⟨running, rec, member, verified, continues⟩
    obtain ⟨⟨id, mv⟩, continues⟩ := Option.isSome_iff_exists.1 continues
    have single : ∀ color, ¬(run crypto params start ops).Doubled params color w.ply :=
      fun color => doubleSigned_eq_none.1 clean color w.ply
    have only := Takeback.candidates_of_offered free inside after single member verified continues
    exact ⟨_, walkStep_eq_some.2 ⟨running, by simp, id, mv, only, rfl⟩⟩

theorem walk_run_reaches : Relation.ReflTransGen
    (Stepping.Steps (walkStep rules (run crypto params start ops) params none))
    (start.finalWalk rules crypto params) ((run crypto params start ops).finalWalk rules crypto params) := by
  obtain ⟨before, after⟩ := Forfeit.between_start free keyed valid inside
  have same : (run crypto params start ops).finalWalk rules crypto params =
      walk rules crypto (run crypto params start ops) params none := by
    simp [finalWalk, clean]
  rw [same]
  exact Takeback.walk_reaches free inside (fun rec member => List.mem_append_left _ member) before after clean

theorem changed_of_playedOn (played : PlayedOn rules crypto params start (offered start ops)) :
    ¬Kept (start.project rules crypto params) ((run crypto params start ops).project rules crypto params) := by
  rintro ⟨chain, -⟩
  obtain ⟨-, running, continues⟩ := played
  obtain ⟨w', taken⟩ := (walkStep_run_iff free keyed valid inside clean).2 ⟨running, continues⟩
  have ended : walkStep rules (run crypto params start ops) params none
      ((run crypto params start ops).finalWalk rules crypto params) = none := by
    rw [finalWalk, clean]
    exact walkStep_walk (allValid_run free keyed valid inside)
  have further := Stepping.reaches_of_taken taken ended (walk_run_reaches free keyed valid inside clean)
  obtain ⟨-, -, id, mv, -, rfl⟩ := walkStep_eq_some.1 taken
  have grown : (start.finalWalk rules crypto params).chain ++ [id] <+:
      ((run crypto params start ops).finalWalk rules crypto params).chain :=
    Stepping.reaches_preserves
      (fun w : Walk rules => (start.finalWalk rules crypto params).chain ++ [id] <+: w.chain)
      (fun _ _ taken grown => grown.trans (walkStep_chain taken)) further (List.prefix_refl _)
  have longer := grown.length_le
  have same : ((run crypto params start ops).finalWalk rules crypto params).chain =
    (start.finalWalk rules crypto params).chain := chain
  rw [same, List.length_append, List.length_singleton] at longer
  omega

theorem kept_of_not_playedOn (final : rules.Final) (ended : Ended (start.project rules crypto params))
    (playing : (run crypto params start ops).resigned params = (false, false))
    (unplayed : ¬PlayedOn rules crypto params start (offered start ops)) :
    Kept (start.project rules crypto params) ((run crypto params start ops).project rules crypto params) := by
  obtain ⟨honest, playing', result⟩ := board_of_ended ended
  obtain ⟨decided, result⟩ := Option.isSome_iff_exists.1 result
  have stuck : walkStep rules (run crypto params start ops) params none
      (start.finalWalk rules crypto params) = none := by
    by_contra moves
    obtain ⟨w', taken⟩ := Option.ne_none_iff_exists'.1 moves
    obtain ⟨running, continues⟩ := (walkStep_run_iff free keyed valid inside clean).1 ⟨w', taken⟩
    refine unplayed ⟨?_, running, continues⟩
    by_contra material
    rw [Bool.not_eq_true] at material
    rw [(boardResult_of_walkStep final taken).2 material] at result
    cases result
  have same := Stepping.reaches_of_stuck stuck (walk_run_reaches free keyed valid inside clean)
  obtain ⟨chain, ply, fen⟩ := project_eq_of_walk same
  refine ⟨chain, ply, fen, ?_⟩
  rw [decision_of_board honest playing' result, decision_of_board clean playing (same ▸ result)]

end Runs

/-- Moves delivered after a result leave the game as it was, unless it was drawn for lack
of material and one of them continues it; and the walk passes through no position that the
board decides, unless it passes through one without mating material. -/
theorem board_result_kept_iff (rules : Rules) (crypto : Crypto) (params : GameParams)
    (records : Set Record) (final : rules.Final)
    (free : crypto.CollisionFree (Record.idInput '' records)) :
    (∀ (start : GameState) (ops : List Op), start.Keyed crypto → start.allValid crypto params = true →
      (∀ rec ∈ offered start ops, rec ∈ records) → Ended (start.project rules crypto params) →
      ¬Overruled ((run crypto params start ops).project rules crypto params) →
      (Kept (start.project rules crypto params) ((run crypto params start ops).project rules crypto params) ↔
        ¬PlayedOn rules crypto params start (offered start ops))) ∧
    ∀ state : GameState, state.allValid crypto params = true →
      ((∀ w, Passed rules crypto params state w → boardResult rules w = none) ↔
        ∀ w, Passed rules crypto params state w → rules.isInsufficientMaterial w.pos = false) := by
  constructor
  · intro start ops keyed valid inside ended plain
    obtain ⟨clean, playing⟩ := playing_of_not_overruled plain
    constructor
    · intro kept played
      exact changed_of_playedOn free keyed valid inside clean played kept
    · exact kept_of_not_playedOn free keyed valid inside clean final ended playing
  · intro state valid
    constructor
    · intro none' w passed
      obtain ⟨w', taken⟩ := passed.taken valid
      exact (boardResult_of_walkStep final taken).1 (none' w passed)
    · intro material w passed
      obtain ⟨w', taken⟩ := passed.taken valid
      exact (boardResult_of_walkStep final taken).2 (material w passed)

/-- Everything is traded off down to the kings, of which Black's moves on. -/
def bareKings : List String :=
  ["e2e4", "d7d5", "e4d5", "d8d5", "d1h5", "d5a2", "h5h7", "a2b1", "h7g8", "b1c2", "a1a7", "c2b2",
    "g8f7", "e8f7", "c1b2", "h8h2", "b2g7", "h2h1", "g7f8", "h1g1", "a7b7", "g1g2", "b7b8", "g2f2",
    "b8c8", "f2d2", "c8c7", "a8f8", "c7e7", "f7e7", "e1d2", "e7d8", "d2e1", "f8f1", "e1f1", "d8d7"]

def bareRules : Rules :=
  { Sample.along bareKings fun ply => if ply ∈ [5, 32, 36] then 1 else if ply = 33 then 2 else 0 with
    isInsufficientMaterial := fun ply : Nat => decide (35 ≤ ply) }

theorem bareRules_final : bareRules.Final where
  checkmate _ _ mated := by cases mated
  stalemate _ _ stuck := by cases stuck

def traded : List Record := Sample.played Sample.params 1 (Sample.params.genesis Sample.crypto) (bareKings.take 35)

def bare : GameState := traded.foldl (absorbForTest Sample.crypto) .empty

def bareHead : RecordId := (traded.getLast?.map (Record.id Sample.crypto)).getD (Sample.params.genesis Sample.crypto)

def kingMove : Record := Record.sign Sample.crypto Sample.blackKey Sample.params (.move 36 bareHead "d8d7")

def bareOffer : Record := Record.sign Sample.crypto Sample.blackKey Sample.params (.drawOffer 35 bareHead)

theorem bare_valid : bare.allValid Sample.crypto Sample.params = true := by decide +kernel

theorem bare_drawn :
    (bare.project bareRules Sample.crypto Sample.params).decision = some ⟨none, .insufficientMaterial⟩ ∧
      (bare.project bareRules Sample.crypto Sample.params).chain.length = 35 := by
  decide +kernel

theorem bare_ended : Ended (bare.project bareRules Sample.crypto Sample.params) :=
  ⟨_, bare_drawn.1, .inr (.inr (.inl rfl))⟩

theorem bare_playedOn :
    ((run Sample.crypto Sample.params bare [.insertVerified kingMove]).project bareRules Sample.crypto
      Sample.params).decision = some ⟨none, .insufficientMaterial⟩ ∧
    ((run Sample.crypto Sample.params bare [.insertVerified kingMove]).project bareRules Sample.crypto
      Sample.params).chain.length = 36 := by
  decide +kernel

/-- The game is drawn with bare kings, and Black's king moves on. -/
theorem board_result_played_on :
    bareRules.Final ∧ bare.allValid Sample.crypto Sample.params = true ∧
    Ended (bare.project bareRules Sample.crypto Sample.params) ∧
    ¬Overruled ((run Sample.crypto Sample.params bare [.insertVerified kingMove]).project bareRules Sample.crypto
      Sample.params) ∧
    ¬Kept (bare.project bareRules Sample.crypto Sample.params)
      ((run Sample.crypto Sample.params bare [.insertVerified kingMove]).project bareRules Sample.crypto
        Sample.params) := by
  refine ⟨bareRules_final, bare_valid, bare_ended, ?_, fun kept => ?_⟩
  · exact Ended.not_overruled ⟨_, bare_playedOn.1, .inr (.inr (.inl rfl))⟩
  · have same := congrArg List.length kept.1
    rw [bare_playedOn.2, bare_drawn.2] at same
    cases same

theorem board_result_kept_iff_offer :
    Kept (bare.project bareRules Sample.crypto Sample.params)
      ((run Sample.crypto Sample.params bare [.insertVerified bareOffer]).project bareRules Sample.crypto
        Sample.params) := by
  refine ((board_result_kept_iff bareRules Sample.crypto Sample.params {rec | rec ∈ bareOffer :: traded}
    bareRules_final ?_).1 bare _ ((keyed_empty _).foldl_absorbForTest _) bare_valid ?_ bare_ended ?_).2 ?_
  · exact Sample.collisionFree_image _ _ (by decide +kernel)
  · decide +kernel
  · refine Ended.not_overruled ⟨⟨none, .insufficientMaterial⟩, ?_, .inr (.inr (.inl rfl))⟩
    decide +kernel
  · rintro ⟨-, -, continues⟩
    revert continues
    decide +kernel

end BoardResult

end Adjourn
