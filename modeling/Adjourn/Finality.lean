import Adjourn.BoardResult
import Adjourn.Retention

/-! A result that the board gives is final in the whole system: no replica shows a game that goes
beyond it, and none shows another result of the same moves. -/

namespace Adjourn.Finality
open Cbor OrderedMap NormalForm GameState Contract Network Retention BoardResult

/-- Mate, stalemate, or an automatic draw. A game drawn for lack of material can go on. -/
def Settled (status : Status) : Prop :=
  ∃ decided, status.decision = some decided ∧
    (decided.reason = .checkmate ∨ decided.reason = .stalemate ∨ decided.reason = .automaticDraw)

def Resigned (status : Status) : Prop :=
  ∃ decided, status.decision = some decided ∧
    (decided.reason = .resignation ∨ decided.reason = .mutualResignation)

/-- All that is read off the position. -/
def SamePosition (status status' : Status) : Prop :=
  status'.ply = status.ply ∧ status'.turn = status.turn ∧ status'.fen = status.fen ∧
    status'.repetitions = status.repetitions ∧ status'.halfmoveClock = status.halfmoveClock

theorem SamePosition.symm {status status' : Status} (same : SamePosition status status') :
    SamePosition status' status := by
  obtain ⟨ply, turn, fen, repetitions, halfmoves⟩ := same
  exact ⟨ply.symm, turn.symm, fen.symm, repetitions.symm, halfmoves.symm⟩

/-- The second game does not go beyond a result that the first one has, and with the same moves
it has the same result, where nobody has resigned. -/
def Upholds (status status' : Status) : Prop :=
  Settled status → status'.chain <+: status.chain ∧
    (status'.chain = status.chain → Resigned status' ∨ Kept status status')

section Walks
variable {rules : Rules} {crypto : Crypto} {params : GameParams} {state other third : GameState} {w w' : Walk rules}

/-- No state has a move that continues a settled position. -/
theorem walkStep_of_settled {decided : Decision} {stopBefore : Option U16} (final : rules.Final)
    (result : boardResult rules w = some decided)
    (reason : decided.reason = .checkmate ∨ decided.reason = .stalemate ∨ decided.reason = .automaticDraw) :
    walkStep rules state params stopBefore w = none := by
  by_contra moves
  obtain ⟨next, taken⟩ := Option.ne_none_iff_exists'.1 moves
  have material : rules.isInsufficientMaterial w.pos = true := by
    by_contra enough
    rw [Bool.not_eq_true] at enough
    rw [(boardResult_of_walkStep final taken).2 enough] at result
    cases result
  obtain ⟨running, -, id, mv, single, -⟩ := walkStep_eq_some.1 taken
  obtain ⟨-, -, parsed, -, -, -, -, legal⟩ := mem_candidates.1 (candidates_eq_singleton.1 single).1
  unfold boardResult at result
  split_ifs at result with mate stale <;> cases result
  · rw [final.checkmate parsed _ mate] at legal
    cases legal
  · rw [final.stalemate parsed _ stale] at legal
    cases legal
  · simp at reason

theorem eq_of_chain {stopBefore : Option U16}
    (reaches : Relation.ReflTransGen (Stepping.Steps (walkStep rules third params stopBefore)) w w')
    (same : w'.chain = w.chain) : w' = w := by
  rcases Relation.ReflTransGen.cases_head reaches with rfl | ⟨next, taken, rest⟩
  · rfl
  · have grown : next.chain <+: w'.chain :=
      Stepping.reaches_preserves (fun later : Walk rules => next.chain <+: later.chain)
        (fun _ _ step grown => grown.trans (walkStep_chain step)) rest List.prefix_rfl
    obtain ⟨-, -, id, mv, -, rfl⟩ := walkStep_eq_some.1 taken
    have longer := grown.length_le
    rw [same] at longer
    simp [advance] at longer

theorem settled_board (settled : Settled (state.project rules crypto params)) :
    ∃ decided, boardResult rules (state.finalWalk rules crypto params) = some decided ∧
      (decided.reason = .checkmate ∨ decided.reason = .stalemate ∨ decided.reason = .automaticDraw) ∧
      (state.project rules crypto params).decision = some decided := by
  obtain ⟨decided, outcome, reason⟩ := settled
  have ended : Ended (state.project rules crypto params) :=
    ⟨decided, outcome, reason.imp_right (Or.imp_right .inr)⟩
  obtain ⟨honest, playing, result⟩ := board_of_ended ended
  obtain ⟨decided', result⟩ := Option.isSome_iff_exists.1 result
  obtain rfl := Option.some.inj (outcome.symm.trans (decision_of_board honest playing result))
  exact ⟨decided, result, reason, outcome⟩

theorem resigned_or_playing (clean : state.doubleSigned params = none) :
    Resigned (state.project rules crypto params) ∨ state.resigned params = (false, false) := by
  cases marks : state.resigned params with
  | mk white black =>
    cases white <;> cases black
    · exact .inr rfl
    · exact .inl ⟨⟨some .white, .resignation⟩, by simp [project, decision, clean, marks], .inl rfl⟩
    · exact .inl ⟨⟨some .black, .resignation⟩, by simp [project, decision, clean, marks], .inl rfl⟩
    · exact .inl ⟨⟨none, .mutualResignation⟩, by simp [project, decision, clean, marks], .inr rfl⟩

theorem kept_of_walk (clean : other.doubleSigned params = none)
    (settled : Settled (state.project rules crypto params))
    (walks : state.finalWalk rules crypto params = other.finalWalk rules crypto params) :
    Resigned (other.project rules crypto params) ∨
      Kept (state.project rules crypto params) (other.project rules crypto params) := by
  refine (resigned_or_playing clean).imp_right fun playing => ?_
  obtain ⟨decided, result, -, outcome⟩ := settled_board settled
  obtain ⟨chain, ply, fen⟩ := project_eq_of_walk walks
  refine ⟨chain.symm, ply.symm, fen.symm, ?_⟩
  rw [outcome, decision_of_board clean playing (walks ▸ result)]

theorem samePosition_of_walk (walks : state.finalWalk rules crypto params = other.finalWalk rules crypto params) :
    SamePosition (state.project rules crypto params) (other.project rules crypto params) := by
  obtain ⟨-, ply, fen⟩ := project_eq_of_walk walks
  exact ⟨ply.symm, congrArg (fun w : Walk rules => rules.turn w.pos) walks.symm, fen.symm,
    congrArg Walk.repetitions walks.symm, congrArg (fun w : Walk rules => rules.halfmoves w.pos) walks.symm⟩

theorem upholds_of_reaches (final : rules.Final) (clean : state.doubleSigned params = none)
    (clean' : other.doubleSigned params = none)
    (reaches : Relation.ReflTransGen (Stepping.Steps (walkStep rules third params none))
      (walk rules crypto state params none) (walk rules crypto other params none)) :
    Upholds (state.project rules crypto params) (other.project rules crypto params) ∧
      Upholds (other.project rules crypto params) (state.project rules crypto params) ∧
      ((state.project rules crypto params).chain = (other.project rules crypto params).chain →
        SamePosition (state.project rules crypto params) (other.project rules crypto params)) := by
  have first : state.finalWalk rules crypto params = walk rules crypto state params none := by simp [finalWalk, clean]
  have second : other.finalWalk rules crypto params = walk rules crypto other params none := by
    simp [finalWalk, clean']
  rw [← first, ← second] at reaches
  have grown := chain_of_reaches reaches
  have walks : (state.project rules crypto params).chain = (other.project rules crypto params).chain →
      state.finalWalk rules crypto params = other.finalWalk rules crypto params :=
    fun same => (eq_of_chain reaches same.symm).symm
  refine ⟨fun settled => ?_, fun settled => ⟨grown, fun same => ?_⟩,
    fun same => samePosition_of_walk (walks same)⟩
  · obtain ⟨decided, result, reason, -⟩ := settled_board settled
    have same := Stepping.reaches_of_stuck (walkStep_of_settled final result reason) reaches
    have chains : (other.project rules crypto params).chain = (state.project rules crypto params).chain :=
      congrArg Walk.chain same
    exact ⟨chains ▸ List.prefix_rfl, fun _ => kept_of_walk clean' settled same.symm⟩
  · exact kept_of_walk clean settled (walks same).symm

end Walks

variable {setting : Setting} {Node : Type} [DecidableEq Node]

/-- A result that the board gives is final. Whatever is asked of the delegates and whatever reaches
the replicas, no replica ever shows a game that goes beyond it; the same moves have the same
result, and the same position, at every replica and at any time, unless somebody resigns; and
where the replica is not replaced, that is what it goes on to show. -/
theorem board_result_final (setting : Setting) (early late : System Node) (final : setting.rules.Final)
    (reads : setting.reader.RoundTrips) (sealed : setting.secrets.RoundTrips)
    (starts : Relation.ReflTransGen (Next setting) (System.start Node) early)
    (goes : Relation.ReflTransGen (Next setting) early late)
    (bodies : ∀ color, setting.crypto.CollisionFree
      (bodyHashInput '' {body | ∃ call ∈ late.asked color, ∃ gameId, call.request = .sign gameId body}))
    (free : setting.crypto.CollisionFree (Record.idInput '' {rec | ∃ color, Stated setting late color rec}))
    (node peer : Node) :
    ∃ status status', shown setting early node = .ok status ∧ shown setting late peer = .ok status' ∧
      Upholds status status' ∧ Upholds status' status ∧
      (status.chain = status'.chain → SamePosition status status') ∧
      (peer = node → Relation.ReflTransGen (Retains setting node) early late → Settled status →
        Resigned status' ∨ Kept status status') := by
  have before : Genuine setting late (early.stored node) :=
    (genuine_reaches reads starts node).mono (asked_reaches goes)
  have after : Genuine setting late (late.stored peer) := genuine_reaches reads (starts.trans goes) peer
  obtain ⟨state, -, shows, keyed, valid, vouched⟩ := before.shown_eq
  obtain ⟨other, -, shows', keyed', valid', vouched'⟩ := after.shown_eq
  have clean := honest_of_vouched sealed bodies free keyed valid vouched
  have clean' := honest_of_vouched sealed bodies free keyed' valid' vouched'
  have all : ∀ rec ∈ valuesOf state.records ++ valuesOf other.records,
      Vouched setting late rec ∧ ∃ color, Stated setting late color rec :=
    List.forall_mem_append.2 ⟨vouched, vouched'⟩
  have walks := walks_comparable free keyed valid keyed' valid' (fun rec member => (all rec member).2)
    (fun color ply => not_doubledIn sealed bodies (fun rec member => (all rec member).1) ply) setting.rules
  have upholds : Upholds (state.project setting.rules setting.crypto setting.params)
        (other.project setting.rules setting.crypto setting.params) ∧
      Upholds (other.project setting.rules setting.crypto setting.params)
        (state.project setting.rules setting.crypto setting.params) ∧
      ((state.project setting.rules setting.crypto setting.params).chain =
        (other.project setting.rules setting.crypto setting.params).chain →
          SamePosition (state.project setting.rules setting.crypto setting.params)
            (other.project setting.rules setting.crypto setting.params)) := by
    rcases walks with forth | back
    · exact upholds_of_reaches final clean clean' forth
    · obtain ⟨second, first, same⟩ := upholds_of_reaches final clean' clean back
      exact ⟨first, second, fun chains => (same chains.symm).symm⟩
  obtain ⟨first, second, same⟩ := upholds
  refine ⟨_, _, shows, shows', first, second, same, fun here retains settled => ?_⟩
  subst here
  obtain ⟨_, _, shown, shown', grown⟩ := shown_of_retains reads sealed starts retains bodies free
  obtain rfl := Except.ok.inj (shows.symm.trans shown)
  obtain rfl := Except.ok.inj (shows'.symm.trans shown')
  obtain ⟨within, keeps⟩ := first settled
  exact keeps (within.eq_of_length (le_antisymm within.length_le grown.length_le))

section Sample
open Delegate Signing

def foolsMate : List String := ["f2f3", "e7e5", "g2g4", "d8h4"]

def mateRules : Rules :=
  { Sample.along foolsMate (fun ply => if ply = 4 then 1 else 0) with isCheckmate := fun ply : Nat => ply == 4 }

theorem mateRules_final : mateRules.Final where
  checkmate _ ply mated := by
    have last : ∀ ply : Nat, (ply == 4) = true → ply = 4 := fun _ => eq_of_beq
    obtain rfl := last ply mated
    rfl
  stalemate _ _ stuck := by cases stuck

def mated : List Record := Sample.played pairParams 1 (pairParams.genesis Sample.crypto) foolsMate

def protest : List Record :=
  (Sample.played pairParams 1 (pairParams.genesis Sample.crypto) (foolsMate ++ ["e1f2"])).drop 4

theorem mated_spoken : Spoken mated where
  valid := by decide +kernel
  ordered color := by cases color <;> decide +kernel

theorem protest_spoken : Spoken (mated ++ protest) where
  valid := by decide +kernel
  ordered color := by cases color <;> decide +kernel

/-- White is mated, and a further move of White's arrives. -/
theorem board_result_final_mate : ∃ status status',
    shown (pairSetting mateRules) (pairSystem mated (pairHeard .empty mated).encode) true = .ok status ∧
    status.decision = some ⟨some .black, .checkmate⟩ ∧
    shown (pairSetting mateRules) (pairSystem (mated ++ protest)
      (pairHeard (pairHeard .empty mated) protest).encode) true = .ok status' ∧
    Upholds status status' ∧ Upholds status' status ∧
    (status.chain = status'.chain → SamePosition status status') ∧
    (Resigned status' ∨ Kept status status') := by
  have keyed := pairHeard_keyed .empty mated
  have goes := pair_goes mateRules protest_spoken (decodeState_encode Reader.exact_roundTrips keyed)
  obtain ⟨status, status', shows, shows', upholds, upholds', same, kept⟩ := board_result_final (pairSetting mateRules)
    (pairSystem mated (pairHeard .empty mated).encode)
    (pairSystem (mated ++ protest) (pairHeard (pairHeard .empty mated) protest).encode) mateRules_final
    Reader.exact_roundTrips SecretReader.exact_roundTrips
    (reaches_of_retains (pair_starts mateRules mated_spoken)) (reaches_of_retains goes)
    (pair_bodies (by decide +kernel)) (pair_statements protest_spoken (by decide +kernel)) true true
  have early : (pairHeard .empty mated).project mateRules Sample.crypto pairParams = status :=
    Except.ok.inj ((pair_shown mateRules mated keyed).symm.trans shows)
  have decided : status.decision = some ⟨some .black, .checkmate⟩ := by
    rw [← early]
    decide +kernel
  exact ⟨status, status', shows, decided, shows', upholds, upholds', same,
    kept rfl goes ⟨_, decided, .inl rfl⟩⟩

end Sample

end Adjourn.Finality
