import Adjourn.Draws
import Adjourn.Takeback

/-! The move constructor: what `make_move` hands out is the next move of the chain, and
what merging it does to the game. -/

namespace Adjourn.NextMove
open Std (ExtTreeMap)
open Cbor OrderedMap NormalForm GameState

variable {rules : Rules} {crypto : Crypto} {params : GameParams} {records : Set Record}
  {state later : GameState} {op : Op} {key : Bytes32} {uci : String} {rec : Record}

theorem undecided_of_open (unfinished : (state.project rules crypto params).decision = none) :
    state.Undecided rules crypto params := by
  have unfolded : (state.project rules crypto params).decision =
      decision rules crypto state params (state.doubleSigned params) (state.finalWalk rules crypto params) := rfl
  rw [unfolded] at unfinished
  unfold decision at unfinished
  cases honest : state.doubleSigned params with
  | some fraud => simp [honest] at unfinished
  | none =>
    cases resigns : state.resigned params with
    | mk white black =>
      cases white <;> cases black <;> simp [honest, resigns] at unfinished
      exact ⟨honest, resigns, unfinished.1⟩

theorem autoDraw_of_boardResult {w : Walk rules} (undecided : boardResult rules w = none) :
    w.autoDraw = false := by
  unfold boardResult at undecided
  split_ifs at undecided with mate stale bare drawn
  simpa using drawn

theorem makeMove_spec (minted : state.makeMove rules crypto params key uci = some rec) :
    ∃ pos parsed mv, (state.project rules crypto params).decision = none ∧
      params.colorOf (crypto.verifyingKey key) = some (state.project rules crypto params).turn ∧
      rules.parseFen (state.project rules crypto params).fen = some pos ∧
      rules.toMove parsed pos = some mv ∧ (state.project rules crypto params).ply + 1 ≤ MAX_PLY ∧
      rec = Record.sign crypto key params (.move ((state.project rules crypto params).ply + 1)
        (headOf crypto params (state.project rules crypto params).chain)
        (rules.uciString (rules.fromMove mv))) := by
  unfold makeMove at minted
  generalize state.project rules crypto params = status at minted ⊢
  simp only [Option.bind_eq_bind, Option.pure_def, Option.bind_none, Option.ite_none_left_eq_some,
    Option.bind_eq_some_iff, Option.some.injEq] at minted
  obtain ⟨unfinished, color, owner, mover, pos, read, parsed, -, mv, legal, -, inside, rfl⟩ := minted
  have unfinished : status.decision = none := by
    simpa [Status.isOver] using unfinished
  rw [not_not.1 mover] at owner
  exact ⟨pos, parsed, mv, unfinished, owner, read, legal, not_lt.1 inside, rfl⟩

/-- A move record that continues the chain: it names the head, is signed by the player
to move, and is legal where the walk has arrived. -/
structure Continues (rules : Rules) (crypto : Crypto) (params : GameParams) (state : GameState)
    (rec : Record) (mv : rules.Move) : Prop where
  open' : state.doubleSigned params = none ∧
    (walk rules crypto state params none).autoDraw = false
  signer : rec.signer = params.keyOf (colorAtPly (walk rules crypto state params none).ply)
  valid : rec.verify crypto params = true
  spelled : ∃ uci parsed, rec.body = .move (walk rules crypto state params none).ply
      (walk rules crypto state params none).parent uci ∧
    rules.fromAscii (utf8 uci) = some parsed ∧
      rules.toMove parsed (walk rules crypto state params none).pos = some mv

theorem ply_succ (valid : state.allValid crypto params = true)
    (honest : state.doubleSigned params = none) :
    (state.project rules crypto params).ply + 1 = (walk rules crypto state params none).ply := by
  have walked : Walked crypto state params (walk rules crypto state params none) := walked_walk valid
  have short : (walk rules crypto state params none).chain.length ≤ 4096 := walked.short
  have ply : (state.project rules crypto params).ply =
      Fin.ofNat 65536 (walk rules crypto state params none).chain.length := by
    simp [project, honest]
  apply Fin.ext
  rw [ply, walked.ply_eq, Fin.val_add]
  simp only [Fin.ofNat, Fin.val_one]
  omega

theorem continues_of_minted (alternates : rules.Alternates) (faithful : rules.RoundTrips)
    (signs : crypto.Signs) (valid : state.allValid crypto params = true)
    (minted : state.makeMove rules crypto params key uci = some rec) :
    ∃ mv, Continues rules crypto params state rec mv := by
  obtain ⟨pos, parsed, mv, unfinished, owner, read, legal, inside, rfl⟩ := makeMove_spec minted
  obtain ⟨honest, -, undecided⟩ := undecided_of_open unfinished
  have same : state.finalWalk rules crypto params = walk rules crypto state params none := by
    simp [finalWalk, honest]
  rw [same] at undecided
  have walked : Walked crypto state params (walk rules crypto state params none) := walked_walk valid
  have projected : (state.project rules crypto params).turn =
        rules.turn (walk rules crypto state params none).pos ∧
      (state.project rules crypto params).fen = rules.fen (walk rules crypto state params none).pos ∧
      (state.project rules crypto params).chain = (walk rules crypto state params none).chain := by
    simp [project, honest]
  obtain ⟨turn, fen, chain⟩ := projected
  rw [turn, turn_walk alternates valid] at owner
  rw [fen] at read
  rw [faithful.fen _ _ read] at legal
  obtain ⟨parsed', spelled, legal'⟩ := faithful.uci _ _ _ legal
  rw [ply_succ valid honest] at inside
  rw [ply_succ valid honest, chain, ← walked.parent_eq]
  refine ⟨mv, ⟨honest, autoDraw_of_boardResult undecided⟩, ?_, ?_, _, parsed', rfl, spelled, legal'⟩
  · exact (GameParams.keyOf_of_colorOf owner).symm
  · refine (Record.verify_iff _ _ _).2 ⟨by simp [Record.color, Record.sign, owner], ?_, ?_, signs _ _⟩
    · rintro ply ⟨⟩
      exact inside
    · exact (crypto.sign key _).length_eq

/-- The player has signed no move of that ply yet. -/
def Unspent (state : GameState) (signer : KeyBytes) (ply : U16) : Prop :=
  ∀ id, state.groupAt id ≠ some ⟨signer, .move, ply⟩

/-- The state already holds a legal answer to the move: the loop of `walk`, taken past
it, finds one more. -/
def Answered (rules : Rules) (crypto : Crypto) (params : GameParams) (state : GameState) (rec : Record) :
    Prop :=
  ∃ ply parent uci parsed mv, rec.body = .move ply parent uci ∧ rules.fromAscii (utf8 uci) = some parsed ∧
    rules.toMove parsed (state.finalWalk rules crypto params).pos = some mv ∧
      (walkStep rules state params none
        (advance rules (state.finalWalk rules crypto params) (rec.id crypto) mv)).isSome

theorem answered_iff {mv : rules.Move} (continues : Continues rules crypto params state rec mv) :
    Answered rules crypto params state rec ↔
      (walkStep rules state params none
        (advance rules (walk rules crypto state params none) (rec.id crypto) mv)).isSome := by
  have same : state.finalWalk rules crypto params = walk rules crypto state params none := by
    simp [finalWalk, continues.open'.1]
  obtain ⟨uci, parsed, body, read, legal⟩ := continues.spelled
  rw [Answered, same]
  constructor
  · rintro ⟨ply, parent, uci', parsed', mv', body', read', legal', answer⟩
    rw [body, Body.move.injEq] at body'
    obtain ⟨rfl, rfl, rfl⟩ := body'
    obtain rfl := Option.some.inj (read.symm.trans read')
    obtain rfl := Option.some.inj (legal.symm.trans legal')
    exact answer
  · exact fun answer => ⟨_, _, uci, parsed, mv, body, read, legal, answer⟩

/-- A call that brings the next move, at a ply the player has signed no other move of. -/
structure Merging (rules : Rules) (crypto : Crypto) (params : GameParams) (records : Set Record)
    (state : GameState) (op : Op) (rec : Record) (mv : rules.Move) : Prop where
  keyed : state.Keyed crypto
  valid : state.allValid crypto params = true
  inside : ∀ other ∈ valuesOf state.records ++ [rec], other ∈ records
  brings : op.records = [rec]
  continues : Continues rules crypto params state rec mv
  unspent : Unspent state rec.signer (walk rules crypto state params none).ply

section Merged
variable {mv : rules.Move} (free : crypto.CollisionFree (Record.idInput '' records))
  (merging : Merging rules crypto params records state op rec mv)
include free merging

theorem between_merged : Between crypto params (valuesOf state.records) state ∧
    Between crypto params (valuesOf state.records ++ [rec]) (op.apply crypto params state) := by
  have before : Between crypto params (valuesOf state.records) state :=
    Between.start merging.keyed merging.valid
  have after := (before.apply free op (merging.brings ▸ merging.inside)).between
  exact ⟨before, merging.brings ▸ after⟩

theorem allValid_merged : (op.apply crypto params state).allValid crypto params = true := by
  obtain ⟨-, after⟩ := between_merged free merging
  exact allValid_iff.2 fun id held atId => (after.sound id held atId).2.1

theorem honest_merged : (op.apply crypto params state).doubleSigned params = none := by
  obtain ⟨before, after⟩ := between_merged free merging
  obtain ⟨uci, -, body, -⟩ := merging.continues.spelled
  have fresh : ∀ held ∈ valuesOf state.records, ∀ ply, groupOf held = some ⟨rec.signer, .move, ply⟩ →
      ply ≠ (walk rules crypto state params none).ply := by
    rintro held member ply own rfl
    obtain ⟨id, atId⟩ := mem_valuesOf.1 member
    exact merging.unspent id ((groupAt_of_get atId).trans own)
  have number : ∀ {signer ply}, groupOf rec = some ⟨signer, .move, ply⟩ →
      signer = rec.signer ∧ ply = (walk rules crypto state params none).ply := by
    intro signer ply own
    obtain ⟨parent, uci', body', rfl⟩ := groupOf_eq_move.1 own
    obtain ⟨rfl, -⟩ : _ ∧ _ := by simpa using body'.symm.trans body
    exact ⟨rfl, rfl⟩
  refine doubleSigned_eq_none.2 fun color ply doubled => ?_
  obtain ⟨one, member, two, member', ok, ok', differs, owner, own, own'⟩ :=
    (after.doubled_iff free merging.inside).1 doubled
  rw [List.mem_append, List.mem_singleton] at member member'
  rcases member with held | rfl
  · rcases member' with held' | rfl
    · have early : DoubledIn crypto params (valuesOf state.records) color ply :=
        ⟨one, held, two, held', ok, ok', differs, owner, own, own'⟩
      have known : ∀ other ∈ valuesOf state.records, other ∈ records :=
        fun other member => merging.inside other (List.mem_append_left _ member)
      exact doubleSigned_eq_none.1 merging.continues.open'.1 _ _ ((before.doubled_iff free known).2 early)
    · obtain ⟨signers, plies⟩ := number own'
      rw [signers] at own
      exact fresh one held ply own plies
  · rcases member' with held' | rfl
    · obtain ⟨-, plies⟩ := number own
      exact fresh two held' ply own' plies
    · exact differs rfl

/-- The loop of the merged state takes the move where the loop before it had stopped. -/
theorem walkStep_merged : walkStep rules (op.apply crypto params state) params none
      (walk rules crypto state params none) =
    some (advance rules (walk rules crypto state params none) (rec.id crypto) mv) := by
  have clean := honest_merged free merging
  obtain ⟨-, after⟩ := between_merged free merging
  obtain ⟨uci, parsed, body, read, legal⟩ := merging.continues.spelled
  have single := fun color => doubleSigned_eq_none.1 clean color (walk rules crypto state params none).ply
  have continues : candidate rules params (walk rules crypto state params none).pos
      (walk rules crypto state params none).parent (walk rules crypto state params none).ply (rec.id crypto, rec) =
        some (rec.id crypto, mv) :=
    candidate_eq_some.2 ⟨rfl, merging.continues.signer, uci, parsed, body, read, legal⟩
  have only := Takeback.candidates_of_offered free merging.inside after single
    (List.mem_append_right _ (List.mem_singleton_self rec)) merging.continues.valid continues
  exact walkStep_eq_some.2 ⟨merging.continues.open'.2, by simp, _, mv, only, rfl⟩

theorem walkStep_past : walkStep rules (op.apply crypto params state) params none
      (advance rules (walk rules crypto state params none) (rec.id crypto) mv) =
    walkStep rules state params none
      (advance rules (walk rules crypto state params none) (rec.id crypto) mv) := by
  have clean := honest_merged free merging
  have taken := walkStep_merged free merging
  obtain ⟨before, after⟩ := between_merged free merging
  have fewer : ∀ other ∈ valuesOf state.records, other ∈ valuesOf state.records ++ [rec] :=
    fun other member => List.mem_append_left _ member
  obtain ⟨-, next⟩ := ply_of_walkStep (allValid_merged free merging) taken
  refine Option.ext fun w => ⟨fun further => ?_, fun further => ?_⟩
  · obtain ⟨running, -, id, mv', single, rfl⟩ := walkStep_eq_some.1 further
    obtain ⟨other, uci, parsed, held, body, signer, read, legal⟩ :=
      mem_candidates.1 (candidates_eq_singleton.1 single).1
    obtain ⟨rfl, -, member⟩ := after.sound id other held
    have old : other ∈ valuesOf state.records := by
      rw [List.mem_append, List.mem_singleton] at member
      refine member.resolve_right ?_
      rintro rfl
      obtain ⟨uci', -, body', -⟩ := merging.continues.spelled
      rw [body, Body.move.injEq] at body'
      rw [body'.1] at next
      omega
    obtain ⟨id, atId⟩ := mem_valuesOf.1 old
    obtain rfl := merging.keyed id other atId
    have honest := fun color => doubleSigned_eq_none.1 merging.continues.open'.1 color
    exact walkStep_eq_some.2 ⟨running, by simp, _, mv', Takeback.candidates_of_single
      (fun color => honest color _) (mem_candidates.2
        ⟨other, uci, parsed, atId, body, signer, read, legal⟩), rfl⟩
  · exact Takeback.walkStep_included free merging.inside fewer before after clean _ _ further

theorem walk_merged : Relation.ReflTransGen
    (Stepping.Steps (walkStep rules (op.apply crypto params state) params none))
      (advance rules (walk rules crypto state params none) (rec.id crypto) mv)
      (walk rules crypto (op.apply crypto params state) params none) := by
  have clean := honest_merged free merging
  have taken := walkStep_merged free merging
  obtain ⟨before, after⟩ := between_merged free merging
  have reaches : Relation.ReflTransGen _ (walk rules crypto state params none) _ :=
    Takeback.walk_reaches free merging.inside (fun other member => List.mem_append_left _ member) before after clean
  exact Stepping.reaches_of_taken taken (walkStep_walk (allValid_merged free merging)) reaches

theorem chain_merged_iff : (walk rules crypto (op.apply crypto params state) params none).chain =
      (walk rules crypto state params none).chain ++ [rec.id crypto] ↔
    ¬Answered rules crypto params state rec := by
  have reaches := walk_merged free merging
  have past := walkStep_past free merging
  rw [answered_iff merging.continues, Option.not_isSome_iff_eq_none]
  constructor
  · intro last
    by_contra further
    obtain ⟨answer, taken⟩ := Option.ne_none_iff_exists'.1 further
    rw [taken] at past
    have rest := Stepping.reaches_of_taken past (walkStep_walk (allValid_merged free merging)) reaches
    have longer := Stepping.reaches_preserves (fun w : Walk rules => answer.chain <+: w.chain)
      (fun _ _ taken grown => grown.trans (walkStep_chain taken)) rest (List.prefix_refl _)
    obtain ⟨-, -, id, mv', -, rfl⟩ := walkStep_eq_some.1 taken
    have length := longer.length_le
    rw [last] at length
    simp [advance] at length
  · intro stuck
    rw [stuck] at past
    rw [Stepping.reaches_of_stuck past reaches]
    rfl

end Merged

/-- A record that `make_move` hands out verifies. Merged into the state, at a ply the
player has signed no other move of, it forfeits nothing and continues the chain; it is
the last move unless the state already held a legal answer to it. -/
theorem minted_move_advances (rules : Rules) (crypto : Crypto) (params : GameParams)
    (records : Set Record) (state : GameState) (op : Op) (key : Bytes32) (uci : String) (rec : Record)
    (alternates : rules.Alternates) (faithful : rules.RoundTrips) (signs : crypto.Signs)
    (free : crypto.CollisionFree (Record.idInput '' records))
    (keyed : state.Keyed crypto) (valid : state.allValid crypto params = true)
    (inside : ∀ other ∈ valuesOf state.records ++ [rec], other ∈ records) (brings : op.records = [rec])
    (minted : state.makeMove rules crypto params key uci = some rec) :
    rec.verify crypto params = true ∧
      (Unspent state rec.signer ((state.project rules crypto params).ply + 1) →
        (∀ winner, ((op.apply crypto params state).project rules crypto params).decision ≠
          some ⟨winner, .doubleSignForfeit⟩) ∧
        (state.project rules crypto params).chain ++ [rec.id crypto] <+:
          ((op.apply crypto params state).project rules crypto params).chain ∧
        (((op.apply crypto params state).project rules crypto params).chain =
              (state.project rules crypto params).chain ++ [rec.id crypto] ∧
            ((op.apply crypto params state).project rules crypto params).ply =
              (state.project rules crypto params).ply + 1 ↔
          ¬Answered rules crypto params state rec)) := by
  obtain ⟨mv, continues⟩ := continues_of_minted alternates faithful signs valid minted
  have honest := continues.open'.1
  refine ⟨continues.valid, fun unspent => ?_⟩
  rw [ply_succ valid honest] at unspent ⊢
  have merging : Merging rules crypto params records state op rec mv :=
    ⟨keyed, valid, inside, brings, continues, unspent⟩
  have clean := honest_merged free merging
  have chain : (state.project rules crypto params).chain = (walk rules crypto state params none).chain := by
    simp [project, honest]
  have chain' : ((op.apply crypto params state).project rules crypto params).chain =
      (walk rules crypto (op.apply crypto params state) params none).chain := by
    simp [project, clean]
  have reaches := walk_merged free merging
  have last := chain_merged_iff free merging
  rw [chain, chain', last]
  refine ⟨decision_ne_forfeit clean, ?_, and_iff_left_of_imp fun unanswered => ?_⟩
  · exact Stepping.reaches_preserves
      (fun w : Walk rules => (walk rules crypto state params none).chain ++ [rec.id crypto] <+: w.chain)
      (fun _ _ taken grown => grown.trans (walkStep_chain taken)) reaches (List.prefix_refl _)
  · have counts : ∀ other : GameState, (other.project rules crypto params).ply =
        Fin.ofNat 65536 (other.project rules crypto params).chain.length := fun _ => rfl
    rw [← ply_succ valid honest, counts, counts, chain', chain, last.2 unanswered, List.length_append]
    apply Fin.ext
    simp [Fin.val_add]

/-- White opens where he has signed a move of that ply already, and forfeits. He opens
where Black has signed an answer, and the chain grows by two. -/
theorem minted_move_overtaken :
    Sample.rules.Alternates ∧ Sample.rules.RoundTrips ∧ Sample.crypto.Signs ∧
    Sample.poisoned.allValid Sample.crypto Sample.params = true ∧
    Sample.poisoned.makeMove Sample.rules Sample.crypto Sample.params Sample.whiteKey "e2e4" =
      some Sample.opening ∧
    (((Op.insertVerified Sample.opening).apply Sample.crypto Sample.params Sample.poisoned).project
      Sample.rules Sample.crypto Sample.params).decision = some ⟨some .black, .doubleSignForfeit⟩ ∧
    Sample.premoved.allValid Sample.crypto Sample.params = true ∧
    (Sample.premoved.project Sample.rules Sample.crypto Sample.params).chain = [] ∧
    Sample.premoved.makeMove Sample.rules Sample.crypto Sample.params Sample.whiteKey "e2e4" =
      some Sample.opening ∧
    (((Op.insertVerified Sample.opening).apply Sample.crypto Sample.params Sample.premoved).project
      Sample.rules Sample.crypto Sample.params).chain =
        [Sample.opening.id Sample.crypto, Sample.reply.id Sample.crypto] := by
  refine ⟨Sample.rules_alternates, Sample.rules_roundTrips, Sample.crypto_signs, ?_, ?_, ?_, ?_, ?_, ?_, ?_⟩ <;>
    decide +kernel

/-- White's second move, signed on top of no first one. -/
def unfounded : Record :=
  Record.sign Sample.crypto Sample.whiteKey Sample.params (.move 3 (Sample.params.genesis Sample.crypto) "d2d4")

/-- White has opened, and has signed a move that is ignored. -/
def opened : GameState :=
  (GameState.empty.absorbForTest Sample.crypto Sample.opening).absorbForTest Sample.crypto unfounded

theorem opened_unspent : Unspent opened Sample.reply.signer
    ((opened.project Sample.rules Sample.crypto Sample.params).ply + 1) := by
  intro id own
  obtain ⟨rec, held, group⟩ := Option.bind_eq_some_iff.1 own
  have others : ∀ rec ∈ valuesOf opened.records, groupOf rec ≠ some
      ⟨Sample.reply.signer, .move, (opened.project Sample.rules Sample.crypto Sample.params).ply + 1⟩ := by
    decide +kernel
  exact others rec (mem_valuesOf.2 ⟨id, held⟩) group

theorem minted_move_advances_reply :
    (∀ winner, (((Op.insertVerified Sample.reply).apply Sample.crypto Sample.params opened).project Sample.rules
        Sample.crypto Sample.params).decision ≠ some ⟨winner, .doubleSignForfeit⟩) ∧
      (opened.project Sample.rules Sample.crypto Sample.params).chain ++ [Sample.reply.id Sample.crypto] <+:
        (((Op.insertVerified Sample.reply).apply Sample.crypto Sample.params opened).project Sample.rules
          Sample.crypto Sample.params).chain ∧
      ((((Op.insertVerified Sample.reply).apply Sample.crypto Sample.params opened).project Sample.rules
            Sample.crypto Sample.params).chain =
            (opened.project Sample.rules Sample.crypto Sample.params).chain ++ [Sample.reply.id Sample.crypto] ∧
          (((Op.insertVerified Sample.reply).apply Sample.crypto Sample.params opened).project Sample.rules
            Sample.crypto Sample.params).ply =
            (opened.project Sample.rules Sample.crypto Sample.params).ply + 1 ↔
        ¬Answered Sample.rules Sample.crypto Sample.params opened Sample.reply) := by
  refine (minted_move_advances Sample.rules Sample.crypto Sample.params
    {rec | rec ∈ [Sample.opening, unfounded, Sample.reply]} opened (.insertVerified Sample.reply) Sample.blackKey
    "e7e5" Sample.reply Sample.rules_alternates Sample.rules_roundTrips Sample.crypto_signs
    (Sample.collisionFree_image _ _ (by decide +kernel)) (((keyed_empty _).absorbForTest _).absorbForTest _)
    ?_ ?_ rfl ?_).2 opened_unspent
  · decide +kernel
  · decide +kernel
  · decide +kernel

end Adjourn.NextMove
