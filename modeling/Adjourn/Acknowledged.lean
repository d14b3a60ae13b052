import Adjourn.Board
import Adjourn.Flows
import Adjourn.NextMove
import Adjourn.PlyCap
import Adjourn.Retention

/-! What a flow has done once it has returned: what was decided on the game as it was read was
signed for this player, and has arrived at the replica. -/

namespace Adjourn.Acknowledged
open Cbor OrderedMap NormalForm GameState Contract Delegate Session Network Flows Retention

variable {setting : Setting} {Node : Type} [DecidableEq Node] {place : Place Node} {seat seat' : Seat setting place}
  {start final : System Node} {status : Status} {label : String} {wasm : Bytes}

/-- No replica change but by updates between the calls. -/
def Calm (seat : Seat setting place) : Prop :=
  ∀ n system, Relation.ReflTransGen (Retains setting place.node) system ((seat.moments n).meanwhile system)

def arriving (seat : Seat setting place) : System Node := (seat.moments 0).meanwhile seat.system

/-- Nobody has asked the delegate to bind another game of the same id. -/
def OneGame (setting : Setting) {Node : Type} (system : System Node) (color : Color) : Prop :=
  ∀ call ∈ system.asked color, ∀ label params contract, call.request = .bindGame label params contract →
    params.gameId setting.crypto = gameId setting → params = setting.params

structure Submission (setting : Setting) {Node : Type} [DecidableEq Node] (place : Place Node)
    (body : GameView → Except SessionError Body) (start final : System Node) (status : Status) where
  view : GameView
  said : Body
  record : Record
  host : Host
  reading : System Node
  asking : System Node
  sending : System Node
  result : Bytes
  after : GameState
  opens : Relation.ReflTransGen (Retains setting place.node) start reading
  read : decodeState setting.crypto setting.reader (reading.stored place.node) = .ok view.state
  params : view.params = setting.params
  game : view.gameId = gameId setting
  shows : view.status = view.state.project setting.rules setting.crypto setting.params
  decides : body view = .ok said
  waits : Relation.ReflTransGen (Retains setting place.node) reading asking
  signs : (handleSign setting.rules setting.crypto setting.reader setting.secrets host
    (session setting asking place.color).store place.origin (gameId setting) said).2 = .signed record
  passes : Relation.ReflTransGen (Retains setting place.node)
    (react setting asking (.ask place.color ⟨host, place.origin, .sign (gameId setting) said⟩)) sending
  accepts : updateState setting.crypto setting.reader setting.params.encode (sending.stored place.node)
    [.delta (encodeRecords [record])] = .ok result
  arrives : Relation.ReflTransGen (Retains setting place.node)
    (react setting sending (.update place.node [.delta (encodeRecords [record])])) final
  reread : decodeState setting.crypto setting.reader (final.stored place.node) = .ok after
  returns : status = after.project setting.rules setting.crypto setting.params

section Calls

theorem Calm.next (calm : Calm seat) (shifts : seat'.moments = fun n => seat.moments (n + 1)) : Calm seat' := by
  intro n system
  rw [shifts]
  exact calm (n + 1) system

theorem Calm.arriving (calm : Calm seat) :
    Relation.ReflTransGen (Retains setting place.node) seat.system (arriving seat) := calm 0 seat.system

theorem retains_ask (node : Node) (system : System Node) (call : Signing.Call) (color : Color) :
    Retains setting node system (react setting system (.ask color call)) :=
  ⟨.ask color call, fun _ => by simp, by simp [brings], rfl⟩

theorem delegate_ok {request : Request} {response : Response}
    (answered : (NodeClient.delegate request).run seat = (.ok response, seat')) :
    ∃ host, response = (handle setting.rules setting.crypto setting.reader setting.secrets host
        (session setting (arriving seat) place.color).store place.origin request).2 ∧
      seat'.system = react setting (arriving seat) (.ask place.color ⟨host, place.origin, request⟩) ∧
      seat'.moments = fun n => seat.moments (n + 1) := by
  obtain ⟨answered, shifts⟩ := during_ok answered
  obtain ⟨response, system⟩ := Prod.mk.inj answered
  exact ⟨_, (Except.ok.inj response).symm, system.symm, shifts⟩

theorem get_ok {id : Bytes32} {subscribe : Bool} {bytes : Option Bytes}
    (answered : (NodeClient.get id subscribe).run seat = (.ok bytes, seat')) :
    bytes = (if id = place.address then some ((arriving seat).stored place.node) else none) ∧
      seat'.system = arriving seat ∧ seat'.moments = fun n => seat.moments (n + 1) := by
  obtain ⟨answered, shifts⟩ := during_ok answered
  obtain ⟨bytes, system⟩ := Prod.mk.inj answered
  exact ⟨(Except.ok.inj bytes).symm, system.symm, shifts⟩

theorem update_ok {id : Bytes32} {bytes : Bytes}
    (answered : (NodeClient.update id bytes).run seat = (.ok (), seat')) :
    id = place.address ∧ (∃ result, updateState setting.crypto setting.reader setting.params.encode
        ((arriving seat).stored place.node) [.delta bytes] = .ok result) ∧
      seat'.system = react setting (arriving seat) (.update place.node [.delta bytes]) ∧
      seat'.moments = fun n => seat.moments (n + 1) := by
  obtain ⟨answered, shifts⟩ := during_ok answered
  unfold writeReplica at answered
  split_ifs at answered with here
  · split at answered
    · next result accepted =>
      exact ⟨here, ⟨result, accepted⟩, (Prod.mk.inj answered).2.symm, shifts⟩
    · cases (Prod.mk.inj answered).1
  · cases (Prod.mk.inj answered).1

theorem fetchState_ok {state : GameState}
    (fetched : perform (fetchState setting.crypto setting.reader place.address) seat = (.ok state, seat')) :
    decodeState setting.crypto setting.reader ((arriving seat).stored place.node) = .ok state ∧
      seat'.system = arriving seat ∧ seat'.moments = fun n => seat.moments (n + 1) := by
  unfold fetchState at fetched
  obtain ⟨bytes, middle, called, rest⟩ := perform_bind_ok fetched
  obtain ⟨rfl, system, shifts⟩ := get_ok (perform_call_ok called)
  rw [if_pos rfl, Option.getD_some] at rest
  cases read : InSync.fetchState setting.crypto setting.reader ((arriving seat).stored place.node) with
  | some other =>
    rw [read] at rest
    obtain ⟨same, rfl⟩ := Prod.mk.inj rest
    obtain rfl := Except.ok.inj same
    exact ⟨InSync.fetchState_eq_some.1 read, system, shifts⟩
  | none =>
    rw [read] at rest
    cases (Prod.mk.inj rest).1

end Calls

section Flows

theorem gameId_of_summary {crypto : Crypto} {secrets : SecretReader} {store : Store} {origin : Option Bytes32}
    {game : BoundGame} (listed : summary crypto secrets store origin label = some game.summary) :
    game.gameId = game.params.gameId crypto := by
  have isBound := game.isBound
  unfold summary at listed
  split_ifs at listed
  obtain ⟨seed, -, same⟩ := Option.map_eq_some_iff.1 listed
  cases bound : Delegate.boundGame secrets store label with
  | none =>
    rw [bound] at same
    rw [← same] at isBound
    cases isBound.1
  | some record =>
    simp only [bound] at same
    simp [BoundGame.gameId, BoundGame.params, ← same, GameRecord.gameId]

theorem boundGame_ok {game : BoundGame} (calm : Calm seat)
    (done : perform (Session.boundGame label : Client (Seat setting place) BoundGame) seat = (.ok game, seat')) :
    game.gameId = game.params.gameId setting.crypto ∧ Calm seat' ∧
      Relation.ReflTransGen (Retains setting place.node) seat.system seat'.system := by
  unfold Session.boundGame at done
  obtain ⟨response, middle, called, rest⟩ := perform_bind_ok done
  obtain ⟨games, middle', listed, found⟩ := perform_bind_ok rest
  obtain ⟨answers, rfl⟩ := perform_lift_ok listed
  obtain ⟨finds, rfl⟩ := perform_lift_ok found
  obtain ⟨host, answer, system, shifts⟩ := delegate_ok (perform_call_ok called)
  refine ⟨?_, calm.next shifts, ?_⟩
  · subst answer
    obtain rfl := Except.ok.inj answers
    exact gameId_of_summary (Migration.summary_of_findBound finds)
  · rw [system]
    exact calm.arriving.tail (retains_ask _ _ _ _)

theorem openGame_ok {game : OpenGame} (calm : Calm seat)
    (done : perform (openGame setting.rules setting.crypto setting.reader place.instanceId label wasm) seat =
      (.ok game, seat')) (here : place.instanceId game.container.parameters game.container.code = place.address) :
    game.container.parameters = game.view.params.encode ∧ game.view.contract = place.address ∧
      game.view.gameId = game.view.params.gameId setting.crypto ∧
      game.view.status = game.view.state.project setting.rules setting.crypto game.view.params ∧
      decodeState setting.crypto setting.reader (seat'.system.stored place.node) = .ok game.view.state ∧
      Calm seat' ∧ Relation.ReflTransGen (Retains setting place.node) seat.system seat'.system := by
  unfold openGame at done
  obtain ⟨bound, middle, found, done⟩ := perform_bind_ok done
  obtain ⟨container, middle', built, done⟩ := perform_bind_ok done
  obtain ⟨state, last, fetched, done⟩ := perform_bind_ok done
  obtain ⟨same, rfl⟩ := Prod.mk.inj done
  obtain rfl := Except.ok.inj same
  obtain ⟨builds, rfl⟩ := perform_lift_ok built
  obtain ⟨gameId, calm', reached⟩ := boundGame_ok calm found
  unfold expectedContainer contractContainer at builds
  dsimp only at builds here
  split_ifs at builds with recorded
  obtain rfl := Except.ok.inj builds
  have address : bound.contract = place.address := (not_not.1 recorded).symm.trans here
  rw [address] at fetched
  obtain ⟨decodes, system, shifts⟩ := fetchState_ok fetched
  refine ⟨rfl, address, gameId, rfl, by rw [system, decodes], calm'.next shifts, ?_⟩
  rw [system]
  exact reached.trans calm'.arriving

theorem exists_submission
    (binds : ∀ params code, place.instanceId params code = place.address → params = setting.params.encode)
    (calm : Calm seat) {body : GameView → Except SessionError Body}
    (done : perform (submit setting.rules setting.crypto setting.reader place.instanceId body label wasm) seat =
      (.ok status, seat')) : Nonempty (Submission setting place body seat.system seat'.system status) := by
  unfold submit at done
  obtain ⟨game, _, opening, deciding⟩ := perform_bind_ok done
  obtain ⟨said, opened, decided, submitting⟩ := perform_bind_ok deciding
  obtain ⟨decides, rfl⟩ := perform_lift_ok decided
  rw [signAndSubmit_eq] at submitting
  obtain ⟨response, _, signing, answering⟩ := perform_bind_ok submitting
  obtain ⟨record, signed, answered, finishing⟩ := perform_bind_ok answering
  obtain ⟨signs, rfl⟩ := perform_lift_ok answered
  unfold sendAndRead at finishing
  obtain ⟨_, sent, sending, rereading⟩ := perform_bind_ok finishing
  obtain ⟨after, last, fetched, returning⟩ := perform_bind_ok rereading
  obtain ⟨same, rfl⟩ := Prod.mk.inj returning
  obtain rfl := Except.ok.inj same
  obtain ⟨here, ⟨result, accepted⟩, sends, shifts⟩ := update_ok (perform_call_ok sending)
  obtain ⟨parameters, address, game', shows, read, calmOpened, opens⟩ := openGame_ok calm opening here
  have params : game.view.params = setting.params := by
    refine GameParams.encode_injective ?_
    rw [← parameters]
    exact binds _ _ here
  rw [params] at game' shows
  have game' : game.view.gameId = gameId setting := game'
  rw [address] at fetched
  obtain ⟨host, answer, asks, shifts'⟩ := delegate_ok (perform_call_ok signing)
  have calmSigned := calmOpened.next shifts'
  have calmSent := calmSigned.next shifts
  obtain ⟨decodes, reads, -⟩ := fetchState_ok fetched
  cases response with
  | signed rec =>
    obtain rfl := Except.ok.inj signs
    rw [game'] at asks answer
    refine ⟨⟨game.view, said, rec, host, _, arriving opened, arriving signed, result, after, opens, read, params,
      game', shows, decides, calmOpened.arriving, answer.symm, ?_, accepted, ?_, ?_, ?_⟩⟩
    · rw [← asks]
      exact calmSigned.arriving
    · rw [reads, ← sends]
      exact calmSent.arriving
    · rw [reads]
      exact decodes
    · rw [params]
  | _ => cases signs

end Flows

namespace Submission
variable {body : GameView → Except SessionError Body}
  (submission : Submission setting place body start final status)

def asked : System Node := react setting submission.asking
  (.ask place.color ⟨submission.host, place.origin, .sign (gameId setting) submission.said⟩)

def sent : System Node :=
  react setting submission.sending (.update place.node [.delta (encodeRecords [submission.record])])

theorem released :
    (gameId setting, submission.record) ∈ (session setting submission.asked place.color).released := by
  rw [asked, session_ask, Provenance.released_step]
  refine List.mem_append_right _ ?_
  have signs := submission.signs
  change _ ∈ Signing.answered _ (handleSign ..).2
  rw [signs]
  exact List.mem_singleton_self _

theorem asked_mono (color : Color) : submission.asking.asked color <+: submission.asked.asked color :=
  asked_grows (next_of_retains (retains_ask place.node submission.asking _ place.color)) color

theorem asked_final (color : Color) : submission.asked.asked color <+: final.asked color := by
  have sent : submission.sent.asked = submission.sending.asked := asked_keep ..
  have before := asked_reaches (reaches_of_retains submission.passes) color
  rw [← sent] at before
  exact before.trans (asked_reaches (reaches_of_retains submission.arrives) color)

theorem oneGame_asking (oneGame : OneGame setting final place.color) :
    OneGame setting submission.asking place.color :=
  fun call member => oneGame call (((submission.asked_mono place.color).trans
    (submission.asked_final place.color)).subset member)

section Signed
variable (sealed : setting.secrets.RoundTrips) (oneGame : OneGame setting submission.asking place.color)
include sealed oneGame

theorem by_player : ∃ seed color,
    submission.record = Record.sign setting.crypto seed setting.params submission.said ∧
    setting.params.colorOf (setting.crypto.verifyingKey seed) = some color ∧
    ∀ ply parent uci, submission.said = .move ply parent uci → ply ≤ MAX_PLY ∧ colorAtPly ply = color := by
  have sound : Signing.Sound setting.crypto (session setting submission.asking place.color) :=
    Signing.sound_serve sealed _
  obtain ⟨old, updated, seed, color, loaded, own, granted, made, player, side⟩ :=
    PlyCap.signed_by_player sound (Bookkeeping.allKept_serve sealed _) sealed submission.signs
  obtain ⟨call, member, label, contract, asked⟩ :=
    Provenance.params_requested sealed ((sound.loadGame_eq_some sealed).1 loaded)
  rw [oneGame call member label old.params contract asked own] at made player
  refine ⟨seed, color, made, player, fun ply parent uci is => ?_⟩
  rw [is] at granted
  obtain ⟨inside, mover⟩ := PlyCap.move_granted granted
  exact ⟨inside, PlyCap.ofColor_injective (mover.trans side)⟩

theorem valid (signs : setting.crypto.Signs) (inside : ∀ ply ∈ submission.said.ply, ply ≤ MAX_PLY) :
    submission.record.verify setting.crypto setting.params = true := by
  obtain ⟨seed, color, made, player, -⟩ := submission.by_player sealed oneGame
  rw [made]
  exact (PlyCap.verify_sign signs (by rw [player]; rfl)).2 inside

theorem body_eq : submission.record.body = submission.said := by
  obtain ⟨seed, color, made, -⟩ := submission.by_player sealed oneGame
  rw [made]
  rfl

theorem color_eq (own : OwnKey setting place submission.asked) :
    submission.record.color setting.params = some place.color := by
  obtain ⟨seed, color, made, player, -⟩ := submission.by_player sealed oneGame
  have mine : submission.record.color setting.params = some color := by
    rw [made]
    exact player
  rw [mine, own _ color submission.released mine]

end Signed

theorem carries (reads : setting.reader.RoundTrips) :
    StateSize.carried setting.crypto setting.reader (.delta (encodeRecords [submission.record])) =
      [submission.record] := deltaOf_encode reads [submission.record]

section Arrived
variable (reads : setting.reader.RoundTrips) (own : OwnKey setting place submission.asked)

theorem asks : Relation.ReflTransGen (Retains setting place.node) submission.reading submission.asked :=
  submission.waits.tail (retains_ask place.node _ _ _)

include own

theorem vouched : Vouched setting submission.asked submission.record := by
  intro _ color owner
  obtain rfl := own _ color submission.released owner
  exact ⟨submission.record, submission.released, rfl, rfl⟩

theorem vouched_sending : Vouched setting submission.sending submission.record :=
  (submission.vouched own).mono (asked_reaches (reaches_of_retains submission.passes))

include reads

theorem sends : Retains setting place.node submission.sending submission.sent := by
  refine ⟨_, fun _ => by simp, fun rec member => ?_, rfl⟩
  rw [brings, List.flatMap_singleton, submission.carries reads] at member
  rw [List.mem_singleton.1 member]
  exact submission.vouched_sending own

theorem goes : Relation.ReflTransGen (Retains setting place.node) submission.reading final :=
  ((submission.asks.trans submission.passes).tail (submission.sends reads own)).trans submission.arrives

theorem held (starts : Relation.ReflTransGen (Next setting) (System.start Node) start)
    (free : setting.crypto.CollisionFree (Record.idInput '' {rec | ∃ color, Stated setting final color rec}))
    (alone : Alone setting final submission.record) :
    Holds setting (final.stored place.node) submission.record := by
  have sending : Relation.ReflTransGen (Next setting) (System.start Node) submission.sending :=
    (starts.trans (reaches_of_retains submission.opens)).trans
      (reaches_of_retains (submission.asks.trans submission.passes))
  have sent := submission.sends reads own
  have later : ∀ color, submission.sending.asked color <+: final.asked color :=
    asked_reaches (.head (next_of_retains sent) (reaches_of_retains submission.arrives))
  have known := free_mono later free
  have arrived : Holds setting (submission.sent.stored place.node) submission.record := by
    have stored : submission.sent.stored place.node = submission.result := by
      rw [Submission.sent, react, submission.accepts]
      exact Function.update_self ..
    rw [stored]
    refine holds_updateState reads (genuine_reaches reads sending place.node) (fun rec member => ?_) known
      submission.accepts (alone.mono later) (.inr ?_)
    · rw [List.flatMap_singleton, submission.carries reads] at member
      rw [List.mem_singleton.1 member]
      exact submission.vouched_sending own
    · rw [List.flatMap_singleton, submission.carries reads]
      exact List.mem_singleton_self _
  exact holds_reaches reads (sending.tail (next_of_retains sent)) submission.arrives free alone arrived

end Arrived
end Submission

def Listed (rules : Rules) : Prop :=
  ∀ pos, ∀ mv ∈ rules.legalMoves pos, ∃ uci, rules.toMove uci pos = some mv

section Moves
variable {rules : Rules} {crypto : Crypto} {params : GameParams} {state : GameState} {uci : String}

theorem legal_of_listed (faithful : rules.RoundTrips) (listed : Listed rules)
    (honest : state.doubleSigned params = none) (legal : uci ∈ state.legalMoves rules crypto params) :
    ∃ parsed mv, rules.fromAscii (utf8 uci) = some parsed ∧
      rules.toMove parsed (walk rules crypto state params none).pos = some mv := by
  have fen : (state.project rules crypto params).fen = rules.fen (walk rules crypto state params none).pos := by
    simp [project, honest]
  unfold legalMoves at legal
  dsimp only at legal
  split_ifs at legal
  · cases legal
  · cases parsed : rules.parseFen (state.project rules crypto params).fen with
    | none => simp [parsed] at legal
    | some pos =>
      rw [parsed] at legal
      obtain ⟨mv, member, rfl⟩ := List.mem_map.1 legal
      obtain ⟨spelling, reads⟩ := listed pos mv member
      obtain ⟨parsed', read, legal'⟩ := faithful.uci spelling pos mv reads
      rw [fen] at parsed
      exact ⟨parsed', mv, read, (faithful.fen _ _ parsed parsed').symm.trans legal'⟩

theorem moveBody_ok {view : GameView} {said : Body} (shows : view.status = view.state.project rules crypto params)
    (same : view.params = params) (decides : moveBody rules crypto uci view = .ok said) :
    Board.playMoveCheck rules crypto view.state params view.side uci = .ok () ∧
      view.status.decision = none ∧ uci ∈ view.state.legalMoves rules crypto params ∧
        said = .move (view.status.ply + 1) (headOf crypto params view.status.chain) uci := by
  unfold moveBody unlessOver at decides
  dsimp only at decides
  rw [same] at decides
  unfold Board.playMoveCheck
  dsimp only
  rw [← shows]
  split_ifs at decides ⊢ with finished waiting illegal
  refine ⟨rfl, ?_, ?_, (Except.ok.inj decides).symm⟩
  · simpa [Status.isOver] using finished
  · simpa using illegal

theorem chain_continues {later : GameState} {id : RecordId} {rec : Record} {parsed : rules.UciMove} {mv : rules.Move}
    (undecided : (state.project rules crypto params).decision = none) (valid : later.allValid crypto params = true)
    (honest : state.doubleSigned params = none) (clean : later.doubleSigned params = none)
    (grows : Relation.ReflTransGen (Stepping.Steps (walkStep rules later params none))
      (walk rules crypto state params none) (walk rules crypto later params none))
    (held : later.records[id]? = some rec)
    (body : rec.body = .move (walk rules crypto state params none).ply
      (walk rules crypto state params none).parent uci)
    (signer : rec.signer = params.keyOf (colorAtPly (walk rules crypto state params none).ply))
    (read : rules.fromAscii (utf8 uci) = some parsed)
    (legal : rules.toMove parsed (walk rules crypto state params none).pos = some mv) :
    (state.project rules crypto params).chain ++ [id] <+: (later.project rules crypto params).chain := by
  obtain ⟨-, -, onBoard⟩ := NextMove.undecided_of_open undecided
  have final : state.finalWalk rules crypto params = walk rules crypto state params none := by
    simp [finalWalk, honest]
  rw [final] at onBoard
  have only := Takeback.candidates_of_single (fun color => doubleSigned_eq_none.1 clean color _)
    (mem_candidates.2 ⟨rec, uci, parsed, held, body, signer, read, legal⟩)
  have taken : walkStep rules later params none (walk rules crypto state params none) =
      some (advance rules (walk rules crypto state params none) id mv) :=
    walkStep_eq_some.2 ⟨NextMove.autoDraw_of_boardResult onBoard, by simp, id, mv, only, rfl⟩
  have reaches := Stepping.reaches_of_taken taken (walkStep_walk valid) grows
  simp only [project, honest, clean]
  exact chain_of_reaches reaches

end Moves

namespace Submission
variable {uci : String} (submission : Submission setting place (moveBody setting.rules setting.crypto uci)
    start final status)
  (reads : setting.reader.RoundTrips) (sealed : setting.secrets.RoundTrips) (signs : setting.crypto.Signs)
  (faithful : setting.rules.RoundTrips) (listed : Listed setting.rules)
  (starts : Relation.ReflTransGen (Next setting) (System.start Node) start)
  (oneGame : OneGame setting final place.color) (own : OwnKey setting place final)
  (bodies : ∀ color, setting.crypto.CollisionFree
    (bodyHashInput '' {body | ∃ call ∈ final.asked color, ∃ gameId, call.request = .sign gameId body}))
  (free : setting.crypto.CollisionFree (Record.idInput '' {rec | ∃ color, Stated setting final color rec}))

theorem decided : submission.view.status.decision = none ∧
    uci ∈ submission.view.state.legalMoves setting.rules setting.crypto setting.params ∧
    submission.said = .move (submission.view.status.ply + 1)
      (headOf setting.crypto setting.params submission.view.status.chain) uci := by
  obtain ⟨-, decided⟩ := moveBody_ok submission.shows submission.params submission.decides
  exact decided

include reads sealed signs starts oneGame own bodies free

theorem move_held : ∃ rec : Record, submission.after.records[submission.record.id setting.crypto]? = some rec ∧
    rec.signer = submission.record.signer ∧ rec.body = submission.said := by
  have early : OneGame setting submission.asking place.color := submission.oneGame_asking oneGame
  have own : OwnKey setting place submission.asked := own.mono (submission.asked_final place.color)
  obtain ⟨-, -, is⟩ := submission.decided
  have body := submission.body_eq sealed early
  obtain ⟨seed, color, made, player, mover⟩ := submission.by_player sealed early
  obtain ⟨inside, -⟩ := mover _ _ _ is
  have valid := submission.valid sealed early signs fun ply own => by
    rw [is] at own
    obtain rfl := Option.some.inj own
    exact inside
  have alone := alone_of_move sealed bodies valid ((submission.vouched own).mono submission.asked_final)
    (body.trans is)
  obtain ⟨after, rec, decodes, held, signers, same⟩ := submission.held reads own starts free alone
  obtain rfl : submission.after = after := Except.ok.inj (submission.reread.symm.trans decodes)
  exact ⟨rec, held, signers, same.trans body⟩

include faithful listed

theorem move_continues :
    submission.view.status.chain ++ [submission.record.id setting.crypto] <+: status.chain := by
  have early : OneGame setting submission.asking place.color := submission.oneGame_asking oneGame
  have own' : OwnKey setting place submission.asked := own.mono (submission.asked_final place.color)
  obtain ⟨playing, legal, is⟩ := submission.decided
  obtain ⟨rec, held, signers, body⟩ := submission.move_held reads sealed signs starts oneGame own bodies free
  -- the reading and the end, and what the walk does between them
  obtain ⟨state, later, decodes, decodes', verified, verified', honest, clean, -, grows⟩ :=
    grown_of_retains reads sealed (starts.trans (reaches_of_retains submission.opens)) (submission.goes reads own')
      bodies free
  obtain rfl : submission.view.state = state := Except.ok.inj (submission.read.symm.trans decodes)
  obtain rfl : submission.after = later := Except.ok.inj (submission.reread.symm.trans decodes')
  have shows := submission.shows
  have ply : submission.view.status.ply + 1 =
      (walk setting.rules setting.crypto submission.view.state setting.params none).ply := by
    rw [shows]
    exact NextMove.ply_succ verified honest
  have chain : submission.view.status.chain =
      (walk setting.rules setting.crypto submission.view.state setting.params none).chain := by
    rw [shows]
    simp [project, honest]
  have walked : Walked setting.crypto submission.view.state setting.params
      (walk setting.rules setting.crypto submission.view.state setting.params none) := walked_walk verified
  rw [ply, chain, ← walked.parent_eq] at is
  obtain ⟨seed, color, made, player, mover⟩ := submission.by_player sealed early
  obtain ⟨-, mover⟩ := mover _ _ _ is
  have signer : rec.signer = setting.params.keyOf
      (colorAtPly (walk setting.rules setting.crypto submission.view.state setting.params none).ply) := by
    rw [signers, made, mover]
    exact (GameParams.keyOf_of_colorOf player).symm
  obtain ⟨parsed, mv, read, legal⟩ := legal_of_listed faithful listed honest legal
  have undecided : (submission.view.state.project setting.rules setting.crypto setting.params).decision = none := by
    rw [← shows]
    exact playing
  have continues := chain_continues undecided verified' honest clean (grows none) held (body.trans is)
    signer read legal
  rw [← submission.returns, ← shows] at continues
  exact continues

end Submission

/-- An acknowledged move is on the board. It continues the game as it was read, by the move
that was asked for, whatever happened between the calls short of a foreign state replacing the
replica. -/
theorem acknowledged_move_on_board (setting : Setting) (place : Place Node)
    (seat seat' : Seat setting place) (label uci : String) (wasm : Bytes) (status : Status)
    (reads : setting.reader.RoundTrips) (sealed : setting.secrets.RoundTrips) (signs : setting.crypto.Signs)
    (faithful : setting.rules.RoundTrips) (listed : Listed setting.rules)
    (binds : ∀ params code, place.instanceId params code = place.address → params = setting.params.encode)
    (starts : Relation.ReflTransGen (Next setting) (System.start Node) seat.system) (calm : Calm seat)
    (oneGame : OneGame setting seat'.system place.color) (own : OwnKey setting place seat'.system)
    (bodies : ∀ color, setting.crypto.CollisionFree
      (bodyHashInput '' {body | ∃ call ∈ seat'.system.asked color, ∃ gameId, call.request = .sign gameId body}))
    (free : setting.crypto.CollisionFree (Record.idInput '' {rec | ∃ color, Stated setting seat'.system color rec}))
    (played : perform (playMove setting.rules setting.crypto setting.reader place.instanceId label uci wasm) seat =
      (.ok status, seat')) :
    ∃ reading before rec, Relation.ReflTransGen (Retains setting place.node) seat.system reading ∧
      Relation.ReflTransGen (Retains setting place.node) reading seat'.system ∧
      shown setting reading place.node = .ok before ∧ shown setting seat'.system place.node = .ok status ∧
      before.decision = none ∧
      rec ∈ StateSize.recordsOf setting.crypto setting.reader (seat'.system.stored place.node) ∧
      rec.color setting.params = some place.color ∧
      rec.body = .move (before.ply + 1) (headOf setting.crypto setting.params before.chain) uci ∧
      before.chain ++ [rec.id setting.crypto] <+: status.chain := by
  obtain ⟨submission⟩ := exists_submission binds calm played
  have early : OneGame setting submission.asking place.color := submission.oneGame_asking oneGame
  have own' : OwnKey setting place submission.asked := own.mono (submission.asked_final place.color)
  obtain ⟨playing, -, is⟩ := submission.decided
  obtain ⟨rec, held, signers, body⟩ := submission.move_held reads sealed signs starts oneGame own bodies free
  have continues := submission.move_continues reads sealed signs faithful listed starts oneGame own bodies free
  refine ⟨submission.reading, submission.view.status, rec, submission.opens, submission.goes reads own', ?_, ?_,
    playing, ?_, ?_, body.trans is, ?_⟩
  · rw [shown, submission.read, submission.shows]
    rfl
  · rw [shown, submission.reread]
    exact congrArg Except.ok submission.returns.symm
  · rw [StateSize.recordsOf, submission.reread]
    exact mem_valuesOf.2 ⟨_, held⟩
  · rw [Record.color, signers]
    exact submission.color_eq sealed early own'
  · rw [Record.id_congr _ signers (body.trans (submission.body_eq sealed early).symm)]
    exact continues

section Sample
open Signing

theorem sampleSeat_calm (system : System Bool) : Calm (sampleSeat system) := fun _ _ => .refl

theorem samplePlace_binds (params code : Bytes) (here : samplePlace.instanceId params code = samplePlace.address) :
    params = sampleSetting.params.encode := by
  by_contra other
  have elsewhere : Sample.whiteKey = zeros := (if_neg other).symm.trans here
  exact absurd elsewhere (by decide +kernel)

theorem oneGame_of_submitted {final : System Bool} {said : Body} (submitted : Submitted said final) :
    OneGame sampleSetting final .white := by
  obtain ⟨host, host', asked⟩ := submitted.requests
  intro call member label params contract binds _
  rw [asked] at member
  simp only [sampleCalls, List.take, List.mem_append, List.mem_cons, List.not_mem_nil, or_false] at member
  rcases member with ((rfl | rfl) | rfl) | rfl
  · cases binds
  · exact (Request.bindGame.inj binds).2.1.symm
  · cases binds
  · cases binds

theorem sample_listed : Listed Sample.rules := by
  intro (pos : List String) (mv : String) (listed : mv ∈ Sample.continuations pos)
  exact ⟨mv, if_pos (List.contains_iff_mem.2 listed)⟩

/-- White opens, and the opening is on the board. -/
theorem acknowledged_move_on_board_opening : ∃ (status : Status) (final reading : System Bool) (before : Status)
    (rec : Record),
    perform (playMove Sample.rules Sample.crypto Reader.exact samplePlace.instanceId "white" "e2e4" [])
      (sampleSeat sampleGame) = (.ok status, sampleSeat final) ∧
    Relation.ReflTransGen (Retains sampleSetting true) sampleGame reading ∧
    Relation.ReflTransGen (Retains sampleSetting true) reading final ∧
    shown sampleSetting reading true = .ok before ∧ shown sampleSetting final true = .ok status ∧
    before.decision = none ∧ rec ∈ StateSize.recordsOf Sample.crypto Reader.exact (final.stored true) ∧
    rec.color sampleParams = some .white ∧
    rec.body = .move (before.ply + 1) (headOf Sample.crypto sampleParams before.chain) "e2e4" ∧
    before.chain ++ [rec.id Sample.crypto] <+: status.chain := by
  obtain ⟨final, played, submitted⟩ :=
    sample_submit sample_opening_decides sample_opening_granted (by decide +kernel)
  obtain ⟨reading, before, rec, landed⟩ := acknowledged_move_on_board sampleSetting samplePlace
    (sampleSeat sampleGame) (sampleSeat final) "white" "e2e4" [] _ Reader.exact_roundTrips
    SecretReader.exact_roundTrips Sample.crypto_signs Sample.rules_roundTrips sample_listed samplePlace_binds
    sampleGame_reached (sampleSeat_calm _) (oneGame_of_submitted submitted) (submitted.ownKey (by decide +kernel))
    submitted.bodies submitted.statements played
  exact ⟨_, final, reading, before, rec, played, landed⟩

end Sample

/-- An acknowledged resignation stands. As long as the replica is not replaced by a foreign
state, during the flow and after it, the game that it shows is lost by the player, or drawn
because both have resigned. -/
theorem acknowledged_resignation_stands (setting : Setting) (place : Place Node)
    (seat seat' : Seat setting place) (late : System Node) (label : String) (wasm : Bytes) (status : Status)
    (reads : setting.reader.RoundTrips) (sealed : setting.secrets.RoundTrips)
    (binds : ∀ params code, place.instanceId params code = place.address → params = setting.params.encode)
    (starts : Relation.ReflTransGen (Next setting) (System.start Node) seat.system) (calm : Calm seat)
    (oneGame : OneGame setting seat'.system place.color) (own : OwnKey setting place seat'.system)
    (resigned : perform (resign setting.rules setting.crypto setting.reader place.instanceId label wasm) seat =
      (.ok status, seat'))
    (goes : Relation.ReflTransGen (Retains setting place.node) seat'.system late)
    (bodies : ∀ color, setting.crypto.CollisionFree
      (bodyHashInput '' {body | ∃ call ∈ late.asked color, ∃ gameId, call.request = .sign gameId body}))
    (free : setting.crypto.CollisionFree (Record.idInput '' {rec | ∃ color, Stated setting late color rec})) :
    ∃ later, shown setting seat'.system place.node = .ok status ∧ shown setting late place.node = .ok later ∧
      (later.decision = some ⟨some place.color.other, .resignation⟩ ∨
        later.decision = some ⟨none, .mutualResignation⟩) := by
  obtain ⟨submission⟩ := exists_submission binds calm resigned
  have early : OneGame setting submission.asking place.color := submission.oneGame_asking oneGame
  have own : OwnKey setting place submission.asked := own.mono (submission.asked_final place.color)
  have is : submission.said = .resign := by
    have decides := submission.decides
    unfold resignBody unlessOver at decides
    split_ifs at decides
    exact (Except.ok.inj decides).symm
  have body : submission.record.body = .resign := (submission.body_eq sealed early).trans is
  have final : Relation.ReflTransGen (Next setting) (System.start Node) seat'.system :=
    (starts.trans (reaches_of_retains submission.opens)).trans (reaches_of_retains (submission.goes reads own))
  have known := free_mono (asked_reaches (reaches_of_retains goes)) free
  obtain ⟨after, rec, decodes, held, signers, same⟩ :=
    submission.held reads own starts known (alone_of_resign body)
  have resigns : rec.body = .resign := same.trans body
  obtain ⟨state, later, decodes', decodes'', -, -, -, clean, kept, -⟩ :=
    grown_of_retains reads sealed final goes bodies free
  obtain rfl : after = state := Except.ok.inj (decodes.symm.trans decodes')
  obtain rfl : submission.after = after := Except.ok.inj (submission.reread.symm.trans decodes)
  obtain ⟨rec', held', signers', same'⟩ := kept _ rec held (.inl resigns)
  have owner : rec'.color setting.params = some place.color := by
    rw [Record.color, signers', signers]
    exact submission.color_eq sealed early own
  have returns := submission.returns
  refine ⟨later.project setting.rules setting.crypto setting.params, ?_, ?_, ?_⟩
  · rw [shown, decodes]
    exact congrArg Except.ok returns.symm
  · rw [shown, decodes'']
    rfl
  · exact resignation_of_held clean held' (same'.trans resigns) owner

open Signing in
/-- White resigns before the first move, and the replica catches up with the other one. -/
theorem acknowledged_resignation_stands_opening : ∃ (status later : Status) (final : System Bool),
    perform (resign Sample.rules Sample.crypto Reader.exact samplePlace.instanceId "white" [])
      (sampleSeat sampleGame) = (.ok status, sampleSeat final) ∧
    shown sampleSetting final true = .ok status ∧
    shown sampleSetting (react sampleSetting final (.pull true false)) true = .ok later ∧
    (later.decision = some ⟨some .black, .resignation⟩ ∨
      later.decision = some ⟨none, .mutualResignation⟩) := by
  have decides : resignBody sampleOpen.view = .ok .resign := by
    have playing : (GameState.empty.project Sample.rules Sample.crypto sampleParams).isOver = false := by
      decide +kernel
    unfold resignBody unlessOver sampleOpen
    dsimp only
    rw [playing]
    rfl
  have granted : decideSign Sample.crypto sampleRecord .resign none = .sign sampleRecord := by decide +kernel
  obtain ⟨final, resigned, submitted⟩ := sample_submit decides granted (by decide +kernel)
  have goes : Retains sampleSetting true final (react sampleSetting final (.pull true false)) :=
    ⟨.pull true false, by simp, by simp [brings], rfl⟩
  have asked : (react sampleSetting final (.pull true false)).asked = final.asked := asked_keep ..
  have bodies := submitted.bodies
  have free := submitted.statements
  unfold Stated session at free
  rw [← asked] at bodies free
  obtain ⟨later, stands⟩ := acknowledged_resignation_stands sampleSetting samplePlace (sampleSeat sampleGame)
    (sampleSeat final) _ "white" [] _ Reader.exact_roundTrips SecretReader.exact_roundTrips samplePlace_binds
    sampleGame_reached (sampleSeat_calm _) (oneGame_of_submitted submitted) (submitted.ownKey (by decide +kernel))
      resigned
    (.single goes) bodies free
  exact ⟨_, later, final, resigned, stands⟩

end Adjourn.Acknowledged
