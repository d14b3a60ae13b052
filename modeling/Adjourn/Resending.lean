import Adjourn.Acknowledged
import Adjourn.Finality
import Adjourn.StaleReplica

/-! A move whose submission failed can be sent again: in the end it is on the board once, unless
the game was over first. -/

namespace Adjourn.Resending
open Cbor OrderedMap NormalForm GameState Contract Delegate Session Seating Network Flows Retention Acknowledged

variable {setting : Setting} {Node : Type} {place : Place Node}

structure Seated (setting : Setting) (place : Place Node) (label : String) (record : GameRecord) (store : Store) :
    Prop where
  bound : Delegate.boundGame setting.secrets store label = some record
  owner : loadOwner store label = place.origin
  params : record.params = setting.params
  side : record.side = .ofColor place.color
  origin : record.origin = place.origin
  contract : record.contract = place.address

/-- Of the moves at a ply, none but this one has been signed. -/
structure Fresh (setting : Setting) (ply : U16) (body : Body) (record : GameRecord) (session : Signing.Session) :
    Prop where
  counter : record.lastSignedPly < ply ∨
    record.lastSignedPly = ply ∧ record.lastMoveBodyHash = bodyHash setting.crypto body
  only : ∀ rec : Record, (gameId setting, rec) ∈ session.released → ∀ parent uci,
    rec.body = .move ply parent uci → rec.body = body

section Asking
variable {label : String} {record : GameRecord} {session : Signing.Session} {ply : U16} {origin : Option Bytes32}

theorem Seated.gameId_eq {store : Store} (seated : Seated setting place label record store) :
    record.gameId setting.crypto = gameId setting := by
  rw [GameRecord.gameId, seated.params, Network.gameId]

theorem counter_of_sign {parent : RecordId} {uci : String} {updated : GameRecord}
    (granted : decideSign setting.crypto record (.move ply parent uci) origin = .sign updated) :
    updated.lastSignedPly = ply ∧
      updated.lastMoveBodyHash = bodyHash setting.crypto (.move ply parent uci) := by
  obtain ⟨-, -, -, -, marks⟩ := Signing.decideSign_eq_sign granted
  have mark := marks ply parent uci rfl
  exact ⟨congrArg Watermark.Mark.index mark, congrArg Watermark.Mark.digest mark⟩

variable (host : Host) (ply : U16) (sound : Signing.Sound setting.crypto session) (reads : setting.secrets.RoundTrips)
  (seated : Seated setting place label record session.store)
include sound reads seated

theorem seated_sign (said : Body) : ∃ record', Seated setting place label record'
      (Signing.step setting.rules setting.crypto setting.reader setting.secrets session
        ⟨host, place.origin, .sign (gameId setting) said⟩).store ∧
    (Fresh setting ply said record session → (∃ parent uci, said = .move ply parent uci) →
      Fresh setting ply said record' (Signing.step setting.rules setting.crypto setting.reader setting.secrets session
        ⟨host, place.origin, .sign (gameId setting) said⟩)) := by
  have loaded : loadGame setting.secrets session.store (gameId setting) = some record := by
    rw [← seated.gameId_eq]
    exact loadGame_of_bound sound reads seated.bound
  have store : (Signing.step setting.rules setting.crypto setting.reader setting.secrets session
      ⟨host, place.origin, .sign (gameId setting) said⟩).store = (handleSign setting.rules setting.crypto
        setting.reader setting.secrets host session.store place.origin (gameId setting) said).1 := rfl
  have released : (Signing.step setting.rules setting.crypto setting.reader setting.secrets session
      ⟨host, place.origin, .sign (gameId setting) said⟩).released = session.released ++ Signing.answered
        (.sign (gameId setting) said) (handleSign setting.rules setting.crypto setting.reader setting.secrets host
          session.store place.origin (gameId setting) said).2 := rfl
  have only : Fresh setting ply said record session → ∀ rec : Record, (gameId setting, rec) ∈
      (Signing.step setting.rules setting.crypto setting.reader setting.secrets session
        ⟨host, place.origin, .sign (gameId setting) said⟩).released → ∀ parent uci,
          rec.body = .move ply parent uci → rec.body = said := by
    intro fresh rec member parent uci is
    rw [released] at member
    rcases List.mem_append.1 member with early | new
    · exact fresh.only rec early parent uci is
    · cases response : (handleSign setting.rules setting.crypto setting.reader setting.secrets host session.store
          place.origin (gameId setting) said).2 with
      | signed rec' =>
        rw [response, Signing.answered, List.mem_singleton] at new
        obtain ⟨old, seed, updated, -, -, -, made⟩ := handleSign_signed response
        obtain ⟨-, rfl⟩ := Prod.mk.inj new
        rw [made]
        rfl
      | _ => simp [response, Signing.answered] at new
  rcases handleSign_cases setting.rules setting.crypto setting.reader setting.secrets host session.store place.origin
      (gameId setting) said with ⟨refusal, refused⟩ | ⟨old, seed, updated, loaded', seeded, granted, answer⟩
  · rw [refused] at store
    exact ⟨record, store ▸ seated, fun fresh _ => ⟨fresh.counter, only fresh⟩⟩
  · obtain rfl := Option.some.inj (loaded.symm.trans loaded')
    rw [answer, afterWrites_fst] at store
    obtain ⟨labels, params, -⟩ := Signing.decideSign_eq_sign granted
    obtain ⟨continues, contract, -⟩ := Bookkeeping.continues_of_sign granted
    have bound := boundGame_signed host sound reads seated.bound granted
    have owner : loadOwner (storeGame setting.crypto host session.store updated).store label = place.origin := by
      rw [loadOwner, storeGame_kept (.inr (.inl rfl)), ← loadOwner, seated.owner]
    rw [← store] at bound owner
    cases written : host.writes 0 with
    | false =>
      rw [written, if_neg Bool.false_ne_true] at bound
      exact ⟨record, ⟨bound, owner, seated.params, seated.side, seated.origin, seated.contract⟩,
        fun fresh _ => ⟨fresh.counter, only fresh⟩⟩
    | true =>
      rw [written, if_pos rfl] at bound
      refine ⟨updated, ⟨bound, owner, params.trans seated.params, continues.side.trans seated.side,
        continues.origin.trans seated.origin, contract.trans seated.contract⟩, fun fresh moves => ?_⟩
      obtain ⟨parent, uci, rfl⟩ := moves
      exact ⟨.inr (counter_of_sign granted), only fresh⟩

end Asking

theorem player_of_seated {label : String} {record : GameRecord} {system : System Node}
    (sealed : setting.secrets.RoundTrips)
    (seated : Seated setting place label record (session setting system place.color).store) :
    setting.params.colorOf (setting.params.keyOf place.color) = some place.color := by
  have sound : Signing.Sound setting.crypto (session setting system place.color) := Signing.sound_serve sealed _
  have held := (sound.loadGame_eq_some sealed).1 (loadGame_of_bound sound sealed seated.bound)
  obtain ⟨seed, color, -, player, side⟩ := (Bookkeeping.allKept_serve sealed _ _ _ held).side
  obtain rfl : place.color = color := PlyCap.ofColor_injective (seated.side.symm.trans side)
  rw [seated.params] at player
  rwa [GameParams.keyOf_of_colorOf player]

theorem ownKey_of_seated {label : String} {record : GameRecord} {system : System Node}
    (sealed : setting.secrets.RoundTrips)
    (seated : Seated setting place label record (session setting system place.color).store) :
    OwnKey setting place system := by
  intro rec color member owner
  have sound : Signing.Sound setting.crypto (session setting system place.color) := Signing.sound_serve sealed _
  obtain ⟨held, seed, stored, -, key, signature⟩ := sound.signed _ member
  have loaded := loadGame_of_bound sound sealed seated.bound
  rw [seated.gameId_eq] at loaded
  obtain rfl := GameRecord.encode_injective (Option.some.inj
    (((sound.loadGame_eq_some sealed).1 loaded).symm.trans stored))
  obtain ⟨seed', color', key', player, side⟩ := (Bookkeeping.allKept_serve sealed _ _ _ stored).side
  obtain rfl : seed = seed' := FixedBytes.val_injective (Option.some.inj (key.symm.trans key'))
  have signer : rec.signer = setting.crypto.verifyingKey seed := by
    have signature : rec = Record.sign setting.crypto seed record.params rec.body := signature
    rw [signature]
    rfl
  rw [Record.color, signer, ← seated.params, player] at owner
  rw [← Option.some.inj owner]
  exact PlyCap.ofColor_injective (side.symm.trans seated.side)

theorem ply_of_shown {system : System Node} {status : Status} {node : Node}
    (shows : shown setting system node = .ok status) :
    status.ply = Fin.ofNat 65536 status.chain.length := by
  unfold shown at shows
  cases read : decodeState setting.crypto setting.reader (system.stored node) with
  | error fault =>
    rw [read] at shows
    cases shows
  | ok state =>
    rw [read] at shows
    obtain rfl := Except.ok.inj shows
    rfl

theorem side_of_summary {label : String} {crypto : Crypto} {secrets : SecretReader} {store : Store}
    {origin : Option Bytes32}
    {game : BoundGame} {record : GameRecord} (listed : summary crypto secrets store origin label = some game.summary)
    (bound : Delegate.boundGame secrets store label = some record) : game.side = record.side := by
  unfold summary at listed
  split_ifs at listed
  obtain ⟨seed, -, same⟩ := Option.map_eq_some_iff.1 listed
  simp only [bound] at same
  simp [BoundGame.side, ← same]

theorem found_of_seated {label : String} {store : Store} {record : GameRecord} {game : BoundGame}
    (seated : Seated setting place label record store)
    (found : findBound label ((listLabels store).filterMap
      (summary setting.crypto setting.secrets store place.origin)) = .ok game) :
    game.params = setting.params ∧ game.contract = place.address ∧ game.side = .ofColor place.color ∧
      game.gameId = gameId setting := by
  have listed := Migration.summary_of_findBound found
  obtain ⟨params, contract⟩ := Migration.game_of_summary listed seated.bound
  have params : game.params = setting.params := params.trans seated.params
  refine ⟨params, contract.trans seated.contract, (side_of_summary listed seated.bound).trans seated.side, ?_⟩
  rw [gameId_of_summary listed, params, Network.gameId]

structure Opened (setting : Setting) (place : Place Node) (game : OpenGame) (system : System Node) : Prop where
  params : game.view.params = setting.params
  side : game.view.side = .ofColor place.color
  gameId : game.view.gameId = gameId setting
  contract : game.view.contract = place.address
  address : place.instanceId game.container.parameters game.container.code = place.address
  read : decodeState setting.crypto setting.reader (system.stored place.node) = .ok game.view.state
  shows : game.view.status = game.view.state.project setting.rules setting.crypto setting.params

theorem Opened.shown_eq {game : OpenGame} {system : System Node} (opened : Opened setting place game system) :
    shown setting system place.node = .ok game.view.status := by
  rw [shown, opened.read, opened.shows]
  rfl

def moveOf (setting : Setting) (before : Status) (uci : String) : Body :=
  .move (before.ply + 1) (headOf setting.crypto setting.params before.chain) uci

section Granting
variable {system : System Node} {before : Status} {label uci : String} {record : GameRecord}

theorem decideSign_of_fresh (seated : Seated setting place label record (session setting system place.color).store)
    (format : record.format = GAME_RECORD_FORMAT) (inside : before.ply + 1 ≤ MAX_PLY) (moves : before.ply + 1 ≠ 0)
    (mover : colorAtPly (before.ply + 1) = place.color)
    (fresh : Fresh setting (before.ply + 1) (moveOf setting before uci) record (session setting system place.color)) :
    ∃ updated, decideSign setting.crypto record (moveOf setting before uci) place.origin = .sign updated := by
  have ours : Side.ofColor (colorAtPly (before.ply + 1)) = record.side := by rw [mover, seated.side]
  unfold decideSign moveOf
  dsimp only
  rw [if_neg (not_not.2 format), if_neg (not_not.2 seated.origin), if_neg (not_lt.2 inside), if_neg (not_not.2 ours)]
  rcases fresh.counter with below | ⟨same, hash⟩
  · rw [if_neg (lt_asymm below), if_neg below.ne']
    exact ⟨_, rfl⟩
  · rw [same, if_neg (lt_irrefl _), if_pos rfl, hash, if_pos ⟨moves, rfl⟩]
    exact ⟨record, rfl⟩

theorem notIllegal_of_playable {host : Host} {status : Status}
    (ends : GameState.decode setting.crypto setting.reader [] = none)
    (replica : host.contractState record.contract = some (system.stored place.node))
    (params : record.params = setting.params) (shows : shown setting system place.node = .ok status)
    (undecided : status.decision = none)
    (legal : ∃ state, decodeState setting.crypto setting.reader (system.stored place.node) = .ok state ∧
      uci ∈ state.legalMoves setting.rules setting.crypto setting.params) :
    locallyKnownToBeIllegal setting.rules setting.crypto setting.reader host record (moveOf setting before uci) =
      false := by
  obtain ⟨state, decodes, legal⟩ := legal
  have read := InSync.fetchState_eq_some.2 decodes
  unfold InSync.fetchState at read
  split_ifs at read with nothing
  · rw [List.isEmpty_iff.1 nothing] at replica
    unfold locallyKnownToBeIllegal moveOf
    dsimp only
    rw [replica, Option.bind_some, ends]
  · rw [← Option.bind_some (f := GameState.decode setting.crypto setting.reader), ← replica] at read
    refine (StaleReplica.locallyKnownToBeIllegal_move read).2 ⟨?_, fun _ => ?_⟩
    · rw [params]
      rw [shown, decodes] at shows
      obtain rfl := Except.ok.inj shows
      exact undecided
    · rw [params]
      exact legal

theorem signs_of_granted {session : Signing.Session} {host : Host} {body : Body} {updated : GameRecord}
    (sound : Signing.Sound setting.crypto session) (sealed : setting.secrets.RoundTrips)
    (seated : Seated setting place label record session.store) (stores : ∀ i, host.writes i = true)
    (legal : locallyKnownToBeIllegal setting.rules setting.crypto setting.reader host record body = false)
    (granted : decideSign setting.crypto record body place.origin = .sign updated) :
    ∃ seed, (handleSign setting.rules setting.crypto setting.reader setting.secrets host session.store place.origin
      (gameId setting) body).2 = .signed (Record.sign setting.crypto seed setting.params body) := by
  have loaded := loadGame_of_bound sound sealed seated.bound
  obtain ⟨held, same, -, -, seed, seeded⟩ := sound.games _ _ ((sound.loadGame_eq_some sealed).1 loaded)
  obtain rfl := GameRecord.encode_injective same
  have key : loadSeed session.store record.label = some seed := by
    rw [loadSeed, seeded]
    exact toBytes32_val seed
  rw [seated.gameId_eq] at loaded
  refine ⟨seed, ?_⟩
  simp [handleSign, loaded, key, legal, granted, storeGame, afterWrites, Writes.start, Writes.set, stores,
    seated.params]

theorem accepts_of_genuine {bytes : Bytes} {rec : Record} (reads : setting.reader.RoundTrips)
    (genuine : Genuine setting system bytes) (valid : rec.verify setting.crypto setting.params = true) :
    ∃ result, updateState setting.crypto setting.reader setting.params.encode bytes
      [.delta (encodeRecords [rec])] = .ok result := by
  obtain ⟨state, decodes, -⟩ := genuine
  exact ⟨_, Batches.updateState_verified reads decodes fun other member => List.mem_singleton.1 member ▸ valid⟩

end Granting

structure Distinct (setting : Setting) {Node : Type} (system : System Node) : Prop where
  bodies : ∀ color, setting.crypto.CollisionFree
    (bodyHashInput '' {body | ∃ call ∈ system.asked color, ∃ gameId, call.request = .sign gameId body})
  free : setting.crypto.CollisionFree (Record.idInput '' {rec | ∃ color, Stated setting system color rec})

theorem Distinct.mono {early late : System Node} (asked : ∀ color, early.asked color <+: late.asked color)
    (distinct : Distinct setting late) : Distinct setting early where
  bodies color := by
    refine (distinct.bodies color).mono (Set.image_mono fun body said => ?_)
    obtain ⟨call, member, request⟩ := said
    exact ⟨call, (asked color).subset member, request⟩
  free := free_mono asked distinct.free

section Attempts
variable [DecidableEq Node] {seat seat' : Seat setting place} {start system : System Node} {before : Status}
  {label uci : String} {wasm : Bytes} {playing : Prop}

/-- Nobody else asks the player's delegate for anything. -/
def Quiet (seat : Seat setting place) : Prop :=
  ∀ n system, ((seat.moments n).meanwhile system).asked place.color = system.asked place.color

/-- At some time, with the delegate having signed nothing but the move, the replica has shown
a game that is over or has gone on. -/
def GoneOn (setting : Setting) (place : Place Node) (start : System Node) (before : Status) (uci : String)
    (system : System Node) : Prop :=
  ∃ reading status record, Relation.ReflTransGen (Retains setting place.node) start reading ∧
    Relation.ReflTransGen (Retains setting place.node) reading system ∧
    Fresh setting (before.ply + 1) (moveOf setting before uci) record (session setting reading place.color) ∧
    shown setting reading place.node = .ok status ∧ (status.decision ≠ none ∨ status.chain ≠ before.chain)

/-- What attempts keep, whether they succeed or fail: the game has gone on, or the player is
still free to move. -/
structure Kept (setting : Setting) (place : Place Node) (start : System Node) (before : Status) (label uci : String)
    (playing : Prop) (system : System Node) : Prop where
  goes : Relation.ReflTransGen (Retains setting place.node) start system
  game : ∃ record, Seated setting place label record (session setting system place.color).store ∧
    (GoneOn setting place start before uci system ∨ playing ∧
      Fresh setting (before.ply + 1) (moveOf setting before uci) record (session setting system place.color))

/-- A seat whose attempts keep it. -/
structure Fit (start : System Node) (before : Status) (label uci : String) (playing : Prop)
    (seat : Seat setting place) : Prop where
  kept : Kept setting place start before label uci playing seat.system
  calm : Calm seat
  quiet : Quiet seat

theorem GoneOn.mono {later : System Node} (gone : GoneOn setting place start before uci system)
    (goes : Relation.ReflTransGen (Retains setting place.node) system later) :
    GoneOn setting place start before uci later := by
  obtain ⟨reading, status, record, first, second, read⟩ := gone
  exact ⟨reading, status, record, first, second.trans goes, read⟩

theorem Kept.mono {later : System Node} (kept : Kept setting place start before label uci playing system)
    (goes : Relation.ReflTransGen (Retains setting place.node) system later)
    (asked : later.asked place.color = system.asked place.color) :
    Kept setting place start before label uci playing later := by
  obtain ⟨record, seated, state⟩ := kept.game
  have same : session setting later place.color = session setting system place.color := by
    rw [session, session, asked]
  refine ⟨kept.goes.trans goes, record, same ▸ seated, ?_⟩
  rw [same]
  exact state.imp_left fun gone => gone.mono goes

theorem Kept.list (kept : Kept setting place start before label uci playing system) (host : Host) :
    Kept setting place start before label uci playing
      (react setting system (.ask place.color ⟨host, place.origin, .listGames⟩)) := by
  obtain ⟨record, seated, state⟩ := kept.game
  have goes : Retains setting place.node system (react setting system _) :=
    retains_ask place.node system ⟨host, place.origin, .listGames⟩ place.color
  have same : session setting (react setting system (.ask place.color ⟨host, place.origin, .listGames⟩))
      place.color = session setting system place.color := by
    rw [session_ask]
    exact congrArg (Signing.Session.mk _) (List.append_nil _)
  refine ⟨kept.goes.tail goes, record, same ▸ seated, ?_⟩
  rw [same]
  exact state.imp_left fun gone => gone.mono (.single goes)

theorem Kept.sign (sealed : setting.secrets.RoundTrips)
    (kept : Kept setting place start before label uci playing system)
    (host : Host) {said : Body} (decided : GoneOn setting place start before uci system ∨
      said = moveOf setting before uci) :
    Kept setting place start before label uci playing
      (react setting system (.ask place.color ⟨host, place.origin, .sign (gameId setting) said⟩)) := by
  obtain ⟨record, seated, state⟩ := kept.game
  have goes : Retains setting place.node system (react setting system _) :=
    retains_ask place.node system ⟨host, place.origin, .sign (gameId setting) said⟩ place.color
  obtain ⟨record', seated', fresh'⟩ := seated_sign host (before.ply + 1) (Signing.sound_serve sealed _)
    sealed seated said
  rw [← session, ← session_ask] at seated' fresh'
  refine ⟨kept.goes.tail goes, record', seated', ?_⟩
  rcases decided with gone | rfl
  · exact .inl (gone.mono (.single goes))
  · exact state.imp (fun gone => gone.mono (.single goes)) (And.imp_right fun fresh => fresh' fresh ⟨_, _, rfl⟩)

theorem Kept.vouched (sealed : setting.secrets.RoundTrips)
    (kept : Kept setting place start before label uci playing system)
    {rec : Record} (released : (gameId setting, rec) ∈ (session setting system place.color).released) :
    Vouched setting system rec := by
  obtain ⟨record, seated, -⟩ := kept.game
  intro _ color owner
  obtain rfl := ownKey_of_seated sealed seated rec color released owner
  exact ⟨rec, released, rfl, rfl⟩

theorem Kept.update (reads : setting.reader.RoundTrips)
    (kept : Kept setting place start before label uci playing system)
    {rec : Record} (vouched : Vouched setting system rec) (id : Bytes32) :
    Kept setting place start before label uci playing
      (writeReplica setting place id (.delta (encodeRecords [rec])) system).2 := by
  have brought : ∀ rec' ∈ brings setting (.update place.node [.delta (encodeRecords [rec])]),
      Vouched setting system rec' := by
    intro rec' member
    have carries : StateSize.carried setting.crypto setting.reader (.delta (encodeRecords [rec])) = [rec] :=
      deltaOf_encode reads [rec]
    rw [brings, List.flatMap_singleton, carries] at member
    rw [List.mem_singleton.1 member]
    exact vouched
  unfold writeReplica
  split
  · split
    · exact kept.mono (.single ⟨_, fun _ => by simp, brought, rfl⟩) (congrFun (asked_keep ..) _)
    · exact kept
  · exact kept

section Calls
variable {α β : Type}

theorem Quiet.next (quiet : Quiet seat) (shifts : seat'.moments = fun n => seat.moments (n + 1)) : Quiet seat' := by
  intro n system
  rw [shifts]
  exact quiet (n + 1) system

theorem Fit.arriving (fit : Fit start before label uci playing seat) :
    Kept setting place start before label uci playing (arriving seat) :=
  fit.kept.mono fit.calm.arriving (fit.quiet 0 seat.system)

theorem fit_call (calm : Calm seat) (quiet : Quiet seat)
    (arrived : Kept setting place start before label uci playing (arriving seat)) (context : String)
    (call : Moment setting Node → StateM (System Node) (Except String α))
    (steps : Kept setting place start before label uci playing (call (seat.moments 0) (arriving seat)).2) :
    Fit start before label uci playing (perform (Session.call context (during setting place call)) seat).2 := by
  rw [perform_call]
  refine ⟨?_, calm.next rfl, quiet.next rfl⟩
  rcases system_during call seat with same | same
  · rw [same]
    exact arrived
  · rw [same]
    exact steps

theorem fit_bind {flow : Client (Seat setting place) α} {next : α → Client (Seat setting place) β}
    (first : Fit start before label uci playing (perform flow seat).2)
    (second : ∀ value seat', perform flow seat = (.ok value, seat') → Fit start before label uci playing seat' →
      Fit start before label uci playing (perform (next value) seat').2) :
    Fit start before label uci playing (perform (flow >>= next) seat).2 := by
  rw [perform_bind]
  cases done : perform flow seat with
  | mk outcome middle =>
    rw [done] at first
    cases outcome with
    | ok value => exact second value middle done first
    | error fault => exact first

theorem fit_lift (fit : Fit start before label uci playing seat) (outcome : Except SessionError α) :
    Fit start before label uci playing (perform (liftExcept outcome : Client (Seat setting place) α) seat).2 := by
  rw [perform_lift]
  exact fit

theorem fit_fetchState (fit : Fit start before label uci playing seat) (contract : Bytes32) :
    Fit start before label uci playing (perform (fetchState setting.crypto setting.reader contract :
      Client (Seat setting place) GameState) seat).2 := by
  refine fit_bind (fit_call fit.calm fit.quiet fit.arriving _ (fun _ => readReplica place contract) fit.arriving)
    fun bytes seat' _ fit' => ?_
  cases InSync.fetchState setting.crypto setting.reader (bytes.getD []) <;> exact fit'

theorem fit_openGame (fit : Fit start before label uci playing seat) (wasm : Bytes) :
    Fit start before label uci playing (perform (openGame setting.rules setting.crypto setting.reader place.instanceId
      label wasm : Client (Seat setting place) OpenGame) seat).2 := by
  have listing := fit_call fit.calm fit.quiet fit.arriving "ListGames" (askDelegate setting place .listGames)
    (fit.arriving.list _)
  refine fit_bind (fit_bind listing fun response seat' _ fit' => ?_) fun game seat' _ fit' =>
    fit_bind (fit_lift fit' _) fun container seat' _ fit' =>
      fit_bind (fit_fetchState fit' _) fun state seat' _ fit' => fit'
  exact fit_bind (fit_lift fit' _) fun games seat' _ fit' => fit_lift fit' _

theorem fit_sendAndRead (reads : setting.reader.RoundTrips) (calm : Calm seat) (quiet : Quiet seat)
    (arrived : Kept setting place start before label uci playing (arriving seat)) (game : OpenGame) {rec : Record}
    (vouched : Vouched setting (arriving seat) rec) :
    Fit start before label uci playing (perform (sendAndRead game rec) seat).2 := by
  refine fit_bind (fit_call calm quiet arrived _ (fun _ => writeReplica setting place _ _)
    (arrived.update reads vouched _)) fun _ seat' _ fit' => ?_
  exact fit_bind (fit_fetchState fit' _) fun state seat'' _ fit'' => fit''

theorem fit_signAndSubmit (reads : setting.reader.RoundTrips) (sealed : setting.secrets.RoundTrips) (calm : Calm seat)
    (quiet : Quiet seat) (arrived : Kept setting place start before label uci playing (arriving seat))
    {game : OpenGame}
    (known : game.view.gameId = gameId setting) {said : Body}
    (decided : GoneOn setting place start before uci (arriving seat) ∨ said = moveOf setting before uci) :
    Fit start before label uci playing (perform (signAndSubmit setting.rules setting.crypto setting.reader
      place.instanceId game said) seat).2 := by
  rw [signAndSubmit_eq, known]
  refine fit_bind (fit_call calm quiet arrived _ (askDelegate setting place _) (arrived.sign sealed _ decided))
    fun response seat' called fit' => fit_bind (fit_lift fit' _) fun rec seat'' answered fit'' => ?_
  obtain ⟨signed, rfl⟩ := perform_lift_ok answered
  cases response with
  | signed other =>
    obtain rfl := Except.ok.inj signed
    have vouched := fit'.kept.vouched sealed (released_of_signed (perform_call_ok called))
    exact fit_sendAndRead reads fit'.calm fit'.quiet fit'.arriving game
      (vouched.mono (asked_reaches (reaches_of_retains fit'.calm.arriving)))
  | _ => cases signed

end Calls

section Flow
variable {game : OpenGame} {said : Body}

theorem opened_of_fit (fit : Fit start before label uci playing seat)
    (done : perform (openGame setting.rules setting.crypto setting.reader place.instanceId label wasm) seat =
      (.ok game, seat')) : Opened setting place game seat'.system := by
  unfold openGame at done
  obtain ⟨bound, middle, found, done⟩ := perform_bind_ok done
  obtain ⟨container, middle', built, done⟩ := perform_bind_ok done
  obtain ⟨state, last, fetched, done⟩ := perform_bind_ok done
  obtain ⟨same, rfl⟩ := Prod.mk.inj done
  obtain rfl := Except.ok.inj same
  obtain ⟨builds, rfl⟩ := perform_lift_ok built
  unfold Session.boundGame at found
  obtain ⟨response, middle, called, rest⟩ := perform_bind_ok found
  obtain ⟨games, middle', listed, finds⟩ := perform_bind_ok rest
  obtain ⟨answers, rfl⟩ := perform_lift_ok listed
  obtain ⟨named, rfl⟩ := perform_lift_ok finds
  obtain ⟨host, rfl, -⟩ := delegate_ok (perform_call_ok called)
  obtain rfl := Except.ok.inj answers
  obtain ⟨record, seated, -⟩ := fit.arriving.game
  obtain ⟨params, address, side, gameId⟩ := found_of_seated seated named
  rw [address] at fetched builds
  obtain ⟨decodes, system, -⟩ := fetchState_ok fetched
  unfold expectedContainer contractContainer at builds
  dsimp only at builds
  split_ifs at builds with recorded
  obtain rfl := Except.ok.inj builds
  refine ⟨params, side, gameId, address, not_not.1 recorded, by rw [system, decodes], ?_⟩
  dsimp only
  rw [params]

theorem Kept.settle {status : Status} (kept : Kept setting place start before label uci playing system)
    (shows : shown setting system place.node = .ok status) : GoneOn setting place start before uci system ∨
      status.decision = none ∧ status.chain = before.chain ∧ ∃ record,
        Seated setting place label record (session setting system place.color).store ∧
        Fresh setting (before.ply + 1) (moveOf setting before uci) record (session setting system place.color) := by
  obtain ⟨record, seated, gone | ⟨-, fresh⟩⟩ := kept.game
  · exact .inl gone
  · by_cases same : status.decision = none ∧ status.chain = before.chain
    · exact .inr ⟨same.1, same.2, record, seated, fresh⟩
    · exact .inl ⟨system, status, record, kept.goes, .refl, fresh, shows, not_and_or.1 same⟩

theorem decided_of_fit (shows : shown setting start place.node = .ok before)
    (kept : Kept setting place start before label uci playing system) (opened : Opened setting place game system)
    (decides : moveBody setting.rules setting.crypto uci game.view = .ok said) :
    GoneOn setting place start before uci system ∨ said = moveOf setting before uci := by
  refine (kept.settle opened.shown_eq).imp_right fun settled => ?_
  obtain ⟨-, same, -⟩ := settled
  obtain ⟨-, -, -, is⟩ := moveBody_ok opened.shows opened.params decides
  rw [is, moveOf, ply_of_shown opened.shown_eq, ply_of_shown shows, same]

theorem fit_decide (reads : setting.reader.RoundTrips) (sealed : setting.secrets.RoundTrips)
    (shows : shown setting start place.node = .ok before) (fit : Fit start before label uci playing seat)
    (opened : Opened setting place game seat.system) :
    Fit start before label uci playing (perform (do
      let said ← liftExcept (moveBody setting.rules setting.crypto uci game.view)
      signAndSubmit setting.rules setting.crypto setting.reader place.instanceId game said :
        Client (Seat setting place) Status) seat).2 := by
  refine fit_bind (fit_lift fit _) fun said seat' decided fit' => ?_
  obtain ⟨decides, rfl⟩ := perform_lift_ok decided
  have settled := (decided_of_fit shows fit'.kept opened decides).imp_left fun gone => gone.mono fit'.calm.arriving
  exact fit_signAndSubmit reads sealed fit'.calm fit'.quiet fit'.arriving opened.gameId settled

theorem fit_playMove (reads : setting.reader.RoundTrips) (sealed : setting.secrets.RoundTrips)
    (shows : shown setting start place.node = .ok before) (fit : Fit start before label uci playing seat)
    (wasm : Bytes) :
    Fit start before label uci playing (perform (playMove setting.rules setting.crypto setting.reader place.instanceId
      label uci wasm) seat).2 := by
  unfold playMove submit
  refine fit_bind (fit_openGame fit wasm) fun game middle opening fit' => ?_
  exact fit_decide reads sealed shows fit' (opened_of_fit fit opening)

end Flow

structure Playable (setting : Setting) (place : Place Node) (start : System Node) (before : Status) (uci : String) :
    Prop where
  shows : shown setting start place.node = .ok before
  undecided : before.decision = none
  turn : before.turn = place.color
  legal : ∃ state, decodeState setting.crypto setting.reader (start.stored place.node) = .ok state ∧
    uci ∈ state.legalMoves setting.rules setting.crypto setting.params
  inside : before.ply + 1 ≤ MAX_PLY

section Playing
variable (reads : setting.reader.RoundTrips) (sealed : setting.secrets.RoundTrips)
  (starts : Relation.ReflTransGen (Next setting) (System.start Node) start)
  (playable : Playable setting place start before uci)
  (goes : Relation.ReflTransGen (Retains setting place.node) start system)
  (distinct : Distinct setting system)
include reads sealed starts playable goes distinct

theorem playable_grown : ∃ state later : GameState,
    decodeState setting.crypto setting.reader (system.stored place.node) = .ok later ∧
    before = state.project setting.rules setting.crypto setting.params ∧
    uci ∈ state.legalMoves setting.rules setting.crypto setting.params ∧
    state.allValid setting.crypto setting.params = true ∧ later.allValid setting.crypto setting.params = true ∧
    state.doubleSigned setting.params = none ∧ later.doubleSigned setting.params = none ∧
    Relation.ReflTransGen (Stepping.Steps (walkStep setting.rules later setting.params none))
      (walk setting.rules setting.crypto state setting.params none)
      (walk setting.rules setting.crypto later setting.params none) := by
  obtain ⟨state, read, legal⟩ := playable.legal
  obtain ⟨state', later, decodes, decodes', valid, valid', honest, clean, -, grows⟩ :=
    grown_of_retains reads sealed starts goes distinct.bodies distinct.free
  obtain rfl : state = state' := Except.ok.inj (read.symm.trans decodes)
  have shows := playable.shows
  rw [shown, read] at shows
  exact ⟨state, later, decodes', (Except.ok.inj shows).symm, legal, valid, valid', honest, clean, grows none⟩

theorem still_playable {status : Status} (shows : shown setting system place.node = .ok status)
    (undecided : status.decision = none) (same : status.chain = before.chain) :
    Playable setting place system status uci := by
  obtain ⟨state, later, decodes, is, legal, -, -, honest, clean, grows⟩ :=
    playable_grown reads sealed starts playable goes distinct
  obtain rfl : later.project setting.rules setting.crypto setting.params = status := by
    rw [shown, decodes] at shows
    exact Except.ok.inj shows
  have open' := playable.undecided
  rw [is] at open' same
  have walks : state.finalWalk setting.rules setting.crypto setting.params =
      later.finalWalk setting.rules setting.crypto setting.params := by
    have chains : (walk setting.rules setting.crypto later setting.params none).chain =
        (walk setting.rules setting.crypto state setting.params none).chain := by
      simpa [project, honest, clean] using same
    have first : state.finalWalk setting.rules setting.crypto setting.params =
        walk setting.rules setting.crypto state setting.params none := by simp [finalWalk, honest]
    have second : later.finalWalk setting.rules setting.crypto setting.params =
        walk setting.rules setting.crypto later setting.params none := by simp [finalWalk, clean]
    rw [first, second]
    exact (Finality.eq_of_chain grows chains).symm
  obtain ⟨ply, turn, -⟩ := Finality.samePosition_of_walk walks
  refine ⟨shows, undecided, ?_, ⟨later, decodes, ?_⟩, ?_⟩
  · rw [turn, ← is]
    exact playable.turn
  · rw [← StaleReplica.legalMoves_eq walks open' undecided]
    exact legal
  · rw [ply, ← is]
    exact playable.inside

theorem decides_of_still {game : OpenGame} (opened : Opened setting place game system)
    (undecided : game.view.status.decision = none) (same : game.view.status.chain = before.chain) :
    moveBody setting.rules setting.crypto uci game.view = .ok (moveOf setting before uci) := by
  have still := still_playable reads sealed starts playable goes distinct opened.shown_eq undecided same
  obtain ⟨later, decodes, legal⟩ := still.legal
  obtain rfl : game.view.state = later := Except.ok.inj (opened.read.symm.trans decodes)
  have playing : game.view.status.isOver = false := by simp [Status.isOver, undecided]
  have turn : Side.ofColor game.view.status.turn = game.view.side := by rw [still.turn, opened.side]
  have listed :
      (game.view.state.legalMoves setting.rules setting.crypto game.view.params).any (· == uci) = true := by
    rw [opened.params]
    exact List.any_eq_true.2 ⟨uci, legal, beq_self_eq_true uci⟩
  have plies : game.view.status.ply = before.ply := by
    rw [ply_of_shown opened.shown_eq, ply_of_shown playable.shows, same]
  unfold moveBody unlessOver
  dsimp only
  rw [playing, turn, listed, opened.params, plies, same]
  simp [moveOf]

theorem mover_of_playable (alternates : setting.rules.Alternates) :
    before.ply + 1 ≠ 0 ∧ colorAtPly (before.ply + 1) = place.color := by
  obtain ⟨state, -, -, is, -, valid, -, honest, -⟩ := playable_grown reads sealed starts playable goes distinct
  have walked : Walked setting.crypto state setting.params
      (walk setting.rules setting.crypto state setting.params none) := walked_walk valid
  have turn : before.turn = setting.rules.turn (walk setting.rules setting.crypto state setting.params none).pos := by
    rw [is]
    simp [project, honest]
  have next : before.ply + 1 = (walk setting.rules setting.crypto state setting.params none).ply := by
    rw [is]
    exact NextMove.ply_succ valid honest
  constructor
  · intro wraps
    have plies := walked.ply_eq
    rw [← next, wraps] at plies
    cases plies
  · rw [next, ← turn_walk alternates valid, ← turn]
    exact playable.turn

theorem gone_of_held (alternates : setting.rules.Alternates) (faithful : setting.rules.RoundTrips)
    (listed : Listed setting.rules) (kept : Kept setting place start before label uci True system) {rec : Record}
    (holds : Holds setting (system.stored place.node) rec) (body : rec.body = moveOf setting before uci)
    (owner : rec.color setting.params = some place.color) : GoneOn setting place start before uci system := by
  obtain ⟨-, mover⟩ := mover_of_playable reads sealed starts playable goes distinct alternates
  obtain ⟨state, later, decodes, is, legal, valid, valid', honest, clean, grows⟩ :=
    playable_grown reads sealed starts playable goes distinct
  obtain ⟨later', rec', decodes', held, signers, same⟩ := holds
  obtain rfl : later = later' := Except.ok.inj (decodes.symm.trans decodes')
  have shows : shown setting system place.node = .ok (later.project setting.rules setting.crypto setting.params) := by
    rw [shown, decodes]
    rfl
  refine (kept.settle shows).resolve_right fun quiet => ?_
  obtain ⟨-, chains, -⟩ := quiet
  obtain ⟨parsed, mv, read, legal'⟩ := legal_of_listed faithful listed honest legal
  have walked : Walked setting.crypto state setting.params
      (walk setting.rules setting.crypto state setting.params none) := walked_walk valid
  have ply : before.ply + 1 = (walk setting.rules setting.crypto state setting.params none).ply := by
    rw [is]
    exact NextMove.ply_succ valid honest
  have chain : before.chain = (walk setting.rules setting.crypto state setting.params none).chain := by
    rw [is]
    simp [project, honest]
  rw [moveOf, ply, chain, ← walked.parent_eq] at body
  rw [ply] at mover
  have signer : rec'.signer = setting.params.keyOf
      (colorAtPly (walk setting.rules setting.crypto state setting.params none).ply) := by
    rw [signers, mover]
    exact (GameParams.keyOf_of_colorOf owner).symm
  have undecided := playable.undecided
  rw [is] at undecided chains
  have continues := chain_continues undecided valid' honest clean grows held (same.trans body) signer read legal'
  rw [chains] at continues
  have longer := continues.length_le
  rw [List.length_append, List.length_singleton] at longer
  exact absurd longer (Nat.not_succ_le_self _)

theorem signs_of_still (alternates : setting.rules.Alternates) (signs : setting.crypto.Signs)
    (ends : GameState.decode setting.crypto setting.reader [] = none) {host : Host}
    (stores : ∀ i, host.writes i = true)
    (replica : host.contractState place.address = some (system.stored place.node)) {status : Status}
    (shows : shown setting system place.node = .ok status) (undecided : status.decision = none)
    (same : status.chain = before.chain) {record : GameRecord}
    (seated : Seated setting place label record (session setting system place.color).store)
    (fresh : Fresh setting (before.ply + 1) (moveOf setting before uci) record (session setting system place.color)) :
    ∃ rec : Record, (handleSign setting.rules setting.crypto setting.reader setting.secrets host
        (session setting system place.color).store place.origin (gameId setting) (moveOf setting before uci)).2 =
          .signed rec ∧
      rec.verify setting.crypto setting.params = true ∧ rec.body = moveOf setting before uci ∧
      rec.color setting.params = some place.color := by
  have sound : Signing.Sound setting.crypto (session setting system place.color) := Signing.sound_serve sealed _
  have loaded := loadGame_of_bound sound sealed seated.bound
  rw [seated.gameId_eq] at loaded
  obtain ⟨held, stored, -, format, -⟩ := sound.games _ _ ((sound.loadGame_eq_some sealed).1 loaded)
  obtain rfl := GameRecord.encode_injective stored
  have still := still_playable reads sealed starts playable goes distinct shows undecided same
  obtain ⟨moves, mover⟩ := mover_of_playable reads sealed starts playable goes distinct alternates
  rw [← seated.contract] at replica
  have legal : locallyKnownToBeIllegal setting.rules setting.crypto setting.reader host record
      (moveOf setting before uci) = false :=
    notIllegal_of_playable ends replica seated.params shows undecided still.legal
  obtain ⟨updated, granted⟩ := decideSign_of_fresh seated format playable.inside moves mover fresh
  obtain ⟨seed, answer⟩ := signs_of_granted sound sealed seated stores legal granted
  obtain ⟨record', -, seed', color, loaded', -, -, made, player, side⟩ :=
    PlyCap.signed_by_player sound (Bookkeeping.allKept_serve sealed _) sealed answer
  obtain rfl := Option.some.inj (loaded.symm.trans loaded')
  rw [seated.params] at made player
  obtain rfl : place.color = color := PlyCap.ofColor_injective (seated.side.symm.trans side)
  refine ⟨_, answer, ?_, rfl, ?_⟩
  · rw [made]
    refine (PlyCap.verify_sign signs (by rw [player]; rfl)).2 fun ply own => ?_
    obtain rfl := Option.some.inj own
    exact playable.inside
  · rw [made]
    exact player

theorem move_of_grown (alternates : setting.rules.Alternates)
    (player : setting.params.colorOf (setting.params.keyOf place.color) = some place.color) {record : GameRecord}
    (fresh : Fresh setting (before.ply + 1) (moveOf setting before uci) record (session setting system place.color))
    {status : Status} (shows : shown setting system place.node = .ok status) (other : status.chain ≠ before.chain) :
    ∃ (later : GameState) (id : RecordId) (rec : Record),
      decodeState setting.crypto setting.reader (system.stored place.node) = .ok later ∧
      later.records[id]? = some rec ∧ rec.color setting.params = some place.color ∧
      rec.body = moveOf setting before uci ∧ before.chain ++ [id] <+: status.chain := by
  obtain ⟨-, mover⟩ := mover_of_playable reads sealed starts playable goes distinct alternates
  obtain ⟨state, later, decodes, is, -, valid, valid', honest, clean, grows⟩ :=
    playable_grown reads sealed starts playable goes distinct
  obtain ⟨later', decodes', shows', -, -, vouched⟩ :=
    (genuine_reaches reads (starts.trans (reaches_of_retains goes)) place.node).shown_eq
  obtain rfl : later = later' := Except.ok.inj (decodes.symm.trans decodes')
  obtain rfl := Except.ok.inj (shows'.symm.trans shows)
  have ply : before.ply + 1 = (walk setting.rules setting.crypto state setting.params none).ply := by
    rw [is]
    exact NextMove.ply_succ valid honest
  have chain : before.chain = (walk setting.rules setting.crypto state setting.params none).chain := by
    rw [is]
    simp [project, honest]
  have chain' : (later.project setting.rules setting.crypto setting.params).chain =
      (walk setting.rules setting.crypto later setting.params none).chain := by
    simp [project, clean]
  rcases Relation.ReflTransGen.cases_head grows with same | ⟨next, taken, further⟩
  · rw [chain, chain', same] at other
    exact absurd rfl other
  · obtain ⟨-, -, id, mv, single, rfl⟩ := walkStep_eq_some.1 taken
    obtain ⟨rec, spelled, parsed, held, body, signer, -⟩ := mem_candidates.1 (candidates_eq_singleton.1 single).1
    have owner : rec.color setting.params = some place.color := by
      rw [Record.color, signer, ← ply, mover]
      exact player
    obtain ⟨said, released, -, same⟩ := (vouched rec (mem_valuesOf.2 ⟨id, held⟩)).1
      (allValid_iff.1 valid' id rec held) place.color owner
    refine ⟨later, id, rec, decodes, held, owner, ?_, ?_⟩
    · rw [← ply] at body
      exact same.symm.trans (fresh.only said released _ _ (same.trans body))
    · rw [chain, chain']
      exact chain_of_reaches further

end Playing

/-- A call that is answered, at a host that stores what it is told to. -/
def Works (moment : Moment setting Node) : Prop := moment.fault = none ∧ ∀ i, moment.writes i = true

theorem run_of_works {α : Type} (works : Works (seat.moments 0))
    (call : Moment setting Node → StateM (System Node) (Except String α)) :
    (during setting place call).run seat = ((call (seat.moments 0) (arriving seat)).1,
      ⟨(call (seat.moments 0) (arriving seat)).2, fun n => seat.moments (n + 1)⟩) := by
  have applied : Migration.Fault.apply (call (seat.moments 0)) (seat.moments 0).fault (arriving seat) =
      call (seat.moments 0) (arriving seat) := by
    rw [works.1]
    rfl
  rw [← applied]
  rfl

theorem opens_of_works (reads : setting.reader.RoundTrips) (sealed : setting.secrets.RoundTrips)
    (starts : Relation.ReflTransGen (Next setting) (System.start Node) start)
    (address : place.instanceId setting.params.encode wasm = place.address)
    (fit : Fit start before label uci playing seat) (works : ∀ n, Works (seat.moments n)) :
    ∃ game seat', perform (openGame setting.rules setting.crypto setting.reader place.instanceId label wasm) seat =
      (.ok game, seat') ∧ ∀ n, Works (seat'.moments n) := by
  obtain ⟨record, seated, -⟩ := fit.arriving.game
  obtain ⟨seed, key⟩ := Migration.key_of_bound (Signing.sound_serve sealed _) sealed seated.bound
  obtain ⟨game, found⟩ := Migration.findBound_listed setting.crypto seated.owner key seated.bound
  obtain ⟨params, contract, -, -⟩ := found_of_seated seated found
  have listed := run_of_works (works 0) (askDelegate setting place .listGames)
  generalize middle' : (⟨_, fun n => seat.moments (n + 1)⟩ : Seat setting place) = middle at listed
  have bound : perform (Session.boundGame label) seat = (.ok game, middle) :=
    (perform_boundGame listed).trans (by rw [found])
  have build : expectedContainer place.instanceId label wasm game.params game.contract =
      .ok ⟨setting.params.encode, wasm⟩ := by
    rw [params, contract]
    unfold expectedContainer contractContainer
    dsimp only
    rw [address, if_neg (not_not.2 rfl)]
  have fit' : Fit start before label uci playing middle := by
    rw [← middle']
    exact ⟨fit.arriving.list _, fit.calm.next rfl, fit.quiet.next rfl⟩
  have works' : ∀ n, Works (middle.moments n) := by
    rw [← middle']
    exact fun n => works (n + 1)
  obtain ⟨state, decodes, -⟩ := genuine_reaches reads (starts.trans (reaches_of_retains fit'.arriving.goes))
    place.node
  have answers := run_of_works (works' 0) (fun _ => readReplica place place.address)
  have replica : (readReplica place place.address (arriving middle)).1 =
      .ok (some ((arriving middle).stored place.node)) := by simp [readReplica]
  rw [replica, ← contract] at answers
  have fetched := perform_fetchState answers (InSync.fetchState_eq_some.2 decodes)
  exact ⟨_, _, perform_openGame bound build fetched, fun n => works' (n + 1)⟩

theorem asked_answered (response : Response) (game : OpenGame) : Moves (fun system system' : System Node =>
    ∀ color, system.asked color <+: system'.asked color)
      (do let rec ← liftExcept (signedOf response)
          sendAndRead game rec : Client (Seat setting place) Status) :=
  Moves.bind allowed_asked (Moves.lift allowed_asked _) fun rec => asked_sendAndRead game rec

theorem asked_signAndSubmit (game : OpenGame) (said : Body) : Moves (fun system system' : System Node =>
    ∀ color, system.asked color <+: system'.asked color) (signAndSubmit setting.rules setting.crypto setting.reader
      place.instanceId game said : Client (Seat setting place) Status) :=
  Moves.bind allowed_asked (moves_delegate allowed_asked _ _) fun response => asked_answered response game

section Last
variable (reads : setting.reader.RoundTrips) (sealed : setting.secrets.RoundTrips)
    (alternates : setting.rules.Alternates)
  (faithful : setting.rules.RoundTrips) (listed : Listed setting.rules)
  (starts : Relation.ReflTransGen (Next setting) (System.start Node) start)
  (playable : Playable setting place start before uci)
include reads sealed alternates faithful listed starts playable

theorem gone_of_sendAndRead (fit : Fit start before label uci True seat) (works : Works (seat.moments 0))
    {game : OpenGame} (address : place.instanceId game.container.parameters game.container.code = place.address)
    {rec : Record} (released : (gameId setting, rec) ∈ (session setting seat.system place.color).released)
    (valid : rec.verify setting.crypto setting.params = true) (body : rec.body = moveOf setting before uci)
    (owner : rec.color setting.params = some place.color)
    (distinct : Distinct setting (perform (sendAndRead game rec) seat).2.system) :
    Fit start before label uci False (perform (sendAndRead game rec) seat).2 := by
  have arrived := fit.arriving
  have vouched : Vouched setting (arriving seat) rec :=
    (fit.kept.vouched sealed released).mono (asked_reaches (reaches_of_retains fit.calm.arriving))
  have genuine := genuine_reaches reads (starts.trans (reaches_of_retains arrived.goes)) place.node
  obtain ⟨result, accepts⟩ := accepts_of_genuine reads genuine valid
  obtain ⟨sent, sends⟩ : ∃ sent, react setting (arriving seat)
      (.update place.node [.delta (encodeRecords [rec])]) = sent := ⟨_, rfl⟩
  have written : writeReplica setting place (place.instanceId game.container.parameters game.container.code)
      (.delta (encodeRecords [rec])) (arriving seat) = (.ok (), sent) := by
    unfold writeReplica
    rw [if_pos address, accepts, ← sends]
  have answers : (NodeClient.update (place.instanceId game.container.parameters game.container.code)
      (encodeRecords [rec])).run seat =
        (.ok (), (⟨sent, fun n => seat.moments (n + 1)⟩ : Seat setting place)) := by
    have run := run_of_works works fun _ => writeReplica setting place
      (place.instanceId game.container.parameters game.container.code) (.delta (encodeRecords [rec]))
    rwa [written] at run
  have asked : ∀ color, sent.asked color <+: (perform (sendAndRead game rec) seat).2.system.asked color := by
    intro color
    rw [sendAndRead, perform_call_bind answers]
    have moves : Moves (fun system system' : System Node => ∀ color, system.asked color <+: system'.asked color)
        (do let state ← fetchState setting.crypto setting.reader game.view.contract
            return state.project setting.rules setting.crypto game.view.params :
              Client (Seat setting place) Status) :=
      Moves.bind allowed_asked (moves_fetchState allowed_asked _) fun state => Moves.pure allowed_asked _
    exact moves ⟨sent, _⟩ color
  have kept : Kept setting place start before label uci True sent := by
    have moved := arrived.update reads vouched (place.instanceId game.container.parameters game.container.code)
    rw [written] at moved
    exact moved
  have distinct' : Distinct setting (arriving seat) := by
    refine distinct.mono fun color => ?_
    have same : sent.asked = (arriving seat).asked := by
      rw [← sends]
      exact asked_keep ..
    rw [← same]
    exact asked color
  have holds : Holds setting (sent.stored place.node) rec := by
    have stored : sent.stored place.node = result := by
      rw [← sends, react, accepts]
      exact Function.update_self ..
    have carries : [UpdateData.delta (encodeRecords [rec])].flatMap
        (StateSize.carried setting.crypto setting.reader) = [rec] := by
      rw [List.flatMap_singleton]
      exact deltaOf_encode reads [rec]
    rw [stored]
    refine holds_updateState reads genuine (fun rec' member => ?_) distinct'.free accepts
      (alone_of_move sealed distinct'.bodies valid vouched body) (.inr ?_)
    · rw [carries] at member
      rw [List.mem_singleton.1 member]
      exact vouched
    · rw [carries]
      exact List.mem_singleton_self _
  have gone := gone_of_held reads sealed starts playable kept.goes (distinct.mono asked)
    alternates faithful listed kept
    holds body owner
  obtain ⟨record, seated, -⟩ := kept.game
  have fit' : Fit start before label uci False (⟨sent, fun n => seat.moments (n + 1)⟩ : Seat setting place) :=
    ⟨⟨kept.goes, record, seated, .inl gone⟩, fit.calm.next rfl, fit.quiet.next rfl⟩
  rw [sendAndRead, perform_call_bind answers]
  exact fit_bind (fit_fetchState fit' _) fun state seat' _ fit'' => fit''

theorem gone_of_signAndSubmit (signs : setting.crypto.Signs)
    (ends : GameState.decode setting.crypto setting.reader [] = none) (fit : Fit start before label uci True seat)
    (works : ∀ n, Works (seat.moments n)) {game : OpenGame} (known : game.view.gameId = gameId setting)
    (address : place.instanceId game.container.parameters game.container.code = place.address)
    (distinct : Distinct setting (perform (signAndSubmit setting.rules setting.crypto setting.reader place.instanceId
      game (moveOf setting before uci)) seat).2.system) :
    Fit start before label uci False (perform (signAndSubmit setting.rules setting.crypto setting.reader
      place.instanceId game (moveOf setting before uci)) seat).2 := by
  have arrived := fit.arriving
  obtain ⟨state, decodes, -⟩ := genuine_reaches reads (starts.trans (reaches_of_retains arrived.goes)) place.node
  have shows : shown setting (arriving seat) place.node =
      .ok (state.project setting.rules setting.crypto setting.params) := by
    rw [shown, decodes]
    rfl
  rcases arrived.settle shows with gone | ⟨undecided, same, record, seated, fresh⟩
  · obtain ⟨record, seated, -⟩ := arrived.game
    exact fit_signAndSubmit reads sealed fit.calm fit.quiet ⟨arrived.goes, record, seated, .inl gone⟩ known
      (.inl gone)
  · obtain ⟨middle, is⟩ : ∃ middle : Seat setting place, middle = ⟨(askDelegate setting place
      (.sign (gameId setting) (moveOf setting before uci)) (seat.moments 0) (arriving seat)).2,
        fun n => seat.moments (n + 1)⟩ := ⟨_, rfl⟩
    have answers : (NodeClient.delegate (.sign (gameId setting) (moveOf setting before uci))).run seat =
        (.ok (handleSign setting.rules setting.crypto setting.reader setting.secrets
          (hostOf setting place (seat.moments 0) (arriving seat)) (session setting (arriving seat) place.color).store
            place.origin (gameId setting) (moveOf setting before uci)).2, middle) := by
      rw [is]
      exact run_of_works (works 0) _
    rw [signAndSubmit_eq, known, perform_call_bind answers] at distinct ⊢
    have asked : ∀ color, (arriving seat).asked color <+: middle.system.asked color := by
      rw [is]
      exact asked_grows (next_ask _ _ _)
    have distinct' : Distinct setting (arriving seat) :=
      distinct.mono fun color => (asked color).trans (asked_answered _ game middle color)
    have stores : ∀ i, (hostOf setting place (seat.moments 0) (arriving seat)).writes i = true := (works 0).2
    have replica : (hostOf setting place (seat.moments 0) (arriving seat)).contractState place.address =
        some ((arriving seat).stored place.node) := if_pos rfl
    obtain ⟨rec, signed, valid, body, owner⟩ := signs_of_still reads sealed starts playable arrived.goes distinct'
      alternates signs ends stores replica shows undecided same seated fresh
    rw [signed] at answers distinct ⊢
    have answer : signedOf (.signed rec) = .ok rec := rfl
    rw [perform_lift_bind answer] at distinct ⊢
    have fit' : Fit start before label uci True middle := by
      rw [is]
      exact ⟨arrived.sign sealed _ (.inr rfl), fit.calm.next rfl, fit.quiet.next rfl⟩
    have works' : Works (middle.moments 0) := by
      rw [is]
      exact works 1
    exact gone_of_sendAndRead reads sealed alternates faithful listed starts playable fit' works' address
      (released_of_signed answers) valid body owner distinct

theorem gone_of_playMove (signs : setting.crypto.Signs)
    (ends : GameState.decode setting.crypto setting.reader [] = none)
    (address : place.instanceId setting.params.encode wasm = place.address)
    (fit : Fit start before label uci True seat) (works : ∀ n, Works (seat.moments n))
    (distinct : Distinct setting (perform (playMove setting.rules setting.crypto setting.reader place.instanceId label
      uci wasm) seat).2.system) :
    Fit start before label uci False (perform (playMove setting.rules setting.crypto setting.reader place.instanceId
      label uci wasm) seat).2 := by
  obtain ⟨game, middle, opening, works'⟩ := opens_of_works reads sealed starts address fit works
  have opened := opened_of_fit fit opening
  have fit' := fit_openGame fit wasm
  unfold playMove submit at distinct ⊢
  rw [perform_bind, opening] at distinct ⊢
  rw [opening] at fit'
  dsimp only at distinct fit' ⊢
  rcases fit'.kept.settle opened.shown_eq with gone | ⟨undecided, same, -⟩
  · obtain ⟨record, seated, -⟩ := fit'.kept.game
    have gone' : Fit start before label uci False middle :=
      ⟨⟨fit'.kept.goes, record, seated, .inl gone⟩, fit'.calm, fit'.quiet⟩
    exact fit_decide reads sealed playable.shows gone' opened
  · have asked := Moves.bind allowed_asked (Moves.lift allowed_asked
      (moveBody setting.rules setting.crypto uci game.view)) (fun said => asked_signAndSubmit game said) middle
    have decides := decides_of_still reads sealed starts playable fit'.kept.goes (distinct.mono asked)
      opened undecided
      same
    rw [perform_lift_bind decides] at distinct ⊢
    exact gone_of_signAndSubmit reads sealed alternates faithful listed starts playable signs ends fit' works'
      opened.gameId opened.address distinct

end Last

def Landed (setting : Setting) (place : Place Node) (before : Status) (uci : String) (system : System Node) : Prop :=
  ∃ (status : Status) (rec : Record), shown setting system place.node = .ok status ∧
    rec ∈ StateSize.recordsOf setting.crypto setting.reader (system.stored place.node) ∧
    rec.color setting.params = some place.color ∧ rec.body = moveOf setting before uci ∧
    before.chain ++ [rec.id setting.crypto] <+: status.chain

theorem landed_of_gone (reads : setting.reader.RoundTrips) (sealed : setting.secrets.RoundTrips)
    (alternates : setting.rules.Alternates)
    (starts : Relation.ReflTransGen (Next setting) (System.start Node) start)
    (playable : Playable setting place start before uci)
    (player : setting.params.colorOf (setting.params.keyOf place.color) = some place.color)
    (gone : GoneOn setting place start before uci system) (distinct : Distinct setting system) :
    (∃ reading status, Relation.ReflTransGen (Retains setting place.node) start reading ∧
      Relation.ReflTransGen (Retains setting place.node) reading system ∧
      shown setting reading place.node = .ok status ∧ status.decision ≠ none) ∨
    Landed setting place before uci system := by
  obtain ⟨reading, status, record, first, second, fresh, shows, other⟩ := gone
  by_cases undecided : status.decision = none
  · have other := other.resolve_left (not_not.2 undecided)
    have early : Distinct setting reading := distinct.mono (asked_reaches (reaches_of_retains second))
    have reached := starts.trans (reaches_of_retains first)
    obtain ⟨later, id, rec, decodes, held, owner, body, grown⟩ :=
      move_of_grown reads sealed starts playable first early
      alternates player fresh shows other
    obtain ⟨later', final, decodes', decodes'', -, -, -, -, kept, -⟩ :=
      grown_of_retains reads sealed reached second distinct.bodies distinct.free
    obtain rfl : later = later' := Except.ok.inj (decodes.symm.trans decodes')
    obtain ⟨rec', held', signers, same⟩ := kept id rec held (.inr ⟨_, _, _, body⟩)
    obtain ⟨final', decodes', shows', keyed, -⟩ :=
      (genuine_reaches reads (reached.trans (reaches_of_retains second)) place.node).shown_eq
    obtain rfl : final = final' := Except.ok.inj (decodes''.symm.trans decodes')
    obtain ⟨_, _, shown, shown', goesOn⟩ :=
      shown_of_retains reads sealed reached second distinct.bodies distinct.free
    obtain rfl := Except.ok.inj (shows.symm.trans shown)
    obtain rfl := Except.ok.inj (shows'.symm.trans shown')
    refine .inr ⟨_, rec', shows', ?_, ?_, same.trans body, ?_⟩
    · rw [StateSize.recordsOf, decodes'']
      exact mem_valuesOf.2 ⟨id, held'⟩
    · rw [Record.color, signers]
      exact owner
    · rw [keyed id rec' held']
      exact grown.trans goesOn
  · exact .inl ⟨reading, status, first, second, shows, undecided⟩

section Shifting
variable {α β : Type} {flow : Client (Seat setting place) α} {next : α → Client (Seat setting place) β}
  {least : Nat}

def Shifts (least : Nat) (flow : Client (Seat setting place) α) : Prop :=
  ∀ seat, ∃ calls ≥ least, (perform flow seat).2.moments = fun n => seat.moments (n + calls)

theorem shifts_call (context : String) (call : Moment setting Node → StateM (System Node) (Except String α)) :
    Shifts 1 (Session.call context (during setting place call)) :=
  fun _ => ⟨1, le_rfl, rfl⟩

theorem Shifts.weaken (shifts : Shifts least flow) : Shifts 0 flow := by
  intro seat
  obtain ⟨calls, -, moments⟩ := shifts seat
  exact ⟨calls, Nat.zero_le calls, moments⟩

theorem Shifts.bind (first : Shifts least flow) (second : ∀ value, Shifts 0 (next value)) :
    Shifts least (flow >>= next) := by
  intro seat
  obtain ⟨calls, enough, moments⟩ := first seat
  rw [perform_bind]
  cases done : perform flow seat with
  | mk outcome middle =>
    rw [done] at moments
    cases outcome with
    | error fault => exact ⟨calls, enough, moments⟩
    | ok value =>
      obtain ⟨more, -, moments'⟩ := second value middle
      refine ⟨calls + more, Nat.le_add_right_of_le enough, ?_⟩
      dsimp only at moments moments' ⊢
      rw [moments', moments]
      exact funext fun n => congrArg seat.moments (by omega)

theorem shifts_lift (outcome : Except SessionError α) :
    Shifts 0 (liftExcept outcome : Client (Seat setting place) α) := by
  intro seat
  rw [perform_lift]
  exact ⟨0, le_rfl, rfl⟩

theorem shifts_pure (value : α) : Shifts 0 (pure value : Client (Seat setting place) α) :=
  fun _ => ⟨0, le_rfl, rfl⟩

theorem shifts_fetchState (contract : Bytes32) : Shifts 0 (fetchState setting.crypto setting.reader contract :
    Client (Seat setting place) GameState) := by
  refine Shifts.bind (shifts_call _ _).weaken fun bytes => ?_
  cases InSync.fetchState setting.crypto setting.reader (bytes.getD []) with
  | some state => exact shifts_pure state
  | none => exact fun _ => ⟨0, le_rfl, rfl⟩

theorem shifts_signAndSubmit (game : OpenGame) (said : Body) : Shifts 0 (signAndSubmit setting.rules setting.crypto
    setting.reader place.instanceId game said : Client (Seat setting place) Status) := by
  refine Shifts.bind (shifts_call _ _).weaken fun response => Shifts.bind (shifts_lift _) fun rec => ?_
  refine Shifts.bind (shifts_call _ _).weaken fun _ => ?_
  exact Shifts.bind (shifts_fetchState _) fun state => shifts_pure _

theorem shifts_submit (body : GameView → Except SessionError Body) (label : String) (wasm : Bytes) :
    Shifts 1 (submit setting.rules setting.crypto setting.reader place.instanceId body label wasm :
      Client (Seat setting place) Status) := by
  have opens : Shifts 1 (openGame setting.rules setting.crypto setting.reader place.instanceId label wasm :
      Client (Seat setting place) OpenGame) := by
    refine Shifts.bind (Shifts.bind (shifts_call _ _) fun response => ?_) fun game => ?_
    · exact Shifts.bind (shifts_lift _) fun games => shifts_lift _
    · refine Shifts.bind (shifts_lift _) fun container => ?_
      exact Shifts.bind (shifts_fetchState _) fun state => shifts_pure _
  exact Shifts.bind opens fun game => Shifts.bind (shifts_lift _) fun said => shifts_signAndSubmit game said

end Shifting

def attempt (label uci : String) (wasm : Bytes) (seat : Seat setting place) : Seat setting place :=
  (perform (playMove setting.rules setting.crypto setting.reader place.instanceId label uci wasm) seat).2

theorem fit_attempts (reads : setting.reader.RoundTrips) (sealed : setting.secrets.RoundTrips)
    (shows : shown setting start place.node = .ok before) (fit : Fit start before label uci playing seat)
    (wasm : Bytes) (attempts : Nat) : Fit start before label uci playing
      ((attempt label uci wasm)^[attempts] seat) := by
  induction attempts with
  | zero => exact fit
  | succ attempts ih =>
    rw [Function.iterate_succ_apply']
    exact fit_playMove reads sealed shows ih wasm

theorem moments_attempts (seat : Seat setting place) (label uci : String) (wasm : Bytes) (attempts : Nat) :
    ∃ calls ≥ attempts,
    ((attempt label uci wasm)^[attempts] seat).moments = fun n => seat.moments (n + calls) := by
  induction attempts with
  | zero => exact ⟨0, le_rfl, rfl⟩
  | succ attempts ih =>
    obtain ⟨calls, enough, moments⟩ := ih
    obtain ⟨more, some', moments'⟩ := shifts_submit (moveBody setting.rules setting.crypto uci) label wasm
      ((attempt label uci wasm)^[attempts] seat)
    refine ⟨calls + more, Nat.add_le_add enough some', ?_⟩
    rw [Function.iterate_succ_apply']
    refine moments'.trans (funext fun n => ?_)
    rw [moments]
    exact congrArg seat.moments (by omega)

end Attempts

/-- A lost move can be sent again. The player's delegate holds the game and has signed no other
move of that ply (`seated`, `fresh`), nobody else asks it for anything (`quiet`), and the replica
is not replaced by a foreign state (`calm`). If all calls work from some time on, then after as
many attempts the move is on the board, or the game was over first. Whatever calls or answers
were lost before, and whatever else happened between them, the move is there as it was first
decided on. -/
theorem lost_move_lands [DecidableEq Node] (setting : Setting) (place : Place Node) (seat : Seat setting place)
    (label uci : String) (wasm : Bytes) (before : Status) (record : GameRecord) (attempts : Nat)
    (reads : setting.reader.RoundTrips) (sealed : setting.secrets.RoundTrips) (signs : setting.crypto.Signs)
    (alternates : setting.rules.Alternates) (faithful : setting.rules.RoundTrips) (listed : Listed setting.rules)
    (ends : GameState.decode setting.crypto setting.reader [] = none)
    (address : place.instanceId setting.params.encode wasm = place.address)
    (starts : Relation.ReflTransGen (Next setting) (System.start Node) seat.system) (calm : Calm seat)
    (quiet : Quiet seat)
    (seated : Seated setting place label record (session setting seat.system place.color).store)
    (fresh : Fresh setting (before.ply + 1) (moveOf setting before uci) record
      (session setting seat.system place.color))
    (playable : Playable setting place seat.system before uci) (works : ∀ n ≥ attempts, Works (seat.moments n))
    (bodies : ∀ color, setting.crypto.CollisionFree (bodyHashInput '' {body |
      ∃ call ∈ ((attempt label uci wasm)^[attempts + 1] seat).system.asked color, ∃ gameId,
        call.request = .sign gameId body}))
    (free : setting.crypto.CollisionFree (Record.idInput '' {rec |
      ∃ color, Stated setting ((attempt label uci wasm)^[attempts + 1] seat).system color rec})) :
    (∃ reading status, Relation.ReflTransGen (Retains setting place.node) seat.system reading ∧
      Relation.ReflTransGen (Retains setting place.node) reading
        ((attempt label uci wasm)^[attempts + 1] seat).system ∧
      shown setting reading place.node = .ok status ∧ status.decision ≠ none) ∨
    Landed setting place before uci ((attempt label uci wasm)^[attempts + 1] seat).system := by
  have fit : Fit seat.system before label uci True seat :=
    ⟨⟨.refl, record, seated, .inr ⟨trivial, fresh⟩⟩, calm, quiet⟩
  have last := fit_attempts reads sealed playable.shows fit wasm attempts
  obtain ⟨calls, enough, moments⟩ := moments_attempts seat label uci wasm attempts
  have works' : ∀ n, Works (((attempt label uci wasm)^[attempts] seat).moments n) := by
    intro n
    rw [moments]
    exact works (n + calls) (enough.trans (Nat.le_add_left calls n))
  have distinct : Distinct setting ((attempt label uci wasm)^[attempts + 1] seat).system := ⟨bodies, free⟩
  rw [Function.iterate_succ_apply'] at distinct ⊢
  have gone := gone_of_playMove reads sealed alternates faithful listed starts playable signs ends address last works'
    distinct
  obtain ⟨record', seated', gone' | impossible⟩ := gone.kept.game
  · exact landed_of_gone reads sealed alternates starts playable (player_of_seated sealed seated') gone' distinct
  · exact impossible.1.elim

section Sample
open Signing

noncomputable def lostSeat : Seat sampleSetting samplePlace :=
  ⟨sampleGame, fun n =>
    { (sampleSeat sampleGame).moments n with fault := if n = 0 then some (.fails "no node") else none }⟩

theorem lostSeat_attempt : attempt "white" "e2e4" [] lostSeat = sampleSeat sampleGame := rfl

theorem lostSeat_seated : Seated sampleSetting samplePlace "white" sampleRecord
    (session sampleSetting sampleGame .white).store := by
  rw [sampleGame_session]
  exact ⟨sampleBound_bound, sampleBound_owner, rfl, rfl, rfl, rfl⟩

theorem lostSeat_fresh : Fresh sampleSetting
    ((GameState.empty.project Sample.rules Sample.crypto sampleParams).ply + 1)
    (moveOf sampleSetting (GameState.empty.project Sample.rules Sample.crypto sampleParams) "e2e4") sampleRecord
    (session sampleSetting sampleGame .white) := by
  rw [sampleGame_session, sample_opening_next.1]
  exact ⟨.inl (by decide), fun rec member => by cases member⟩

theorem lostSeat_playable : Playable sampleSetting samplePlace sampleGame
    (GameState.empty.project Sample.rules Sample.crypto sampleParams) "e2e4" := by
  refine ⟨rfl, ?_, ?_, ⟨.empty, rfl, ?_⟩, ?_⟩
  · decide +kernel
  · decide +kernel
  · decide +kernel
  · decide +kernel

theorem lost_move_lands_again : ∃ (before : Status) (final : System Bool),
    (attempt "white" "e2e4" [])^[2] lostSeat = sampleSeat final ∧
    ((∃ reading status, Relation.ReflTransGen (Retains sampleSetting true) sampleGame reading ∧
        Relation.ReflTransGen (Retains sampleSetting true) reading final ∧
        shown sampleSetting reading true = .ok status ∧ status.decision ≠ none) ∨
      Landed sampleSetting samplePlace before "e2e4" final) := by
  obtain ⟨final, played, submitted⟩ :=
    sample_submit sample_opening_decides sample_opening_granted (by decide +kernel)
  have bodies := submitted.bodies
  have free := submitted.statements
  have again : (attempt "white" "e2e4" [])^[1 + 1] lostSeat = sampleSeat final := by
    rw [Function.iterate_succ_apply, lostSeat_attempt, Function.iterate_one]
    exact congrArg Prod.snd played
  have address : samplePlace.instanceId sampleParams.encode [] = zeros := by simp [samplePlace]
  have works : ∀ n ≥ 1, Works (lostSeat.moments n) := by
    intro n later
    cases n with
    | zero => cases later
    | succ n => exact ⟨rfl, fun _ => rfl⟩
  rw [← show (sampleSeat final).system = final from rfl, ← again] at bodies free
  have lands := lost_move_lands sampleSetting samplePlace lostSeat "white" "e2e4" []
    (GameState.empty.project Sample.rules Sample.crypto sampleParams) sampleRecord 1 Reader.exact_roundTrips
    SecretReader.exact_roundTrips Sample.crypto_signs Sample.rules_alternates Sample.rules_roundTrips sample_listed
    sample_unread address sampleGame_reached (fun _ _ => .refl) (fun _ _ => rfl) lostSeat_seated lostSeat_fresh
    lostSeat_playable works bodies free
  rw [again] at lands
  exact ⟨_, final, again, lands⟩

end Sample

end Adjourn.Resending
