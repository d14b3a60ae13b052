import Adjourn.AcceptDraw
import Adjourn.Migration
import Adjourn.Network

/-! The flows of a player: open the game, decide what to have signed, have the delegate sign
it and submit it. And a seat at the game, from which they are run: a node with a replica and a
delegate, where anything may happen between two calls. -/

namespace Adjourn.Flows
open Cbor GameState Contract Delegate Session Network

section Bodies
variable (rules : Rules) (crypto : Crypto)

def unlessOver (body : GameView → Except SessionError Body) (view : GameView) : Except SessionError Body :=
  if view.status.isOver then .error (.bail "the game is already over") else body view

/-- The checks of `play_move` spare the delegate a request, and guarantee nothing. -/
def moveBody (uci : String) : GameView → Except SessionError Body := unlessOver fun view =>
  if Side.ofColor view.status.turn ≠ view.side then .error (.bail "it is not your turn")
  else if !(view.state.legalMoves rules crypto view.params).any (· == uci) then
    .error (.bail (uci ++ " is not a legal move in the current position"))
  else .ok (.move (view.status.ply + 1) (headOf crypto view.params view.status.chain) uci)

def resignBody : GameView → Except SessionError Body := unlessOver fun _ => .ok .resign

/-- An offer expires once the game moves on from the head that it names. -/
def offerBody : GameView → Except SessionError Body := unlessOver fun view =>
  .ok (.drawOffer view.status.ply (headOf crypto view.params view.status.chain))

def acceptBody : GameView → Except SessionError Body := unlessOver fun view =>
  match AcceptDraw.offerToAccept crypto view with
  | none => .error (.bail "no live draw offer from your opponent to accept")
  | some offer => .ok (.drawAccept view.status.ply offer)

/-- A claim with no ground would only be a dead record in the state. -/
def claimBody : GameView → Except SessionError Body := unlessOver fun view =>
  if view.status.turn ≠ view.side.toColor then .error (.bail "only the player to move may claim a draw")
  else if view.status.repetitions < 3 ∧ view.status.halfmoveClock < 100 then
    .error (.bail ("no draw to claim: " ++ toString view.status.repetitions ++ " repetitions, " ++
      toString view.status.halfmoveClock ++ " halfmoves since a capture or pawn move"))
  else .ok (.drawClaim view.status.ply (headOf crypto view.params view.status.chain))

end Bodies

section Flows
variable {N : Type} [NodeClient N] (rules : Rules) (crypto : Crypto) (reader : Reader)
  (instanceId : Bytes → Bytes → Bytes32)

def submit (body : GameView → Except SessionError Body) (label : String) (wasm : Bytes) : Client N Status := do
  let game ← openGame rules crypto reader instanceId label wasm
  let body ← liftExcept (body game.view)
  signAndSubmit rules crypto reader instanceId game body

def playMove (label uci : String) (wasm : Bytes) : Client N Status :=
  submit rules crypto reader instanceId (moveBody rules crypto uci) label wasm

def resign (label : String) (wasm : Bytes) : Client N Status :=
  submit rules crypto reader instanceId resignBody label wasm

def drawOffer (label : String) (wasm : Bytes) : Client N Status :=
  submit rules crypto reader instanceId (offerBody crypto) label wasm

def drawClaim (label : String) (wasm : Bytes) : Client N Status :=
  submit rules crypto reader instanceId (claimBody crypto) label wasm

def openGameView (label : String) (wasm : Bytes) : Client N GameView := do
  return (← openGame rules crypto reader instanceId label wasm).view

def showLabel (label : String) (wasm : Bytes) : Client N Status := do
  return (← openGame rules crypto reader instanceId label wasm).view.status

inductive Command where
  | showLabel
  | playMove (uci : String)
  | resign
  | drawOffer
  | drawAccept
  | drawClaim

def Command.flow (label : String) (wasm : Bytes) : Command → Client N Status
  | .showLabel => Flows.showLabel rules crypto reader instanceId label wasm
  | .playMove uci => Flows.playMove rules crypto reader instanceId label uci wasm
  | .resign => Flows.resign rules crypto reader instanceId label wasm
  | .drawOffer => Flows.drawOffer rules crypto reader instanceId label wasm
  | .drawAccept => AcceptDraw.drawAccept rules crypto reader instanceId label wasm
  | .drawClaim => Flows.drawClaim rules crypto reader instanceId label wasm

theorem drawAccept_eq (label : String) (wasm : Bytes) :
    (AcceptDraw.drawAccept rules crypto reader instanceId label wasm : Client N Status) =
      submit rules crypto reader instanceId (acceptBody crypto) label wasm := by
  unfold AcceptDraw.drawAccept submit
  refine congrArg _ (funext fun game => ?_)
  unfold acceptBody unlessOver
  cases game.view.status.isOver with
  | true => rfl
  | false =>
    dsimp only
    cases AcceptDraw.offerToAccept crypto game.view <;> rfl

end Flows

/-- Whose seat it is, which replica and which caller it has, and the address of the game. -/
structure Place (Node : Type) where
  color : Color
  node : Node
  origin : Option Bytes32
  instanceId : Bytes → Bytes → Bytes32
  address : Bytes32

/-- The delegate of the seat has signed for no other player of the game. -/
def OwnKey (setting : Setting) {Node : Type} (place : Place Node) (system : System Node) : Prop :=
  ∀ rec color, (gameId setting, rec) ∈ (session setting system place.color).released →
    rec.color setting.params = some color → color = place.color

section Signed
variable {setting : Setting} {Node : Type} {place : Place Node}

theorem OwnKey.mono {early late : System Node} (asked : early.asked place.color <+: late.asked place.color)
    (own : OwnKey setting place late) : OwnKey setting place early := by
  obtain ⟨rest, asked⟩ := asked
  intro rec color member owner
  refine own rec color ?_ owner
  rw [session, ← asked]
  exact (Provenance.released_grows _ rest).subset member

theorem vouched_of_released {system : System Node} {other : GameId} {rec : Record}
    (sealed : setting.secrets.RoundTrips) (separates : Signing.Separates setting.crypto)
    (own : OwnKey setting place system)
    (released : (other, rec) ∈ (session setting system place.color).released) : Vouched setting system rec := by
  intro valid color owner
  have sound : Signing.Sound setting.crypto (session setting system place.color) := Signing.sound_serve sealed _
  obtain ⟨record, seed, held, -, -, signature⟩ := sound.signed _ released
  obtain ⟨kept, same, game, -⟩ := sound.games _ _ held
  obtain rfl := GameRecord.encode_injective same
  obtain ⟨-, -, -, checked⟩ := (Record.verify_iff _ _ _).1 valid
  have signature : rec = Record.sign setting.crypto seed record.params rec.body := signature
  rw [congrArg Record.signer signature, congrArg Record.sig signature] at checked
  have games : record.gameId setting.crypto = gameId setting := separates seed _ _ rec.body checked
  have mine : (gameId setting, rec) ∈ (session setting system place.color).released := by
    rw [← games, game]
    exact released
  obtain rfl := own rec color mine owner
  exact ⟨rec, mine, rfl, rfl⟩

end Signed

/-- What surrounds a call: whatever the others do meanwhile, what the delegate's host draws and
stores, and whether the call or its answer gets lost. -/
structure Moment (setting : Setting) (Node : Type) [DecidableEq Node] where
  meanwhile : System Node → System Node
  goes : ∀ system, Relation.ReflTransGen (Next setting) system (meanwhile system)
  draws : Bytes32 × Bytes32
  writes : Nat → Bool
  fault : Option Migration.Fault

structure Seat (setting : Setting) {Node : Type} [DecidableEq Node] (place : Place Node) where
  system : System Node
  moments : Nat → Moment setting Node

section Calls
variable (setting : Setting) {Node : Type} [DecidableEq Node] (place : Place Node)

def during {α : Type} (call : Moment setting Node → StateM (System Node) (Except String α)) :
    StateM (Seat setting place) (Except String α) := fun seat =>
  let moment := seat.moments 0
  let (answer, system) := Migration.Fault.apply (call moment) moment.fault (moment.meanwhile seat.system)
  (answer, ⟨system, fun n => seat.moments (n + 1)⟩)

/-- The node keeps a replica of the game, and no other contract. -/
def readReplica (id : Bytes32) : StateM (System Node) (Except String (Option Bytes)) := fun system =>
  (.ok (if id = place.address then some (system.stored place.node) else none), system)

def writeReplica (id : Bytes32) (data : UpdateData) : StateM (System Node) (Except String Unit) := fun system =>
  if id = place.address then
    match updateState setting.crypto setting.reader setting.params.encode (system.stored place.node) [data] with
    | .ok _ => (.ok (), react setting system (.update place.node [data]))
    | .error _ => (.error "the contract refused the update", system)
  else (.error "no state for the contract", system)

def hostOf (moment : Moment setting Node) (system : System Node) : Host :=
  ⟨moment.draws, fun id => if id = place.address then some (system.stored place.node) else none, moment.writes⟩

def askDelegate (request : Request) (moment : Moment setting Node) :
    StateM (System Node) (Except String Response) := fun system =>
  let host := hostOf setting place moment system
  (.ok (handle setting.rules setting.crypto setting.reader setting.secrets host
      (session setting system place.color).store place.origin request).2,
    react setting system (.ask place.color ⟨host, place.origin, request⟩))

instance seatNode : NodeClient (Seat setting place) where
  get id _ := during setting place fun _ => readReplica place id
  put container bytes := during setting place fun _ =>
    writeReplica setting place (place.instanceId container.parameters container.code) (.state bytes)
  update id bytes := during setting place fun _ => writeReplica setting place id (.delta bytes)
  delegate request := during setting place (askDelegate setting place request)
  nextUpdate := return .ok none

end Calls

section Seats
variable {setting : Setting} {Node : Type} [DecidableEq Node] {place : Place Node}

/-- A flow moves the game along a relation, wherever it is run and however it ends. -/
def Moves (related : System Node → System Node → Prop) {α : Type} (flow : Client (Seat setting place) α) : Prop :=
  ∀ seat, related seat.system (perform flow seat).2.system

structure Allowed (setting : Setting) {Node : Type} [DecidableEq Node] (place : Place Node)
    (related : System Node → System Node → Prop) : Prop where
  refl : ∀ system, related system system
  trans : ∀ a b c, related a b → related b c → related a c
  meanwhile : ∀ (moment : Moment setting Node) system, related system (moment.meanwhile system)
  ask : ∀ request moment system, related system (askDelegate setting place request moment system).2

section Calls
variable {α : Type}

theorem system_during (call : Moment setting Node → StateM (System Node) (Except String α))
    (seat : Seat setting place) :
    ((during setting place call).run seat).2.system = (seat.moments 0).meanwhile seat.system ∨
      ((during setting place call).run seat).2.system =
        (call (seat.moments 0) ((seat.moments 0).meanwhile seat.system)).2 := by
  change (Migration.Fault.apply (call (seat.moments 0)) _ _).2 = _ ∨
    (Migration.Fault.apply (call (seat.moments 0)) _ _).2 = _
  rcases Migration.Fault.apply_cases (call (seat.moments 0)) (seat.moments 0).fault
    ((seat.moments 0).meanwhile seat.system) with ⟨-, works⟩ | ⟨reason, failed | failed⟩
  · exact .inr (by rw [works])
  · exact .inl (by rw [failed])
  · exact .inr (by rw [failed])

theorem during_ok {call : Moment setting Node → StateM (System Node) (Except String α)}
    {seat seat' : Seat setting place} {value : α}
    (answered : (during setting place call).run seat = (.ok value, seat')) :
    call (seat.moments 0) ((seat.moments 0).meanwhile seat.system) = (.ok value, seat'.system) ∧
      seat'.moments = fun n => seat.moments (n + 1) := by
  obtain ⟨answer, after⟩ := Prod.mk.inj answered
  have answer : (Migration.Fault.apply (call (seat.moments 0)) (seat.moments 0).fault
    ((seat.moments 0).meanwhile seat.system)).1 = .ok value := answer
  rcases Migration.Fault.apply_cases (call (seat.moments 0)) (seat.moments 0).fault
    ((seat.moments 0).meanwhile seat.system) with ⟨-, works⟩ | ⟨reason, failed | failed⟩
  · rw [works] at answer
    rw [← after]
    refine ⟨Prod.ext answer ?_, rfl⟩
    change _ = (Migration.Fault.apply (call (seat.moments 0)) _ _).2
    rw [works]
  · rw [failed] at answer
    cases answer
  · rw [failed] at answer
    cases answer

end Calls

section Moves
variable {related : System Node → System Node → Prop} {α β : Type} (allowed : Allowed setting place related)
include allowed

theorem Moves.lift (outcome : Except SessionError α) :
    Moves related (liftExcept outcome : Client (Seat setting place) α) := by
  intro seat
  rw [perform_lift]
  exact allowed.refl seat.system

theorem Moves.pure (value : α) : Moves related (pure value : Client (Seat setting place) α) :=
  fun seat => allowed.refl seat.system

theorem Moves.bind {flow : Client (Seat setting place) α} {next : α → Client (Seat setting place) β}
    (first : Moves related flow) (second : ∀ value, Moves related (next value)) :
    Moves related (flow >>= next) := by
  intro seat
  have before := first seat
  rw [perform_bind]
  cases done : perform flow seat with
  | mk outcome middle =>
    rw [done] at before
    cases outcome with
    | ok value => exact allowed.trans _ _ _ before (second value middle)
    | error fault => exact before

theorem moves_during (call : Moment setting Node → StateM (System Node) (Except String α))
    (seat : Seat setting place) (steps : ∀ moment system, related seat.system system →
      related system (call moment system).2) (context : String) :
    related seat.system (perform (Session.call context (during setting place call)) seat).2.system := by
  rw [perform_call]
  have meanwhile := allowed.meanwhile (seat.moments 0) seat.system
  rcases system_during call seat with same | same
  · exact same ▸ meanwhile
  · exact same ▸ allowed.trans _ _ _ meanwhile (steps _ _ meanwhile)

theorem moves_fetchState (contract : Bytes32) : Moves related
    (fetchState setting.crypto setting.reader contract : Client (Seat setting place) GameState) := by
  refine Moves.bind allowed (fun seat => ?_) fun bytes => ?_
  · exact moves_during allowed (fun _ => readReplica place contract) seat
      (fun _ system _ => allowed.refl system) "GET contract"
  · cases InSync.fetchState setting.crypto setting.reader (bytes.getD []) with
    | some state => exact Moves.pure allowed state
    | none => exact fun seat => allowed.refl seat.system

theorem moves_delegate (context : String) (request : Request) : Moves related
    (Session.call context (NodeClient.delegate request) : Client (Seat setting place) Response) :=
  fun seat => moves_during allowed (askDelegate setting place request) seat
    (fun moment system _ => allowed.ask request moment system) context

theorem moves_openGame (label : String) (wasm : Bytes) : Moves related
    (openGame setting.rules setting.crypto setting.reader place.instanceId label wasm :
      Client (Seat setting place) OpenGame) := by
  refine Moves.bind allowed ?_ fun game => ?_
  · refine Moves.bind allowed (moves_delegate allowed _ _) fun response => ?_
    exact Moves.bind allowed (Moves.lift allowed _) fun games => Moves.lift allowed _
  · refine Moves.bind allowed (Moves.lift allowed _) fun container => ?_
    exact Moves.bind allowed (moves_fetchState allowed _) fun state => Moves.pure allowed _

theorem moves_submit (body : GameView → Except SessionError Body) (label : String) (wasm : Bytes)
    (submits : ∀ game body, Moves related (signAndSubmit setting.rules setting.crypto setting.reader
      place.instanceId game body : Client (Seat setting place) Status)) :
    Moves related (submit setting.rules setting.crypto setting.reader place.instanceId body label wasm :
      Client (Seat setting place) Status) := by
  refine Moves.bind allowed (moves_openGame allowed label wasm) fun game => ?_
  exact Moves.bind allowed (Moves.lift allowed _) fun signed => submits game signed

theorem moves_command (command : Command) (label : String) (wasm : Bytes)
    (submits : ∀ game body, Moves related (signAndSubmit setting.rules setting.crypto setting.reader
      place.instanceId game body : Client (Seat setting place) Status)) :
    Moves related (command.flow setting.rules setting.crypto setting.reader place.instanceId label wasm :
      Client (Seat setting place) Status) := by
  cases command with
  | showLabel => exact Moves.bind allowed (moves_openGame allowed label wasm) fun game => Moves.pure allowed _
  | drawAccept =>
    rw [Command.flow, drawAccept_eq]
    exact moves_submit allowed _ label wasm submits
  | _ => exact moves_submit allowed _ label wasm submits

end Moves

theorem next_ask (request : Request) (moment : Moment setting Node) (system : System Node) :
    Next setting system (askDelegate setting place request moment system).2 :=
  ⟨.ask place.color _, by simp [brings], rfl⟩

theorem allowed_next : Allowed setting place (Relation.ReflTransGen (Next setting)) where
  refl _ := .refl
  trans _ _ _ first second := first.trans second
  meanwhile moment system := moment.goes system
  ask request moment system := .single (next_ask request moment system)

theorem allowed_asked : Allowed setting place fun system system' : System Node =>
    ∀ color, system.asked color <+: system'.asked color where
  refl _ _ := List.prefix_rfl
  trans _ _ _ first second color := (first color).trans (second color)
  meanwhile moment system := asked_reaches (moment.goes system)
  ask request moment system := asked_grows (next_ask request moment system)

theorem asked_writeReplica (id : Bytes32) (data : UpdateData) (system : System Node) :
    (writeReplica setting place id data system).2.asked = system.asked := by
  unfold writeReplica
  split
  · split
    · exact asked_keep ..
    · rfl
  · rfl

def sendAndRead (game : OpenGame) (rec : Record) : Client (Seat setting place) Status := do
  call "UPDATE contract" (NodeClient.update
    (place.instanceId game.container.parameters game.container.code) (encodeRecords [rec]))
  let state ← fetchState setting.crypto setting.reader game.view.contract
  return state.project setting.rules setting.crypto game.view.params

theorem signAndSubmit_eq (game : OpenGame) (body : Body) :
    (signAndSubmit setting.rules setting.crypto setting.reader place.instanceId game body :
      Client (Seat setting place) Status) = (do
        let response ← call "Sign" (NodeClient.delegate (.sign game.view.gameId body))
        let record ← liftExcept (signedOf response)
        sendAndRead game record) := rfl

theorem asked_sendAndRead (game : OpenGame) (rec : Record) : Moves (fun system system' : System Node =>
    ∀ color, system.asked color <+: system'.asked color)
      (sendAndRead game rec : Client (Seat setting place) Status) := by
  refine Moves.bind allowed_asked (fun seat => ?_) fun _ =>
    Moves.bind allowed_asked (moves_fetchState allowed_asked _) fun state => Moves.pure allowed_asked _
  refine moves_during allowed_asked (fun _ => writeReplica setting place _ _) seat (fun _ system _ color => ?_) _
  rw [asked_writeReplica]

theorem asked_command (command : Command) (label : String) (wasm : Bytes) (seat : Seat setting place)
    (color : Color) : seat.system.asked color <+: (perform (command.flow setting.rules setting.crypto setting.reader
      place.instanceId label wasm) seat).2.system.asked color := by
  refine moves_command allowed_asked command label wasm (fun game body => ?_) seat color
  refine Moves.bind allowed_asked (moves_delegate allowed_asked _ _) fun response => ?_
  exact Moves.bind allowed_asked (Moves.lift allowed_asked _) fun record => asked_sendAndRead game record

theorem released_of_signed {other : GameId} {body : Body} {rec : Record} {seat seat' : Seat setting place}
    (signed : (NodeClient.delegate (.sign other body)).run seat = (.ok (.signed rec), seat')) :
    (other, rec) ∈ (session setting seat'.system place.color).released := by
  obtain ⟨answered, -⟩ := during_ok signed
  obtain ⟨response, after⟩ := Prod.mk.inj answered
  have response := Except.ok.inj response
  rw [← after]
  rw [session_ask, Provenance.released_step]
  refine List.mem_append_right _ ?_
  dsimp only
  rw [response]
  exact List.mem_singleton_self _

theorem next_writeReplica {id : Bytes32} {data : UpdateData} {system : System Node}
    (vouched : ∀ rec ∈ StateSize.carried setting.crypto setting.reader data, Vouched setting system rec) :
    Relation.ReflTransGen (Next setting) system (writeReplica setting place id data system).2 := by
  unfold writeReplica
  split
  · split
    · exact .single ⟨.update place.node [data], by simpa [brings] using vouched, rfl⟩
    · exact .refl
  · exact .refl

section Submitting
variable (reads : setting.reader.RoundTrips) (sealed : setting.secrets.RoundTrips)
  (separates : Signing.Separates setting.crypto)
include reads sealed separates

theorem reaches_sendAndRead {game : OpenGame} {rec : Record} {other : GameId} {seat : Seat setting place}
    (released : (other, rec) ∈ (session setting seat.system place.color).released)
    (own : OwnKey setting place (perform (sendAndRead game rec) seat).2.system) :
    Relation.ReflTransGen (Next setting) seat.system (perform (sendAndRead game rec) seat).2.system := by
  have vouched : Vouched setting seat.system rec :=
    vouched_of_released sealed separates (own.mono (asked_sendAndRead game rec seat place.color)) released
  have carries : StateSize.carried setting.crypto setting.reader (.delta (encodeRecords [rec])) = [rec] :=
    deltaOf_encode reads [rec]
  have updating := moves_during allowed_next (fun _ => writeReplica setting place
    (place.instanceId game.container.parameters game.container.code) (.delta (encodeRecords [rec]))) seat
    (fun _ system reached => next_writeReplica fun rec' member => ?_) "UPDATE contract"
  · rw [sendAndRead, perform_bind]
    cases done : perform (call "UPDATE contract" (NodeClient.update
        (place.instanceId game.container.parameters game.container.code) (encodeRecords [rec]))) seat with
    | mk outcome after =>
      have updated : Relation.ReflTransGen (Next setting) seat.system after.system := by
        rw [← congrArg (fun result => result.2.system) done]
        exact updating
      cases outcome with
      | error fault => exact updated
      | ok _ =>
        exact updated.trans (Moves.bind allowed_next (moves_fetchState allowed_next _)
          (fun state => Moves.pure allowed_next _) after)
  · rw [carries] at member
    rw [List.mem_singleton.1 member]
    exact vouched.mono (asked_reaches reached)

theorem reaches_signAndSubmit (game : OpenGame) (body : Body) (seat : Seat setting place)
    (own : OwnKey setting place (perform (signAndSubmit setting.rules setting.crypto setting.reader
      place.instanceId game body) seat).2.system) :
    Relation.ReflTransGen (Next setting) seat.system
      (perform (signAndSubmit setting.rules setting.crypto setting.reader place.instanceId game body)
        seat).2.system := by
  have asking := moves_delegate allowed_next "Sign" (.sign game.view.gameId body) seat
  rw [signAndSubmit_eq, perform_bind] at own ⊢
  cases signing : perform (Session.call "Sign" (NodeClient.delegate (.sign game.view.gameId body))) seat with
  | mk outcome middle =>
    rw [signing] at asking own
    cases outcome with
    | error fault => exact asking
    | ok response =>
      dsimp only at own asking ⊢
      rw [perform_bind, perform_lift] at own ⊢
      cases response with
      | signed rec =>
        have released := released_of_signed (perform_call_ok signing)
        exact asking.trans (reaches_sendAndRead reads sealed separates released own)
      | _ => exact asking

theorem reaches_submit (body : GameView → Except SessionError Body) (label : String) (wasm : Bytes)
    (seat : Seat setting place) (own : OwnKey setting place (perform (submit setting.rules setting.crypto
      setting.reader place.instanceId body label wasm) seat).2.system) :
    Relation.ReflTransGen (Next setting) seat.system
      (perform (submit setting.rules setting.crypto setting.reader place.instanceId body label wasm)
        seat).2.system := by
  have opening := moves_openGame allowed_next label wasm seat
  unfold submit at own ⊢
  rw [perform_bind] at own ⊢
  cases opened : perform (openGame setting.rules setting.crypto setting.reader place.instanceId label wasm) seat with
  | mk outcome middle =>
    rw [opened] at opening own
    cases outcome with
    | error fault => exact opening
    | ok game =>
      dsimp only at own opening ⊢
      rw [perform_bind, perform_lift] at own ⊢
      cases decided : body game.view with
      | error fault => exact opening
      | ok signed =>
        rw [decided] at own
        exact opening.trans (reaches_signAndSubmit reads sealed separates game signed middle own)

theorem reaches_command (command : Command) (label : String) (wasm : Bytes) (seat : Seat setting place)
    (own : OwnKey setting place (perform (command.flow setting.rules setting.crypto setting.reader
      place.instanceId label wasm) seat).2.system) :
    Relation.ReflTransGen (Next setting) seat.system (perform (command.flow setting.rules setting.crypto
      setting.reader place.instanceId label wasm) seat).2.system := by
  cases command with
  | showLabel =>
    exact Moves.bind allowed_next (moves_openGame allowed_next label wasm)
      (fun game => Moves.pure allowed_next _) seat
  | drawAccept =>
    rw [Command.flow, drawAccept_eq] at own ⊢
    exact reaches_submit reads sealed separates _ label wasm seat own
  | _ => exact reaches_submit reads sealed separates _ label wasm seat own

end Submitting

/-- One player's turn at the client: where, what, and what happens around the calls. -/
structure Turn (setting : Setting) (Node : Type) [DecidableEq Node] where
  place : Place Node
  command : Command
  label : String
  wasm : Bytes
  moments : Nat → Moment setting Node

def playTurn (system : System Node) (turn : Turn setting Node) : System Node :=
  (perform (turn.command.flow setting.rules setting.crypto setting.reader turn.place.instanceId turn.label
    turn.wasm) (⟨system, turn.moments⟩ : Seat setting turn.place)).2.system

theorem asked_turns (turns : List (Turn setting Node)) (system : System Node) (color : Color) :
    system.asked color <+: (turns.foldl playTurn system).asked color := by
  induction turns generalizing system with
  | nil => exact List.prefix_rfl
  | cons turn rest ih =>
    have first : system.asked color <+: (playTurn system turn).asked color :=
      asked_command turn.command turn.label turn.wasm ⟨system, turn.moments⟩ color
    exact first.trans (ih _)

theorem reaches_turns (reads : setting.reader.RoundTrips) (sealed : setting.secrets.RoundTrips)
    (separates : Signing.Separates setting.crypto) (turns : List (Turn setting Node)) (system : System Node)
    (own : ∀ turn ∈ turns, OwnKey setting turn.place (turns.foldl playTurn system)) :
    Relation.ReflTransGen (Next setting) system (turns.foldl playTurn system) := by
  induction turns generalizing system with
  | nil => exact .refl
  | cons turn rest ih =>
    have first : OwnKey setting turn.place (playTurn system turn) :=
      (own turn List.mem_cons_self).mono (asked_turns rest _ turn.place.color)
    have played : Relation.ReflTransGen (Next setting) system (playTurn system turn) :=
      reaches_command reads sealed separates turn.command turn.label turn.wasm ⟨system, turn.moments⟩ first
    exact played.trans (ih _ fun other member => own other (List.mem_cons_of_mem _ member))

end Seats

/-- The clients keep to the protocol. Whatever the players' flows do, with whatever happening
between their calls and any calls or answers lost, is a run of the system: no record reaches a
replica that a delegate has not signed. The delegate of each seat is supposed to have signed for
no other player of the game in the end. -/
theorem flows_keep_to_the_protocol {Node : Type} [DecidableEq Node] (setting : Setting) (system : System Node)
    (earlier later : List (Turn setting Node))
    (reads : setting.reader.RoundTrips) (sealed : setting.secrets.RoundTrips)
    (separates : Signing.Separates setting.crypto)
    (own : ∀ turn ∈ earlier ++ later, OwnKey setting turn.place ((earlier ++ later).foldl playTurn system)) :
    Relation.ReflTransGen (Next setting) system (earlier.foldl playTurn system) ∧
      Relation.ReflTransGen (Next setting) (earlier.foldl playTurn system)
        ((earlier ++ later).foldl playTurn system) := by
  have asked := asked_turns later (earlier.foldl playTurn system)
  rw [List.foldl_append] at own ⊢
  constructor
  · refine reaches_turns reads sealed separates earlier system fun turn member => ?_
    exact (own turn (List.mem_append_left _ member)).mono (asked turn.place.color)
  · exact reaches_turns reads sealed separates later _ fun turn member => own turn (List.mem_append_right _ member)

section Sample
open Signing

def samplePlace : Place Bool where
  color := .white
  node := true
  origin := none
  instanceId params _ := if params = sampleParams.encode then zeros else Sample.whiteKey
  address := zeros

noncomputable def quiet (fault : Option Migration.Fault) : Nat → Moment sampleSetting Bool :=
  fun _ => ⟨id, fun _ => .refl, (zeros, zeros), fun _ => true, fault⟩

noncomputable def sampleSeat (system : System Bool) : Seat sampleSetting samplePlace := ⟨system, quiet none⟩

def sampleGame : System Bool := { System.start Bool with
  asked := Function.update (fun _ => []) .white (sampleCalls.take 2) }

theorem sampleGame_reached : Relation.ReflTransGen (Next sampleSetting) (System.start Bool) sampleGame :=
  reaches_asks sampleSetting (System.start Bool) .white (sampleCalls.take 2)

theorem sampleGame_session : session sampleSetting sampleGame .white = ⟨sampleBound, []⟩ := by
  change serve Sample.rules Sample.crypto Reader.exact SecretReader.exact (sampleCalls.take 2) = _
  simp [serve, sampleCalls, Signing.step, handle, sampleKeyed_create, sampleKeyed_bind, answered]

theorem sampleBound_bound : Delegate.boundGame SecretReader.exact sampleBound "white" = some sampleRecord := by
  have index : loadBoundGameId sampleBound "white" = some (sampleParams.gameId Sample.crypto) := by
    decide +kernel
  rw [Delegate.boundGame, index, Option.bind_some, sampleBound_loaded]

theorem sampleBound_seeded : loadSeed sampleBound "white" = some samplePlayer := by
  decide +kernel

theorem sampleBound_owner : loadOwner sampleBound "white" = none := by
  decide +kernel

def sampleSummary : GameSummary where
  label := "white"
  publicKey := samplePlayer
  gameId := some (sampleParams.gameId Sample.crypto)
  side := some .white
  lastSignedPly := 0
  entropy := some .degraded
  params := some sampleParams
  contract := some zeros
  previous := none

def sampleGameView : BoundGame := ⟨sampleSummary, by decide⟩

theorem sampleBound_listed : findBound "white" ((listLabels sampleBound).filterMap
    (summary Sample.crypto SecretReader.exact sampleBound none)) = .ok sampleGameView := by
  have key : sampleBound[keySecret "white"]? = some samplePlayer.val := loadSeed_eq_some sampleBound_seeded
  have shown : summary Sample.crypto SecretReader.exact sampleBound none "white" = some sampleSummary := by
    have ours : Sample.crypto.verifyingKey samplePlayer = samplePlayer := rfl
    simp [summary, sampleBound_owner, sampleBound_seeded, sampleBound_bound, sampleSummary, ours, sampleRecord,
      GameRecord.gameId]
  obtain ⟨game, found⟩ := Migration.findBound_listed Sample.crypto sampleBound_owner key sampleBound_bound
  rw [found]
  obtain ⟨other, isBound⟩ := game
  obtain rfl : sampleSummary = other := Option.some.inj (shown.symm.trans (Migration.summary_of_findBound found))
  rfl

noncomputable def sampleOpen : OpenGame where
  view := {
    label := "white"
    side := .white
    params := sampleParams
    gameId := sampleParams.gameId Sample.crypto
    contract := zeros
    previous := none
    state := .empty
    status := GameState.empty.project Sample.rules Sample.crypto sampleParams }
  container := ⟨sampleParams.encode, []⟩

theorem sample_delegate (system : System Bool) (request : Request) : ∃ host : Host,
    (NodeClient.delegate request).run (sampleSeat system) =
      (.ok (handle Sample.rules Sample.crypto Reader.exact SecretReader.exact host
        (session sampleSetting system .white).store none request).2,
        sampleSeat (react sampleSetting system (.ask .white ⟨host, none, request⟩))) ∧
    host.writes = (fun _ => true) ∧ host.contractState zeros = some (system.stored true) :=
  ⟨_, rfl, rfl, rfl⟩

theorem sample_get (system : System Bool) : (NodeClient.get zeros false).run (sampleSeat system) =
    (.ok (some (system.stored true)), sampleSeat system) := rfl

theorem sample_open (system : System Bool) (stored : system.stored true = [])
    (bound : (session sampleSetting system .white).store = sampleBound) : ∃ host : Host,
    perform (openGame Sample.rules Sample.crypto Reader.exact samplePlace.instanceId "white" []) (sampleSeat system) =
      (.ok sampleOpen, sampleSeat (react sampleSetting system (.ask .white ⟨host, none, .listGames⟩))) := by
  obtain ⟨host, listed, -⟩ := sample_delegate system .listGames
  refine ⟨host, ?_⟩
  rw [bound] at listed
  have found : perform (Session.boundGame "white") (sampleSeat system) =
      (.ok sampleGameView, sampleSeat (react sampleSetting system (.ask .white ⟨host, none, .listGames⟩))) :=
    (perform_boundGame listed).trans (by rw [sampleBound_listed])
  have fetched := perform_fetchState
    (sample_get (react sampleSetting system (.ask .white ⟨host, none, .listGames⟩)))
    (InSync.fetchState_eq_some.2 (show decodeState Sample.crypto Reader.exact (system.stored true) = .ok .empty by
      rw [stored]; rfl))
  have derived : samplePlace.instanceId sampleParams.encode [] = zeros := by simp [samplePlace]
  have build : expectedContainer samplePlace.instanceId "white" [] sampleParams zeros =
      .ok ⟨sampleParams.encode, []⟩ := by
    unfold expectedContainer contractContainer
    dsimp only
    rw [derived, if_neg (not_not.2 rfl)]
  exact perform_openGame found build fetched

theorem sample_unread : GameState.decode Sample.crypto Reader.exact [] = none := by
  have refused : Reader.exact.records [] = .error (.reader "not written by the encoder") :=
    dif_neg fun written => encodeRecords_ne_nil _ written.choose_spec
  rw [GameState.decode, GameState.deserialize, refused]
  rfl

theorem sample_legal {said : Body} {host : Host} (replica : host.contractState zeros = some []) :
    locallyKnownToBeIllegal Sample.rules Sample.crypto Reader.exact host sampleRecord said = false := by
  have contract : sampleRecord.contract = zeros := rfl
  cases said with
  | move ply parent uci =>
    unfold locallyKnownToBeIllegal
    dsimp only
    rw [contract, replica, Option.bind_some, sample_unread]
  | _ => rfl

def sampleSaid (said : Body) : Record := Record.sign Sample.crypto samplePlayer sampleParams said

theorem sample_sign {host : Host} {said : Body} {updated : GameRecord} (writes : host.writes = fun _ => true)
    (legal : locallyKnownToBeIllegal Sample.rules Sample.crypto Reader.exact host sampleRecord said = false)
    (granted : decideSign Sample.crypto sampleRecord said none = .sign updated) :
    (handleSign Sample.rules Sample.crypto Reader.exact SecretReader.exact host sampleBound none
      (sampleParams.gameId Sample.crypto) said).2 = .signed (sampleSaid said) := by
  have label : sampleRecord.label = "white" := rfl
  simp [handleSign, sampleBound_loaded, label, sampleBound_seeded, legal, granted, storeGame, afterWrites,
    Writes.start, Writes.set, writes]
  rfl

def sampleHeard (rec : Record) : GameState :=
  (GameState.empty.filterValid Sample.crypto sampleParams).applyDelta Sample.crypto sampleParams [rec]

theorem sampleHeard_read (rec : Record) :
    decodeState Sample.crypto Reader.exact (sampleHeard rec).encode = .ok (sampleHeard rec) :=
  decodeState_encode Reader.exact_roundTrips (Batches.keyed_verified _ _ _ _)

theorem sample_send {system : System Bool} {rec : Record} (stored : system.stored true = [])
    (valid : rec.verify Sample.crypto sampleParams = true) : ∃ final : System Bool,
      (NodeClient.update zeros (encodeRecords [rec])).run (sampleSeat system) = (.ok (), sampleSeat final) ∧
      final.stored true = (sampleHeard rec).encode ∧ final.asked = system.asked := by
  have accepted : updateState sampleSetting.crypto sampleSetting.reader sampleSetting.params.encode
      (system.stored samplePlace.node) [.delta (encodeRecords [rec])] = .ok (sampleHeard rec).encode :=
    Batches.updateState_verified Reader.exact_roundTrips
      (show decodeState Sample.crypto Reader.exact (system.stored true) = .ok .empty by rw [stored]; rfl)
      fun other member => List.mem_singleton.1 member ▸ valid
  have changed : react sampleSetting system (.update samplePlace.node [.delta (encodeRecords [rec])]) =
      system.keep true (.ok (sampleHeard rec).encode) := by
    rw [react, accepted]
    rfl
  have written : writeReplica sampleSetting samplePlace samplePlace.address (.delta (encodeRecords [rec])) system =
      (.ok (), system.keep true (.ok (sampleHeard rec).encode)) := by
    unfold writeReplica
    rw [if_pos rfl, accepted]
    exact congrArg _ changed
  have sent : (NodeClient.update zeros (encodeRecords [rec])).run (sampleSeat system) =
      (.ok (), sampleSeat (system.keep true (.ok (sampleHeard rec).encode))) :=
    congrArg (fun outcome : Except String Unit × System Bool => (outcome.1, sampleSeat outcome.2)) written
  exact ⟨_, sent, by simp [System.keep], asked_keep ..⟩

structure Submitted (said : Body) (final : System Bool) : Prop where
  requests : ∃ host host', final.asked .white = sampleCalls.take 2 ++ [⟨host, none, .listGames⟩] ++
    [⟨host', none, .sign (sampleParams.gameId Sample.crypto) said⟩]
  silent : final.asked .black = []
  released : (session sampleSetting final .white).released = [(sampleParams.gameId Sample.crypto, sampleSaid said)]
  stored : final.stored true = (sampleHeard (sampleSaid said)).encode

theorem sample_submit {body : GameView → Except SessionError Body} {said : Body} {updated : GameRecord}
    (decides : body sampleOpen.view = .ok said)
    (granted : decideSign Sample.crypto sampleRecord said none = .sign updated)
    (valid : (sampleSaid said).verify Sample.crypto sampleParams = true) :
    ∃ final, perform (submit Sample.rules Sample.crypto Reader.exact samplePlace.instanceId body "white" [])
        (sampleSeat sampleGame) = (.ok ((sampleHeard (sampleSaid said)).project Sample.rules Sample.crypto
          sampleParams), sampleSeat final) ∧ Submitted said final := by
  obtain ⟨host, opened⟩ := sample_open sampleGame rfl (by rw [sampleGame_session])
  -- listing changes nothing at the delegate
  generalize listed : react sampleSetting sampleGame (.ask .white ⟨host, none, .listGames⟩) = opening at opened
  have asked : opening.asked .white = sampleCalls.take 2 ++ [⟨host, none, .listGames⟩] := by rw [← listed]; rfl
  have before : session sampleSetting opening .white = ⟨sampleBound, []⟩ := by
    rw [← listed, session_ask, sampleGame_session]
    rfl
  obtain ⟨host', signs, writes, replica⟩ :=
    sample_delegate opening (.sign (sampleParams.gameId Sample.crypto) said)
  have empty : opening.stored true = [] := by rw [← listed]; rfl
  have signed := sample_sign writes (sample_legal (by rw [replica, empty])) granted
  rw [before, handle, signed] at signs
  generalize reacted : react sampleSetting opening (.ask .white ⟨host', none,
    .sign (sampleParams.gameId Sample.crypto) said⟩) = signing at signs
  obtain ⟨final, sent, stored, same⟩ := sample_send (show signing.stored true = [] by
    rw [← reacted, ← empty]; rfl) valid
  have fetched := perform_fetchState (sample_get final) (InSync.fetchState_eq_some.2
    (show decodeState Sample.crypto Reader.exact (final.stored true) = .ok (sampleHeard (sampleSaid said)) by
      rw [stored, sampleHeard_read]))
  have asked' : final.asked .white = opening.asked .white ++ [⟨host', none,
      .sign (sampleParams.gameId Sample.crypto) said⟩] := by
    rw [same, ← reacted]
    simp [react]
  refine ⟨final, ?_, ⟨host, host', by rw [asked', asked]⟩, ?_, ?_, stored⟩
  · have derived : samplePlace.instanceId sampleParams.encode [] = zeros := by simp [samplePlace]
    have container : sampleOpen.container = ⟨sampleParams.encode, []⟩ := rfl
    have shown : sampleOpen.view.gameId = sampleParams.gameId Sample.crypto ∧ sampleOpen.view.contract = zeros ∧
        sampleOpen.view.params = sampleParams := ⟨rfl, rfl, rfl⟩
    have answer : signedOf (.signed (sampleSaid said)) = .ok (sampleSaid said) := rfl
    rw [submit, perform_bind, opened]
    dsimp only
    rw [perform_lift_bind decides, signAndSubmit, shown.1, perform_call_bind signs, perform_lift_bind answer,
      container, derived, perform_call_bind sent, perform_bind, shown.2.1, fetched, shown.2.2]
    rfl
  · rw [same, ← reacted, ← listed]
    rfl
  · have after : session sampleSetting final .white = session sampleSetting (react sampleSetting opening
        (.ask .white ⟨host', none, .sign (sampleParams.gameId Sample.crypto) said⟩)) .white := by
      rw [session, same, reacted, ← session]
    have answers : answered (.sign (sampleParams.gameId Sample.crypto) said)
        (handleSign sampleSetting.rules sampleSetting.crypto sampleSetting.reader sampleSetting.secrets host'
          sampleBound none (sampleParams.gameId Sample.crypto) said).2 =
            [(sampleParams.gameId Sample.crypto, sampleSaid said)] := by
      have same : (handleSign sampleSetting.rules sampleSetting.crypto sampleSetting.reader sampleSetting.secrets
          host' sampleBound none (sampleParams.gameId Sample.crypto) said).2 = .signed (sampleSaid said) := signed
      rw [same]
      rfl
    rw [after, session_ask, Provenance.released_step, before, handle, List.nil_append]
    exact answers

section Submitted
variable {final : System Bool} {said : Body} (submitted : Submitted said final)
include submitted

theorem Submitted.ownKey (player : (sampleSaid said).color sampleParams = some .white) :
    OwnKey sampleSetting samplePlace final := by
  intro rec color member owner
  have member : _ ∈ (session sampleSetting final .white).released := member
  rw [submitted.released, List.mem_singleton] at member
  obtain ⟨-, rfl⟩ := Prod.mk.inj member
  exact (Option.some.inj (player.symm.trans owner)).symm

theorem Submitted.body_eq {color : Color} {call : Signing.Call} {gameId : GameId} {body : Body}
    (member : call ∈ final.asked color) (signs : call.request = .sign gameId body) : body = said := by
  cases color with
  | white =>
    obtain ⟨host, host', asked⟩ := submitted.requests
    rw [asked] at member
    simp only [sampleCalls, List.take, List.mem_append, List.mem_cons, List.not_mem_nil, or_false] at member
    rcases member with ((rfl | rfl) | rfl) | rfl
    · cases signs
    · cases signs
    · cases signs
    · exact (Request.sign.inj signs).2.symm
  | black =>
    rw [submitted.silent] at member
    cases member

theorem Submitted.bodies (color : Color) : Sample.crypto.CollisionFree
    (bodyHashInput '' {body | ∃ call ∈ final.asked color, ∃ gameId, call.request = .sign gameId body}) := by
  refine (Set.Subsingleton.image ?_ _).injOn _
  intro one first two second
  obtain ⟨call, member, gameId, signs⟩ := first
  obtain ⟨call', member', gameId', signs'⟩ := second
  exact (submitted.body_eq member signs).trans (submitted.body_eq member' signs').symm

theorem Submitted.idInput_eq {rec : Record} {color : Color} (stated : Stated sampleSetting final color rec) :
    rec.idInput = (sampleSaid said).idInput := by
  obtain ⟨other, member, signer, body⟩ := stated
  cases color with
  | white =>
    rw [submitted.released, List.mem_singleton] at member
    obtain ⟨-, rfl⟩ := Prod.mk.inj member
    rw [Record.idInput, Record.idInput, ← signer, ← body]
  | black =>
    rw [session, submitted.silent] at member
    cases member

theorem Submitted.statements : Sample.crypto.CollisionFree
    (Record.idInput '' {rec | ∃ color, Stated sampleSetting final color rec}) := by
  refine Set.Subsingleton.injOn ?_ _
  intro one first two second
  obtain ⟨rec, ⟨color, stated⟩, rfl⟩ := first
  obtain ⟨rec', ⟨color', stated'⟩, rfl⟩ := second
  exact (submitted.idInput_eq stated).trans (submitted.idInput_eq stated').symm

end Submitted

theorem sample_opening_next :
    (GameState.empty.project Sample.rules Sample.crypto sampleParams).ply + 1 = 1 ∧
      headOf Sample.crypto sampleParams (GameState.empty.project Sample.rules Sample.crypto sampleParams).chain =
        sampleParams.genesis Sample.crypto := by
  decide +kernel

theorem sample_opening_decides : moveBody Sample.rules Sample.crypto "e2e4" sampleOpen.view =
    .ok (sampleOpening "e2e4") := by
  have playing : (GameState.empty.project Sample.rules Sample.crypto sampleParams).isOver = false := by decide +kernel
  have turn : Side.ofColor (GameState.empty.project Sample.rules Sample.crypto sampleParams).turn = .white := by
    decide +kernel
  have legal : (GameState.empty.legalMoves Sample.rules Sample.crypto sampleParams).any (· == "e2e4") = true := by
    decide +kernel
  unfold moveBody unlessOver sampleOpen
  dsimp only
  rw [playing, turn, legal, sample_opening_next.1, sample_opening_next.2]
  rfl

theorem sample_opening_granted : decideSign Sample.crypto sampleRecord (sampleOpening "e2e4") none =
    .sign { sampleRecord with
      lastSignedPly := 1, lastMoveBodyHash := bodyHash Sample.crypto (sampleOpening "e2e4") } := by
  decide +kernel

noncomputable def openingTurn : Turn sampleSetting Bool := ⟨samplePlace, .playMove "e2e4", "white", [], quiet none⟩

theorem playTurn_opening (system : System Bool) : playTurn system openingTurn =
    (perform (submit Sample.rules Sample.crypto Reader.exact samplePlace.instanceId
      (moveBody Sample.rules Sample.crypto "e2e4") "white" []) (sampleSeat system)).2.system := rfl

noncomputable def lostTurn : Turn sampleSetting Bool :=
  ⟨samplePlace, .showLabel, "white", [], quiet (some (.lost "timed out"))⟩

theorem lostTurn_asks (system : System Bool) : ∃ host, playTurn system lostTurn =
    react sampleSetting system (.ask .white ⟨host, none, .listGames⟩) :=
  ⟨_, rfl⟩

/-- White's delegate signs the opening, the replica takes it, and the next answer is lost. -/
theorem flows_keep_to_the_protocol_opening :
    (gameId sampleSetting, sampleSaid (sampleOpening "e2e4")) ∈
        (session sampleSetting (playTurn sampleGame openingTurn) .white).released ∧
      sampleSaid (sampleOpening "e2e4") ∈
        StateSize.recordsOf Sample.crypto Reader.exact ((playTurn sampleGame openingTurn).stored true) ∧
      Relation.ReflTransGen (Next sampleSetting) sampleGame (playTurn sampleGame openingTurn) ∧
      Relation.ReflTransGen (Next sampleSetting) (playTurn sampleGame openingTurn)
        (playTurn (playTurn sampleGame openingTurn) lostTurn) := by
  obtain ⟨final, played, submitted⟩ :=
    sample_submit sample_opening_decides sample_opening_granted (by decide +kernel)
  have opened : playTurn sampleGame openingTurn = final := by
    rw [playTurn_opening, played]
    rfl
  obtain ⟨host, looked⟩ := lostTurn_asks final
  have own : OwnKey sampleSetting samplePlace (playTurn final lostTurn) := by
    intro rec color member owner
    refine submitted.ownKey (by decide +kernel) rec color ?_ owner
    have same : (session sampleSetting (playTurn final lostTurn) .white).released =
        (session sampleSetting final .white).released := by
      rw [looked, session_ask, Provenance.released_step]
      exact List.append_nil _
    exact same ▸ member
  have reached := flows_keep_to_the_protocol sampleSetting sampleGame [openingTurn] [lostTurn]
    Reader.exact_roundTrips SecretReader.exact_roundTrips sample_separates fun turn member => by
      rw [List.foldl_append, List.foldl_cons, List.foldl_nil, List.foldl_cons, List.foldl_nil, opened]
      obtain rfl | rfl : turn = openingTurn ∨ turn = lostTurn := by simpa using member
      · exact own
      · exact own
  refine ⟨?_, ?_, reached⟩
  · rw [opened, submitted.released]
    exact List.mem_singleton_self _
  · rw [opened, submitted.stored, StateSize.recordsOf, sampleHeard_read]
    decide +kernel

end Sample

end Adjourn.Flows
