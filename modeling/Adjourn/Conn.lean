import Adjourn.Flows
import Adjourn.Invites
import Adjourn.Watch

/-! The owner of the interface's connection. The main actor serves the screens' commands one
by one; the watch actor follows one game at a time, on a socket of its own; both write what
the screens read. -/

namespace Adjourn.Conn
open Cbor Contract Delegate Session Watch

inductive Cmd where
  | connect
  | reconnect
  | listGames
  | newGame (label : String) (side : Side)
  | accept (label invite : String)
  | bind (label offer : String)
  | migrate (label : String)
  | openGame (label : String)
  | play (label uci : String)
  | resign (label : String)
  | drawOffer (label : String)
  | drawAccept (label : String)
  | drawClaim (label : String)
  | watch (label : String)
  deriving DecidableEq

/-- The signals that the screens read. A blob comes with the label that produced it. -/
structure Wires where
  games : List GameSummary
  view : Option GameView
  inviteBlob : Option (String × String)
  offerBlob : Option (String × String)
  error : Option String
  watchError : Option String
  skew : Option String
  mismatch : Option String
  busy : Bool
  connected : Bool

def Wires.start : Wires := ⟨[], none, none, none, none, none, none, none, false, false⟩

/-- What the interface is built from: the rules and the primitives, the contract's code, the
client's latch, the texts of failures and refusals, and the form in which players paste. -/
structure App (N : Type) where
  rules : Rules
  crypto : Crypto
  reader : Reader
  instanceId : Bytes → Bytes → Bytes32
  wasm : Bytes
  isDisconnected : N → Bool
  describe : SessionError → String
  refusal : Refusal → String
  response : Response → String
  encodeInvite : Invites.Invite → String
  decodeInvite : String → Except SessionError Invites.Invite
  encodeOffer : Invites.GameOffer → String
  decodeOffer : String → Except SessionError Invites.GameOffer

def contains (text part : String) : Bool := decide (part.toList <:+: text.toList)

def isBuildMismatch (text label : String) : Bool :=
  contains text "build mismatch" && contains text ("--label " ++ label)

structure Draws where
  entropy : Except String Bytes32
  nonce : Except String (FixedBytes 16)

structure Outcome where
  result : Except SessionError Unit
  write : Wires → Wires
  forwards : List Cmd

section Arms
variable {N : Type} [NodeClient N] (app : App N)

def writing {α : Type} (flow : Client N α) (write : α → Wires → Wires) : StateM N Outcome := do
  match ← flow.run with
  | .ok value => return ⟨.ok (), write value, []⟩
  | .error fault => return ⟨.error fault, id, []⟩

def plain {α : Type} (answer : StateM N (Except String α)) : Client N α :=
  ExceptT.mk (return (← answer).mapError (SessionError.node none))

def gamesOf : Response → Except SessionError (List GameSummary)
  | .games games => .ok games
  | .refused refusal => .error (.bail ("delegate refused ListGames: " ++ app.refusal refusal))
  | other => .error (.bail ("unexpected response to ListGames: " ++ app.response other))

def listGames : Client N (List GameSummary) := do
  liftExcept (gamesOf app (← plain (NodeClient.delegate .listGames)))

def drawn {α : Type} (draw : Except String α) : Client N α := liftExcept (draw.mapError (SessionError.node none))

def newGame (draws : Draws) (label : String) (side : Side) : Client N Invites.Invite := do
  let entropy ← drawn draws.entropy
  let nonce ← drawn draws.nonce
  Invites.inviteNew label side entropy nonce

def accept (draws : Draws) (label invite : String) : Client N Invites.GameOffer := do
  let invite ← liftExcept (app.decodeInvite invite)
  let entropy ← drawn draws.entropy
  Invites.inviteAccept app.instanceId label invite app.wasm entropy

def bind (label offer : String) : Client N Bytes32 := do
  let offer ← liftExcept (app.decodeOffer offer)
  Invites.gameBind app.instanceId label offer app.wasm

def openGameView (label : String) : Client N GameView :=
  Flows.openGameView app.rules app.crypto app.reader app.instanceId label app.wasm

def withoutInvite (label : String) (wires : Wires) : Wires :=
  { wires with inviteBlob := wires.inviteBlob.filter fun blob => decide (blob.1 ≠ label) }

def opened (label : String) (view : GameView) (wires : Wires) : Wires :=
  { wires with
    mismatch := if wires.mismatch = some label then none else wires.mismatch
    view := some view }

def unopened (label : String) (fault : SessionError) (wires : Wires) : Wires :=
  if isBuildMismatch (app.describe fault) label then { wires with mismatch := some label } else wires

def openArm (label : String) : StateM N Outcome := do
  match ← (openGameView app label).run with
  | .ok view => return ⟨.ok (), opened label view, []⟩
  | .error fault => return ⟨.error fault, unopened app label fault, []⟩

/-- A game that has moved is watched anew, and what was said of its watch is taken back. -/
def migrateArm (label : String) : StateM N Outcome := do
  match ← (Migration.migrateLabel app.crypto app.reader app.instanceId label app.wasm).run with
  | .error fault => return ⟨.error fault, id, []⟩
  | .ok _ =>
    match ← (openGameView app label).run with
    | .ok view =>
      return ⟨.ok (), fun wires => { opened label view wires with watchError := none }, [.watch label]⟩
    | .error fault => return ⟨.error fault, unopened app label fault, []⟩

def actArm (label : String) (command : Flows.Command) : StateM N Outcome :=
  writing (do
    let _ ← command.flow app.rules app.crypto app.reader app.instanceId label app.wasm
    openGameView app label) fun view wires => { wires with view := some view }

def arm (draws : Draws) : Cmd → StateM N Outcome
  | .connect | .reconnect => return ⟨.ok (), id, []⟩
  | .listGames => writing (listGames app) fun games wires => { wires with games := games }
  | .newGame label side => writing (newGame draws label side) fun invite wires =>
    { wires with inviteBlob := some (label, app.encodeInvite invite) }
  | .accept label invite => writing (accept app draws label invite) fun offer wires =>
    { wires with offerBlob := some (label, app.encodeOffer offer) }
  | .bind label offer => writing (bind app label offer) fun _ => withoutInvite label
  | .migrate label => migrateArm app label
  | .openGame label => openArm app label
  | .play label uci => actArm app label (.playMove uci)
  | .resign label => actArm app label .resign
  | .drawOffer label => actArm app label .drawOffer
  | .drawAccept label => actArm app label .drawAccept
  | .drawClaim label => actArm app label .drawClaim
  | .watch label => return ⟨.ok (), id, [.watch label]⟩

end Arms

/-- The main actor: what it was sent, its client, and the command that it is at. -/
structure Main (N : Type) where
  queue : List Cmd
  client : Option N
  serving : Option Cmd

/-- What the watch actor is at. A live watch is `watch_label` up to its next wait, or its end,
with the calls of its two callbacks that are still to be made. -/
inductive Watching where
  | idle
  | connecting (label : String)
  | live (label : String) (progress : Progress) (statuses : List (GameState × Status)) (skews : List String)

structure WatchActor (N : Type) where
  queue : List Cmd
  client : Option N
  next : Option Cmd
  watching : Watching

structure Served where
  cmd : Cmd
  reached : Bool
  result : Except SessionError Unit

/-- What has happened, for reference: no actor reads it. -/
structure Log where
  sent : List Cmd
  served : List Served
  forwarded : List Cmd
  begun : List Cmd
  reports : List (String × GameState × Status)

structure Actors (N : Type) where
  main : Main N
  watch : WatchActor N
  wires : Wires
  log : Log

def Actors.start {N : Type} : Actors N := ⟨⟨[], none, none⟩, ⟨[], none, none, .idle⟩, .start, ⟨[], [], [], [], []⟩⟩

def statusesOf : Progress → List (GameState × Status)
  | .unopened _ => []
  | .waiting watcher => watcher.statuses
  | .returned watcher _ => watcher.statuses

def skewsOf : Progress → List String
  | .unopened _ => []
  | .waiting watcher => watcher.skews
  | .returned watcher _ => watcher.skews

inductive Event (N : Type) where
  | send (cmd : Cmd)
  | take
  | connects (fresh : Except String N)
  /-- The command's calls return, on a node that may have changed before. -/
  | finish (draws : Draws) (meanwhile : N → N)
  | turn (meanwhile : N → N)
  | watchConnects (fresh : Except String N)
  | status
  | skew
  | wake (meanwhile : N → N)
  /-- A command arrives first, and the watch is dropped. -/
  | preempt
  | ends

section Steps
variable {N : Type} [NodeClient N] (app : App N) (actors : Actors N)

def isDead (client : Option N) : Bool := client.all app.isDisconnected

def forward (cmds : List Cmd) : Actors N :=
  { actors with
    watch := { actors.watch with queue := actors.watch.queue ++ cmds }
    log := { actors.log with forwarded := actors.log.forwarded ++ cmds } }

def enter : Cmd → Actors N
  | .openGame _ => { actors with wires := { actors.wires with view := none } }
  | _ => actors

def conclude (served : Served) : Actors N :=
  let actors := { actors with log := { actors.log with served := actors.log.served ++ [served] } }
  match served.result with
  | .ok () => { actors with
      main := { actors.main with serving := none }
      wires := { actors.wires with busy := false } }
  | .error fault =>
    let dead := isDead app actors.main.client
    { actors with
      main := { actors.main with serving := none, client := if dead then none else actors.main.client }
      wires := { actors.wires with
        busy := false
        connected := if dead then false else actors.wires.connected
        error := some (app.describe fault) } }

def reconnect (rest : List Cmd) : Actors N :=
  forward { actors with
    main := ⟨rest, none, none⟩
    wires := { actors.wires with connected := false, error := none, mismatch := none }
    log := { actors.log with served := actors.log.served ++ [⟨.reconnect, true, .ok ()⟩] } } [.reconnect]

def take : Actors N :=
  match actors.main.serving, actors.main.queue with
  | none, .reconnect :: rest => reconnect actors rest
  | none, cmd :: rest =>
    let actors := { actors with
      main := { actors.main with queue := rest, serving := some cmd }
      wires := { actors.wires with busy := true, error := none } }
    if actors.main.client.isSome then enter actors cmd else actors
  | _, _ => actors

def connects (fresh : Except String N) : Actors N :=
  match actors.main.serving, actors.main.client, fresh with
  | some cmd, none, .ok client =>
    enter { actors with
      main := { actors.main with client := some client }
      wires := { actors.wires with connected := true } } cmd
  | some cmd, none, .error why => conclude app actors ⟨cmd, false, .error (.node none why)⟩
  | _, _, _ => actors

def finish (draws : Draws) (meanwhile : N → N) : Actors N :=
  match actors.main.serving, actors.main.client with
  | some cmd, some client =>
    let (outcome, client) := (arm app draws cmd).run (meanwhile client)
    let actors := forward { actors with
      main := { actors.main with client := some client }
      wires := outcome.write actors.wires } outcome.forwards
    conclude app actors ⟨cmd, true, outcome.result⟩
  | _, _ => actors

def follow (label : String) (client : N) : Actors N :=
  let (progress, client) :=
    (watchOpening app.rules app.crypto app.reader app.instanceId label app.wasm).run client
  { actors with watch := { actors.watch with
    client := some client
    watching := .live label progress (statusesOf progress) (skewsOf progress) } }

def hushed (wires : Wires) : Wires := { wires with watchError := none, skew := none }

def begin (meanwhile : N → N) (actors : Actors N) (cmd : Cmd) : Actors N :=
  let actors := { actors with log := { actors.log with begun := actors.log.begun ++ [cmd] } }
  match cmd with
  | .reconnect => { actors with
      watch := { actors.watch with client := none }
      wires := hushed actors.wires }
  | .watch label =>
    let actors := { actors with wires := hushed actors.wires }
    match actors.watch.client with
    | some client => follow app actors label (meanwhile client)
    | none => { actors with watch := { actors.watch with watching := .connecting label } }
  | _ => actors

def turn (meanwhile : N → N) : Actors N :=
  match actors.watch.watching, actors.watch.next, actors.watch.queue with
  | .idle, some cmd, _ => begin app meanwhile { actors with watch := { actors.watch with next := none } } cmd
  | .idle, none, cmd :: rest => begin app meanwhile { actors with watch := { actors.watch with queue := rest } } cmd
  | _, _, _ => actors

def lapse (fault : Option String) : Actors N :=
  { actors with
    watch := { actors.watch with
      watching := .idle
      client := if isDead app actors.watch.client then none else actors.watch.client }
    wires := { actors.wires with watchError := fault.or actors.wires.watchError } }

def watchConnects (fresh : Except String N) : Actors N :=
  match actors.watch.watching, fresh with
  | .connecting label, .ok client => follow app actors label client
  | .connecting _, .error why => lapse app actors (some (app.describe (.node none why)))
  | _, _ => actors

def shows (label : String) (report : GameState × Status) (view : GameView) : GameView :=
  if view.label = label then { view with state := report.1, status := report.2 } else view

def status : Actors N :=
  match actors.watch.watching with
  | .live label progress (report :: statuses) skews => { actors with
      watch := { actors.watch with watching := .live label progress statuses skews }
      wires := { actors.wires with view := actors.wires.view.map (shows label report) }
      log := { actors.log with reports := actors.log.reports ++ [(label, report)] } }
  | _ => actors

def hear (message : String) : Option String := if message = SKEW_RESOLVED then none else some message

def skew : Actors N :=
  match actors.watch.watching with
  | .live label progress statuses (message :: skews) => { actors with
      watch := { actors.watch with watching := .live label progress statuses skews }
      wires := { actors.wires with skew := hear message } }
  | _ => actors

def wake (meanwhile : N → N) : Actors N :=
  match actors.watch.watching, actors.watch.client with
  | .live label (.waiting watcher) [] [], some client =>
    let (progress, client) := (onWake app.rules app.crypto app.reader watcher).run (meanwhile client)
    { actors with watch := { actors.watch with
      client := some client
      watching := .live label progress ((statusesOf progress).drop watcher.statuses.length)
        ((skewsOf progress).drop watcher.skews.length) } }
  | _, _ => actors

/-- The client goes with the watch: what it has asked for is answered all the same, and the
next to ask would read that answer. -/
def preempt : Actors N :=
  match actors.watch.watching, actors.watch.queue with
  | .live _ _ _ _, cmd :: rest => { actors with watch := ⟨rest, none, some cmd, .idle⟩ }
  | _, _ => actors

/-- The end of a game is quiet, and the end of a socket is not. -/
def ends : Actors N :=
  match actors.watch.watching with
  | .live _ (.returned _ (.ok ())) [] [] =>
    lapse app actors (if isDead app actors.watch.client then
      some "the connection to the node was lost while watching this game" else none)
  | .live _ (.returned _ (.error fault)) [] [] => lapse app actors (some (app.describe fault))
  | .live _ (.unopened fault) [] [] => lapse app actors (some (app.describe fault))
  | _ => actors

/-- One event. One that cannot happen changes nothing. -/
def react : Event N → Actors N
  | .send cmd => { actors with
      main := { actors.main with queue := actors.main.queue ++ [cmd] }
      log := { actors.log with sent := actors.log.sent ++ [cmd] } }
  | .take => take actors
  | .connects fresh => connects app actors fresh
  | .finish draws meanwhile => finish app actors draws meanwhile
  | .turn meanwhile => turn app actors meanwhile
  | .watchConnects fresh => watchConnects app actors fresh
  | .status => status actors
  | .skew => skew actors
  | .wake meanwhile => wake app actors meanwhile
  | .preempt => preempt actors
  | .ends => ends app actors

def run (events : List (Event N)) : Actors N := events.foldl (react app) .start

end Steps

/-- What a served command has sent to the watch actor. -/
def Served.forwards (served : Served) : List Cmd :=
  match served.cmd, served.result with
  | .reconnect, _ => [.reconnect]
  | .watch label, .ok () => [.watch label]
  | .migrate label, .ok () => [.watch label]
  | _, _ => []

def Watching.label : Watching → Option String
  | .idle => none
  | .connecting label => some label
  | .live label _ _ _ => some label

/-- Where the commands are. -/
structure Orderly {N : Type} (actors : Actors N) : Prop where
  sent : actors.log.sent =
    actors.log.served.map Served.cmd ++ actors.main.serving.toList ++ actors.main.queue
  forwarded : actors.log.forwarded = actors.log.served.flatMap Served.forwards
  begun : actors.log.forwarded = actors.log.begun ++ actors.watch.next.toList ++ actors.watch.queue
  serving : actors.main.serving ≠ some .reconnect
  parked : actors.watch.watching.label ≠ none → actors.watch.next = none
  watched : ∀ label, actors.watch.watching.label = some label → actors.log.begun.getLast? = some (.watch label)

theorem orderly_start {N : Type} : Orderly (Actors.start : Actors N) where
  sent := rfl
  forwarded := rfl
  begun := rfl
  serving := by simp [Actors.start]
  parked _ := rfl
  watched label watched := by cases watched

section Order
variable {N : Type} {app : App N} {actors : Actors N}

theorem conclude_log (served : Served) :
    (conclude app actors served).log = { actors.log with served := actors.log.served ++ [served] } := by
  unfold conclude
  cases served.result <;> rfl

theorem conclude_watch (served : Served) : (conclude app actors served).watch = actors.watch := by
  unfold conclude
  cases served.result <;> rfl

theorem conclude_queue (served : Served) : (conclude app actors served).main.queue = actors.main.queue := by
  unfold conclude
  cases served.result <;> rfl

theorem conclude_serving (served : Served) : (conclude app actors served).main.serving = none := by
  unfold conclude
  cases served.result <;> rfl

theorem enter_log (cmd : Cmd) : (enter actors cmd).log = actors.log := by cases cmd <;> rfl
theorem enter_main (cmd : Cmd) : (enter actors cmd).main = actors.main := by cases cmd <;> rfl
theorem enter_watch (cmd : Cmd) : (enter actors cmd).watch = actors.watch := by cases cmd <;> rfl

theorem orderly_conclude (orderly : Orderly actors) {cmd : Cmd} {reached : Bool} {result : Except SessionError Unit}
    (serving : actors.main.serving = some cmd) (forwards : List Cmd)
    (sends : forwards = Served.forwards ⟨cmd, reached, result⟩) :
    Orderly (conclude app (forward actors forwards) ⟨cmd, reached, result⟩) where
  sent := by
    rw [conclude_log, conclude_serving, conclude_queue]
    simpa [forward, serving] using orderly.sent
  forwarded := by
    rw [conclude_log]
    simp [forward, orderly.forwarded, sends]
  begun := by
    rw [conclude_log, conclude_watch]
    simp [forward, orderly.begun]
  serving := by simp [conclude_serving]
  parked := by
    rw [conclude_watch]
    exact orderly.parked
  watched := by
    rw [conclude_log, conclude_watch]
    exact orderly.watched

theorem orderly_enter (orderly : Orderly actors) (cmd : Cmd) : Orderly (enter actors cmd) := by
  constructor
  · simpa only [enter_log, enter_main] using orderly.sent
  · simpa only [enter_log] using orderly.forwarded
  · simpa only [enter_log, enter_watch] using orderly.begun
  · simpa only [enter_main] using orderly.serving
  · simpa only [enter_watch] using orderly.parked
  · simpa only [enter_log, enter_watch] using orderly.watched

theorem Orderly.calls (orderly : Orderly actors) (client : Option N) (wires : Wires) :
    Orderly { actors with main := { actors.main with client := client }, wires := wires } :=
  ⟨orderly.sent, orderly.forwarded, orderly.begun, orderly.serving, orderly.parked, orderly.watched⟩

theorem Orderly.watches {label : String} (orderly : Orderly actors)
    (watching : actors.watch.watching.label = some label) (client : Option N) (progress : Progress)
    (statuses : List (GameState × Status)) (skews : List String) (wires : Wires)
    (reports : List (String × GameState × Status)) : Orderly { actors with
      watch := { actors.watch with client := client, watching := .live label progress statuses skews }
      wires := wires
      log := { actors.log with reports := reports } } where
  sent := orderly.sent
  forwarded := orderly.forwarded
  begun := orderly.begun
  serving := orderly.serving
  parked _ := orderly.parked (by simp [watching])
  watched other same := by
    obtain rfl := Option.some.inj same
    exact orderly.watched label watching

theorem orderly_take (orderly : Orderly actors) : Orderly (take actors) := by
  unfold take
  cases serving : actors.main.serving with
  | some cmd => exact orderly
  | none =>
    cases queue : actors.main.queue with
    | nil => exact orderly
    | cons cmd rest =>
      have sent := orderly.sent
      rw [serving, queue] at sent
      by_cases teardown : cmd = .reconnect
      · subst teardown
        refine ⟨?_, ?_, ?_, by simp [reconnect, forward], orderly.parked, orderly.watched⟩
        · simpa [reconnect, forward] using sent
        · simp [reconnect, forward, orderly.forwarded, Served.forwards]
        · simp [reconnect, forward, orderly.begun]
      · have taken : Orderly { actors with
            main := { actors.main with queue := rest, serving := some cmd }
            wires := { actors.wires with busy := true, error := none } } :=
          ⟨by simpa using sent, orderly.forwarded, orderly.begun, by simpa using teardown, orderly.parked,
            orderly.watched⟩
        cases cmd with
        | reconnect => exact absurd rfl teardown
        | _ =>
          dsimp only
          split_ifs
          · exact orderly_enter taken _
          · exact taken

theorem orderly_connects (orderly : Orderly actors) (fresh : Except String N) :
    Orderly (connects app actors fresh) := by
  unfold connects
  cases serving : actors.main.serving with
  | none => exact orderly
  | some cmd =>
    cases actors.main.client with
    | some client => exact orderly
    | none =>
      cases fresh with
      | ok client =>
        exact orderly_enter (orderly.calls (some client) _) cmd
      | error why =>
        have silent : Served.forwards ⟨cmd, false, .error (.node none why)⟩ = [] := by
          cases cmd with
          | reconnect => exact absurd serving orderly.serving
          | _ => rfl
        have quiet : forward actors [] = actors := by simp [forward]
        have done : Orderly (conclude app (forward actors []) ⟨cmd, false, .error (.node none why)⟩) :=
          orderly_conclude orderly serving [] silent.symm
        rwa [quiet] at done

theorem orderly_lapse (orderly : Orderly actors) (fault : Option String) : Orderly (lapse app actors fault) :=
  ⟨orderly.sent, orderly.forwarded, orderly.begun, orderly.serving, fun live => absurd rfl live,
    fun label watched => by cases watched⟩

theorem orderly_status (orderly : Orderly actors) : Orderly (status actors) := by
  unfold status
  split
  next label progress report statuses skews watching =>
    exact orderly.watches (by rw [watching]; rfl) _ progress statuses skews _ _
  next => exact orderly

theorem orderly_skew (orderly : Orderly actors) : Orderly (skew actors) := by
  unfold skew
  split
  next label progress statuses message skews watching =>
    exact orderly.watches (by rw [watching]; rfl) _ progress statuses skews _ _
  next => exact orderly

theorem orderly_preempt (orderly : Orderly actors) : Orderly (preempt actors) := by
  unfold preempt
  cases watching : actors.watch.watching with
  | idle | connecting label => exact orderly
  | live label progress statuses skews =>
    cases queue : actors.watch.queue with
    | nil => exact orderly
    | cons cmd rest =>
      have parked : actors.watch.next = none := orderly.parked (by simp [watching, Watching.label])
      have begun := orderly.begun
      rw [parked, queue] at begun
      exact ⟨orderly.sent, orderly.forwarded, by simpa using begun, orderly.serving, fun live => absurd rfl live,
        fun label watched => by cases watched⟩

theorem orderly_ends (orderly : Orderly actors) : Orderly (ends app actors) := by
  unfold ends
  split
  · exact orderly_lapse orderly _
  · exact orderly_lapse orderly _
  · exact orderly_lapse orderly _
  · exact orderly

end Order

section Calls
variable {N : Type} [NodeClient N] {app : App N} {actors : Actors N}

theorem writing_cases {N α : Type} (flow : Client N α) (write : α → Wires → Wires) (node : N) :
    (∃ value node', perform flow node = (.ok value, node') ∧
      ((writing flow write).run node).1 = ⟨.ok (), write value, []⟩) ∨
    ∃ fault, ((writing flow write).run node).1 = ⟨.error fault, id, []⟩ := by
  unfold writing
  rw [run_bind]
  cases done : flow.run.run node with
  | mk outcome node' =>
    cases outcome with
    | ok value => exact .inl ⟨value, node', done, rfl⟩
    | error fault => exact .inr ⟨fault, rfl⟩

theorem forwards_writing {N α : Type} (flow : Client N α) (write : α → Wires → Wires) (node : N) :
    ((writing flow write).run node).1.forwards = [] := by
  rcases writing_cases flow write node with ⟨value, node', -, is⟩ | ⟨fault, is⟩ <;> rw [is]

theorem forwards_openArm (label : String) (node : N) : ((openArm app label).run node).1.forwards = [] := by
  unfold openArm
  rw [run_bind]
  cases ((openGameView app label).run.run node).1 <;> rfl

theorem forwards_migrateArm (label : String) (node : N) :
    ((migrateArm app label).run node).1.forwards =
      Served.forwards ⟨.migrate label, true, ((migrateArm app label).run node).1.result⟩ := by
  unfold migrateArm
  rw [run_bind]
  cases ((Migration.migrateLabel app.crypto app.reader app.instanceId label app.wasm).run.run node).1 with
  | error fault => rfl
  | ok outcome =>
    dsimp only
    rw [run_bind]
    cases ((openGameView app label).run.run _).1 <;> rfl

theorem forwards_arm (draws : Draws) {cmd : Cmd} (other : cmd ≠ .reconnect) (node : N) :
    ((arm app draws cmd).run node).1.forwards =
      Served.forwards ⟨cmd, true, ((arm app draws cmd).run node).1.result⟩ := by
  cases cmd with
  | reconnect => exact absurd rfl other
  | connect | watch label => rfl
  | openGame label => exact forwards_openArm label node
  | migrate label => exact forwards_migrateArm label node
  | listGames | newGame _ _ | accept _ _ | bind _ _ | play _ _ | resign _ | drawOffer _ | drawAccept _
    | drawClaim _ => exact forwards_writing _ _ node

theorem finish_idle {draws : Draws} {meanwhile : N → N} (idle : actors.main.serving = none ∨
    actors.main.client = none) :
    finish app actors draws meanwhile = actors := by
  unfold finish
  rcases idle with idle | idle
  · simp only [idle]
  · rw [idle]
    cases actors.main.serving <;> rfl

theorem finish_eq {cmd : Cmd} {client : N} {draws : Draws} {meanwhile : N → N}
    (serving : actors.main.serving = some cmd) (has : actors.main.client = some client) :
    finish app actors draws meanwhile =
      conclude app (forward { actors with
        main := { actors.main with client := some ((arm app draws cmd).run (meanwhile client)).2 }
        wires := ((arm app draws cmd).run (meanwhile client)).1.write actors.wires }
          ((arm app draws cmd).run (meanwhile client)).1.forwards)
        ⟨cmd, true, ((arm app draws cmd).run (meanwhile client)).1.result⟩ := by
  unfold finish
  simp only [serving, has]
  rfl

theorem orderly_finish (orderly : Orderly actors) (draws : Draws) (meanwhile : N → N) :
    Orderly (finish app actors draws meanwhile) := by
  cases serving : actors.main.serving with
  | none =>
    rw [finish_idle (.inl serving)]
    exact orderly
  | some cmd =>
    cases has : actors.main.client with
    | none =>
      rw [finish_idle (.inr has)]
      exact orderly
    | some client =>
      have other : cmd ≠ .reconnect := fun same => orderly.serving (same ▸ serving)
      rw [finish_eq serving has]
      have called := orderly.calls (some ((arm app draws cmd).run (meanwhile client)).2)
        (((arm app draws cmd).run (meanwhile client)).1.write actors.wires)
      exact orderly_conclude called serving _ (forwards_arm draws other (meanwhile client))

theorem orderly_follow (orderly : Orderly actors) (label : String) (client : N)
    (begun : actors.log.begun.getLast? = some (.watch label)) (unparked : actors.watch.next = none) :
    Orderly (follow app actors label client) where
  sent := orderly.sent
  forwarded := orderly.forwarded
  begun := orderly.begun
  serving := orderly.serving
  parked _ := unparked
  watched other watched := by
    obtain rfl := Option.some.inj watched
    exact begun

theorem orderly_begin (orderly : Orderly actors) (cmd : Cmd) (queue : List Cmd) (meanwhile : N → N)
    (idle : actors.watch.watching = .idle)
    (coming : actors.watch.next.toList ++ actors.watch.queue = cmd :: queue) :
    Orderly (begin app meanwhile
      { actors with watch := { actors.watch with next := none, queue := queue } } cmd) := by
  have begun : actors.log.forwarded = actors.log.begun ++ [cmd] ++ [] ++ queue := by
    rw [orderly.begun, List.append_assoc, coming, List.append_nil, List.append_assoc]
    rfl
  have still : ∀ wires client, Orderly { actors with
      watch := ⟨queue, client, none, .idle⟩
      wires := wires
      log := { actors.log with begun := actors.log.begun ++ [cmd] } } := fun wires client =>
    ⟨orderly.sent, orderly.forwarded, begun, orderly.serving, fun live => absurd rfl live,
      fun label watched => by cases watched⟩
  unfold begin
  cases cmd with
  | reconnect =>
    dsimp only
    rw [idle]
    exact still _ none
  | watch label =>
    dsimp only
    rw [idle]
    cases actors.watch.client with
    | some client => exact orderly_follow (still _ _) label _ List.getLast?_concat rfl
    | none =>
      refine ⟨orderly.sent, orderly.forwarded, begun, orderly.serving, fun _ => rfl, fun other watched => ?_⟩
      obtain rfl := Option.some.inj watched
      exact List.getLast?_concat
  | _ =>
    dsimp only
    rw [idle]
    exact still _ _

theorem orderly_turn (orderly : Orderly actors) (meanwhile : N → N) : Orderly (turn app actors meanwhile) := by
  unfold turn
  cases idle : actors.watch.watching with
  | connecting label => exact orderly
  | live label progress statuses skews => exact orderly
  | idle =>
    cases next : actors.watch.next with
    | some cmd => exact orderly_begin orderly cmd actors.watch.queue meanwhile idle (by rw [next]; rfl)
    | none =>
      cases queue : actors.watch.queue with
      | nil => exact orderly
      | cons cmd rest =>
        have coming : Orderly (begin app meanwhile
            { actors with watch := { actors.watch with next := none, queue := rest } } cmd) :=
          orderly_begin orderly cmd rest meanwhile idle (by rw [next, queue]; rfl)
        rw [← next] at coming
        exact coming

theorem orderly_watchConnects (orderly : Orderly actors) (fresh : Except String N) :
    Orderly (watchConnects app actors fresh) := by
  unfold watchConnects
  cases watching : actors.watch.watching with
  | idle => exact orderly
  | live label progress statuses skews => exact orderly
  | connecting label =>
    have is : actors.watch.watching.label = some label := by rw [watching]; rfl
    cases fresh with
    | ok client =>
      exact orderly_follow orderly label client (orderly.watched label is) (orderly.parked (by rw [is]; simp))
    | error why => exact orderly_lapse orderly _

theorem orderly_wake (orderly : Orderly actors) (meanwhile : N → N) : Orderly (wake app actors meanwhile) := by
  unfold wake
  split
  next label watcher client watching known =>
    exact orderly.watches (by rw [watching]; rfl) _ _ _ _ _ _
  next => exact orderly

theorem orderly_react (orderly : Orderly actors) (event : Event N) : Orderly (react app actors event) := by
  cases event with
  | send cmd =>
    refine ⟨?_, orderly.forwarded, orderly.begun, orderly.serving, orderly.parked, orderly.watched⟩
    simp [react, orderly.sent]
  | take => exact orderly_take orderly
  | connects fresh => exact orderly_connects orderly fresh
  | finish draws meanwhile => exact orderly_finish orderly draws meanwhile
  | turn meanwhile => exact orderly_turn orderly meanwhile
  | watchConnects fresh => exact orderly_watchConnects orderly fresh
  | status => exact orderly_status orderly
  | skew => exact orderly_skew orderly
  | wake meanwhile => exact orderly_wake orderly meanwhile
  | preempt => exact orderly_preempt orderly
  | ends => exact orderly_ends orderly

end Calls

theorem orderly_run {N : Type} [NodeClient N] (app : App N) (events : List (Event N)) : Orderly (run app events) := by
  induction events using List.reverseRecOn with
  | nil => exact orderly_start
  | append_singleton events event ih =>
    rw [run, List.foldl_append]
    exact orderly_react ih event

/-- In whatever order things happen: what the screens have sent is what was served, then what
is being served, then the queue; what the served commands stand for is what the watch actor
has begun, then the command for which it gave up a watch, then its queue; and what it follows
is the game of the command that it began last. -/
theorem commands_kept {N : Type} [NodeClient N] (app : App N) (events : List (Event N)) :
    (run app events).log.sent = (run app events).log.served.map Served.cmd ++
      (run app events).main.serving.toList ++ (run app events).main.queue ∧
    (run app events).log.served.flatMap Served.forwards = (run app events).log.begun ++
      (run app events).watch.next.toList ++ (run app events).watch.queue ∧
    ∀ label, (run app events).watch.watching.label = some label →
      (run app events).log.begun.getLast? = some (.watch label) :=
  have orderly := orderly_run app events
  ⟨orderly.sent, orderly.forwarded.symm.trans orderly.begun, orderly.watched⟩

end Adjourn.Conn
