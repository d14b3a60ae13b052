import Adjourn.Session

/-! Following a game: what a watcher merges, and what it reports before it waits. -/

namespace Adjourn.Watch
open Cbor OrderedMap NormalForm Contract Delegate Session

section Payloads
variable (crypto : Crypto) (reader : Reader)

def decodeStatePayload (bytes : Bytes) : Except SessionError (Option GameState) :=
  if bytes.isEmpty then .ok none
  else
    match GameState.decode crypto reader bytes with
    | some state => .ok (some state)
    | none => .error (.undecodable "an update notification's State payload did not decode as a GameState")

def decodeDeltaPayload (bytes : Bytes) : Except SessionError (Option Delta) :=
  if bytes.isEmpty then .ok none
  else (reader.records bytes).map some |>.mapError .undecodableDelta

variable {crypto reader} in
theorem decodeStatePayload_encode (reads : reader.RoundTrips) {state : GameState}
    (keyed : state.Keyed crypto) : decodeStatePayload crypto reader state.encode = .ok (some state) := by
  have sent : state.encode.isEmpty = false := by simpa using state.encode_ne_nil
  rw [decodeStatePayload, sent, if_neg Bool.false_ne_true, GameState.decode,
    GameState.deserialize_encode reads keyed]
  rfl

def decodeSubscribed : Option Bytes → Except SessionError (Option GameState)
  | some bytes => decodeStatePayload crypto reader bytes
  | none => .ok none

def mergeState (params : GameParams) (state : GameState) (bytes : Bytes) : Except SessionError GameState := do
  match ← decodeStatePayload crypto reader bytes with
  | some incoming => return state.merge crypto params incoming
  | none => return state

def mergeDelta (params : GameParams) (state : GameState) (bytes : Bytes) : Except SessionError GameState := do
  match ← decodeDeltaPayload reader bytes with
  | some delta => return state.applyDelta crypto params delta
  | none => return state

def mergeUpdate (params : GameParams) (state : GameState) :
    UpdateData → Except SessionError (Option GameState)
  | .state bytes => some <$> mergeState crypto reader params state bytes
  | .delta bytes => some <$> mergeDelta crypto reader params state bytes
  | .stateAndDelta incoming delta => do
    let state ← mergeState crypto reader params state incoming
    some <$> mergeDelta crypto reader params state delta
  | .relatedState | .relatedDelta | .relatedStateAndDelta | .unknown => return none

end Payloads

def SKEW_WARNING : String :=
  "your opponent is still on the previous contract version -- your " ++
    "moves are not reaching them. Both players must run the same adjourn-contract build."

def SKEW_RESOLVED : String :=
  "the opponent's moves are reaching this contract again -- the " ++
    "earlier skew warning no longer applies."

def opponentMovedOnPrevious (current previous : GameState) (ours : KeyBytes) : Bool :=
  previous.records.toList.any fun entry =>
    decide (entry.2.signer ≠ ours) && !current.records.contains entry.1

/-- Edge-triggered: the new answer, and the message where it is another one. -/
def recomputeSkew (current : GameState) (previous : Option GameState) (ours : KeyBytes) (skewed : Bool) :
    Bool × Option String :=
  match previous with
  | none => (skewed, none)
  | some previous =>
    let now := opponentMovedOnPrevious current previous ours
    if now = skewed then (skewed, none) else (now, some (if now then SKEW_WARNING else SKEW_RESOLVED))

/-- The variables of the loop, and the calls of the two callbacks so far. -/
structure Watcher where
  view : GameView
  state : GameState
  previousState : Option GameState
  previousUnreachable : Bool
  skewed : Bool
  statuses : List (GameState × Status)
  skews : List String

inductive Progress where
  | unopened (fault : SessionError)
  | waiting (watcher : Watcher)
  | returned (watcher : Watcher) (result : Except SessionError Unit)

namespace Watcher
variable (rules : Rules) (crypto : Crypto) (watcher : Watcher)

def start (view : GameView) : Watcher where
  view := view
  state := view.state
  previousState := none
  previousUnreachable := false
  skewed := false
  statuses := [(view.state, view.status)]
  skews := []

def status : Status := watcher.state.project rules crypto watcher.view.params

def report : Watcher :=
  { watcher with statuses := watcher.statuses ++ [(watcher.state, watcher.status rules crypto)] }

def checkSkew : Watcher :=
  let ours := watcher.view.params.keyOf watcher.view.side.toColor
  let (skewed, message) := recomputeSkew watcher.state watcher.previousState ours watcher.skewed
  { watcher with skewed := skewed, skews := watcher.skews ++ message.toList }

/-- What a watcher owes before it waits: the state it holds was reported last, with its
projection, and the game goes on. -/
def Reported : Prop :=
  watcher.statuses.getLast? = some (watcher.state, watcher.status rules crypto) ∧
    (watcher.status rules crypto).decision = none

end Watcher

section Watching
variable {N : Type} [NodeClient N] (rules : Rules) (crypto : Crypto) (reader : Reader)
  (instanceId : Bytes → Bytes → Bytes32)

def refreshPreviousState (id : Bytes32) (subscribe : Bool) (previousState : Option GameState)
    (unreachable : Bool) : StateM N (Option GameState × Bool) := do
  if unreachable then return (previousState, unreachable)
  match ← NodeClient.get id subscribe with
  | .error _ => return (previousState, true)
  | .ok none => return (previousState, unreachable)
  | .ok (some bytes) =>
    match decodeStatePayload crypto reader bytes with
    | .ok (some state) => return (some state, unreachable)
    | .ok none => return (previousState, unreachable)
    | .error _ => return (previousState, true)

def checkPrevious (old : Bytes32) (subscribe : Bool) (watcher : Watcher) : StateM N Watcher := do
  let (previousState, unreachable) ←
    refreshPreviousState crypto reader old subscribe watcher.previousState watcher.previousUnreachable
  return Watcher.checkSkew
    { watcher with previousState := previousState, previousUnreachable := unreachable }

def watchPrevious (watcher : Watcher) : StateM N Progress := do
  match watcher.view.previous with
  | some old => return .waiting (← checkPrevious crypto reader old true watcher)
  | none => return .waiting watcher

/-- The answer to the subscribing GET is merged, and reported where it changed the number
of records. -/
def watchSubscribed (watcher : Watcher) : Option GameState → StateM N Progress
  | none => watchPrevious crypto reader watcher
  | some fresh =>
    let before := watcher.state.records.size
    let watcher := { watcher with state := watcher.state.merge crypto watcher.view.params fresh }
    if watcher.state.records.size ≠ before then
      if (watcher.status rules crypto).isOver then
        return .returned (watcher.report rules crypto) (.ok ())
      else watchPrevious crypto reader (watcher.report rules crypto)
    else watchPrevious crypto reader watcher

def watchOpening (label : String) (wasm : Bytes) : StateM N Progress := do
  match ← (openGame rules crypto reader instanceId label wasm).run with
  | .error fault => return .unopened fault
  | .ok game =>
    let watcher := Watcher.start game.view
    -- a decided game never sends another notification
    if game.view.status.isOver then return .returned watcher (.ok ())
    else
      match ← NodeClient.get game.view.contract true with
      | .error reason => return .returned watcher (.error (.node none reason))
      | .ok subscribed =>
        match decodeSubscribed crypto reader subscribed with
        | .error fault => return .returned watcher (.error fault)
        | .ok fresh => watchSubscribed rules crypto reader watcher fresh

def takeUpdate (watcher : Watcher) (update : UpdateData) : Progress :=
  match mergeUpdate crypto reader watcher.view.params watcher.state update with
  | .error fault => .returned watcher (.error fault)
  | .ok none => .waiting watcher
  | .ok (some state) =>
    let watcher := { watcher with state := state }
    let watcher := if watcher.view.previous.isSome then watcher.checkSkew else watcher
    if (watcher.status rules crypto).isOver then .returned (watcher.report rules crypto) (.ok ())
    else .waiting (watcher.report rules crypto)

def onWake (watcher : Watcher) : StateM N Progress := do
  match ← NodeClient.nextUpdate with
  | .error reason => return .returned watcher (.error (.node none reason))
  | .ok none => return .returned watcher (.ok ())
  | .ok (some (id, update)) =>
    if id ≠ watcher.view.contract then
      match watcher.view.previous with
      | some old =>
        if id = old then return .waiting (← checkPrevious crypto reader old false watcher)
        else return .waiting watcher
      | none => return .waiting watcher
    else return takeUpdate rules crypto reader watcher update

def watchLabel (label : String) (wasm : Bytes) : Nat → StateM N Progress
  | 0 => watchOpening rules crypto reader instanceId label wasm
  | wakes + 1 => do
    match ← watchLabel label wasm wakes with
    | .waiting watcher => onWake rules crypto reader watcher
    | done => return done

section Steps
variable {rules crypto reader instanceId} {node : N} {watcher later : Watcher}

theorem reported_checkPrevious (old : Bytes32) (subscribe : Bool) :
    Watcher.Reported rules crypto ((checkPrevious crypto reader old subscribe watcher).run node).1 ↔
      watcher.Reported rules crypto := Iff.rfl

theorem reported_report (goes : (watcher.status rules crypto).isOver = false) :
    (watcher.report rules crypto).Reported rules crypto := by
  have undecided : (watcher.status rules crypto).decision.isSome = false := goes
  refine ⟨List.getLast?_concat .., ?_⟩
  show (watcher.status rules crypto).decision = none
  simpa using undecided

theorem watchPrevious_waits (watcher : Watcher) (node : N) :
    (∀ later, ((watchPrevious crypto reader watcher).run node).1 = .waiting later →
      later.Reported rules crypto) ↔ watcher.Reported rules crypto := by
  unfold watchPrevious
  cases watcher.view.previous with
  | none =>
    constructor
    · intro all
      exact all watcher rfl
    · intro reported later waits
      obtain rfl := Progress.waiting.inj waits
      exact reported
  | some old =>
    constructor
    · intro all
      exact (reported_checkPrevious old true).1 (all _ rfl)
    · intro reported later waits
      obtain rfl := Progress.waiting.inj waits
      exact (reported_checkPrevious old true).2 reported

theorem reported_takeUpdate {update : UpdateData} (reported : watcher.Reported rules crypto)
    (waits : takeUpdate rules crypto reader watcher update = .waiting later) :
    later.Reported rules crypto := by
  unfold takeUpdate at waits
  cases merging : mergeUpdate crypto reader watcher.view.params watcher.state update with
  | error fault =>
    rw [merging] at waits
    cases waits
  | ok merged =>
    rw [merging] at waits
    cases merged with
    | none =>
      obtain rfl := Progress.waiting.inj waits
      exact reported
    | some state =>
      simp only at waits
      split_ifs at waits with migrated ended ended
      · obtain rfl := Progress.waiting.inj waits
        exact reported_report (Bool.eq_false_iff.2 ended)
      · obtain rfl := Progress.waiting.inj waits
        exact reported_report (Bool.eq_false_iff.2 ended)

theorem reported_onWake (reported : watcher.Reported rules crypto)
    (waits : ((onWake rules crypto reader watcher).run node).1 = .waiting later) :
    later.Reported rules crypto := by
  unfold onWake at waits
  rw [run_bind] at waits
  cases woken : (NodeClient.nextUpdate.run node).1 with
  | error reason =>
    rw [woken] at waits
    cases waits
  | ok incoming =>
    rw [woken] at waits
    cases incoming with
    | none => cases waits
    | some update =>
      by_cases own : update.1 = watcher.view.contract
      · have taken : takeUpdate rules crypto reader watcher update.2 = .waiting later := by
          simpa only [own, ne_eq, not_true_eq_false, if_false, run_pure] using waits
        exact reported_takeUpdate reported taken
      · simp only [ne_eq, own, not_false_eq_true, if_true] at waits
        cases past : watcher.view.previous with
        | none =>
          simp only [past] at waits
          obtain rfl := Progress.waiting.inj waits
          exact reported
        | some old =>
          simp only [past] at waits
          split_ifs at waits with left
          · obtain rfl := Progress.waiting.inj waits
            exact (reported_checkPrevious old false).2 reported
          · obtain rfl := Progress.waiting.inj waits
            exact reported

theorem reported_watchLabel {label : String} {wasm : Bytes}
    (first : ∀ later, ((watchOpening rules crypto reader instanceId label wasm).run node).1 =
      .waiting later → later.Reported rules crypto) (wakes : Nat)
    (waits : ((watchLabel rules crypto reader instanceId label wasm wakes).run node).1 = .waiting later) :
    later.Reported rules crypto := by
  induction wakes generalizing later with
  | zero => exact first later waits
  | succ wakes ih =>
    rw [watchLabel, run_bind] at waits
    cases earlier : ((watchLabel rules crypto reader instanceId label wasm wakes).run node).1 with
    | unopened fault =>
      rw [earlier] at waits
      cases waits
    | returned watcher result =>
      rw [earlier] at waits
      cases waits
    | waiting watcher =>
      rw [earlier] at waits
      exact reported_onWake (ih earlier) waits

theorem reported_withState (reported : watcher.Reported rules crypto) (state : GameState) :
    Watcher.Reported rules crypto { watcher with state := state } ↔ state = watcher.state := by
  constructor
  · intro silent
    have last := reported.1.symm.trans silent.1
    exact (congrArg Prod.fst (Option.some.inj last)).symm
  · intro same
    rw [same]
    exact reported

theorem watchSubscribed_waits (fresh : Option GameState) (node : N)
    (reported : watcher.Reported rules crypto) :
    (∀ later, ((watchSubscribed rules crypto reader watcher fresh).run node).1 = .waiting later →
      later.Reported rules crypto) ↔
    ∀ incoming ∈ fresh,
      (watcher.state.merge crypto watcher.view.params incoming).records.size ≠ watcher.state.records.size ∨
        watcher.state.merge crypto watcher.view.params incoming = watcher.state := by
  cases fresh with
  | none =>
    exact iff_of_true ((watchPrevious_waits watcher node).2 reported) (by simp)
  | some incoming =>
    simp only [Option.mem_some_iff, forall_eq', watchSubscribed]
    split_ifs with moved ended
    · exact iff_of_true (fun later waits => by cases waits) (.inl moved)
    · have goes := reported_report (Bool.eq_false_iff.2 ended)
      exact iff_of_true ((watchPrevious_waits _ node).2 goes) (.inl moved)
    · rw [watchPrevious_waits, reported_withState reported]
      exact (or_iff_right moved).symm

theorem watchSubscribed_silent {fresh : GameState} (settled : watcher.view.previous = none)
    (same : (watcher.state.merge crypto watcher.view.params fresh).records.size = watcher.state.records.size) :
    (watchSubscribed rules crypto reader watcher (some fresh)).run node =
      (.waiting { watcher with state := watcher.state.merge crypto watcher.view.params fresh }, node) := by
  rw [watchSubscribed]
  simp only [ne_eq, same, not_true_eq_false, if_false, watchPrevious, settled, run_pure]

theorem reported_start {view : GameView}
    (projected : view.status = view.state.project rules crypto view.params)
    (goes : view.status.isOver = false) : (Watcher.start view).Reported rules crypto := by
  constructor
  · rw [Watcher.status, Watcher.start, ← projected]
    rfl
  · show (view.state.project rules crypto view.params).decision = none
    rw [← projected]
    simpa [Status.isOver] using goes

end Steps

section Opened
variable {rules crypto reader instanceId} {label : String} {wasm : Bytes} {node opened subscribed : N}
  {game : OpenGame} {answer : Option Bytes} {fresh : Option GameState}

theorem watchOpening_ended
    (opening : perform (openGame rules crypto reader instanceId label wasm) node = (.ok game, opened))
    (ended : game.view.status.isOver = true) :
    ((watchOpening rules crypto reader instanceId label wasm).run node).1 =
      .returned (Watcher.start game.view) (.ok ()) := by
  rw [watchOpening, run_bind, show (openGame rules crypto reader instanceId label wasm).run.run node = _ from opening]
  simp only [ended, if_true, run_pure]

theorem watchOpening_goes
    (opening : perform (openGame rules crypto reader instanceId label wasm) node = (.ok game, opened))
    (subscribing : (NodeClient.get game.view.contract true).run opened = (.ok answer, subscribed))
    (decodes : decodeSubscribed crypto reader answer = .ok fresh)
    (goes : game.view.status.isOver = false) :
    (watchOpening rules crypto reader instanceId label wasm).run node =
      (watchSubscribed rules crypto reader (Watcher.start game.view) fresh).run subscribed := by
  rw [watchOpening, run_bind, show (openGame rules crypto reader instanceId label wasm).run.run node = _ from opening]
  simp only [goes, Bool.false_eq_true, if_false, run_bind, subscribing, decodes]

end Opened

/-- A watcher has reported what it holds, and holds an undecided position, at every wait,
exactly where the game is decided as it opens or the answer to the subscribing GET, merged
into the opening state, changes the number of records or nothing at all. -/
theorem reported_at_waits_iff (label : String) (wasm : Bytes) (node opened subscribed : N)
    (game : OpenGame) (answer : Option Bytes) (fresh : Option GameState)
    (opening : perform (openGame rules crypto reader instanceId label wasm) node = (.ok game, opened))
    (subscribing : (NodeClient.get game.view.contract true).run opened = (.ok answer, subscribed))
    (decodes : decodeSubscribed crypto reader answer = .ok fresh) :
    (∀ wakes watcher, ((watchLabel rules crypto reader instanceId label wasm wakes).run node).1 =
      .waiting watcher → watcher.Reported rules crypto) ↔
    game.view.status.isOver = true ∨ ∀ incoming ∈ fresh,
      (game.view.state.merge crypto game.view.params incoming).records.size ≠ game.view.state.records.size ∨
        game.view.state.merge crypto game.view.params incoming = game.view.state := by
  have runs : (∀ wakes watcher, ((watchLabel rules crypto reader instanceId label wasm wakes).run node).1 =
        .waiting watcher → watcher.Reported rules crypto) ↔
      ∀ watcher, ((watchOpening rules crypto reader instanceId label wasm).run node).1 =
        .waiting watcher → watcher.Reported rules crypto := by
    constructor
    · intro all
      exact all 0
    · intro first wakes watcher
      exact reported_watchLabel first wakes
  rw [runs]
  cases ended : game.view.status.isOver with
  | true =>
    refine iff_of_true (fun watcher waits => ?_) (.inl rfl)
    rw [watchOpening_ended opening ended] at waits
    cases waits
  | false =>
    rw [watchOpening_goes opening subscribing decodes ended, or_iff_right Bool.false_ne_true]
    have reported := reported_start (status_of_openGame opening) ended
    exact watchSubscribed_waits fresh subscribed reported

end Watching

/-- A node that answers as written down, GET by GET. -/
structure Script where
  games : List GameSummary
  answers : List (Option Bytes)
  updates : List (Bytes32 × UpdateData)

instance scriptNode : NodeClient Script where
  get _ _ := fun script => (.ok script.answers.head?.join, { script with answers := script.answers.tail })
  put _ _ := return .ok ()
  update _ _ := return .ok ()
  delegate _ := fun script => (.ok (.games script.games), script)
  nextUpdate := fun script => (.ok script.updates.head?, { script with updates := script.updates.tail })

def summary : GameSummary where
  label := "game"
  publicKey := Sample.whiteKey
  gameId := some (Sample.params.gameId Sample.crypto)
  side := some .white
  lastSignedPly := 1
  entropy := some .hostBacked
  params := some Sample.params
  contract := some (Sample.word 0)
  previous := none

def twoAnswers (first second : GameState) : Script where
  games := [summary]
  answers := [some first.encode, some second.encode]
  updates := []

def openedWith (state : GameState) : OpenGame where
  view :=
    { label := "game"
      side := .white
      params := Sample.params
      gameId := Sample.params.gameId Sample.crypto
      contract := Sample.word 0
      previous := none
      state := state
      status := state.project Sample.rules Sample.crypto Sample.params }
  container := ⟨Sample.params.encode, []⟩

theorem twoAnswers_opens {first : GameState} (keyed : first.Keyed Sample.crypto) (second : GameState) :
    perform (openGame Sample.rules Sample.crypto Reader.exact (fun _ _ => Sample.word 0) "game" [])
      (twoAnswers first second) =
        (.ok (openedWith first), { twoAnswers first second with answers := [some second.encode] }) := by
  have bound : perform (boundGame "game") (twoAnswers first second) =
      (.ok ⟨summary, by decide⟩, twoAnswers first second) := (perform_boundGame rfl).trans rfl
  have fetched : perform (fetchState Sample.crypto Reader.exact (Sample.word 0)) (twoAnswers first second) =
      (.ok first, { twoAnswers first second with answers := [some second.encode] }) :=
    perform_fetchState rfl (InSync.fetchState_encode Reader.exact_roundTrips keyed)
  exact perform_openGame bound rfl fetched

def staleOffer : Record := Record.sign Sample.crypto Sample.whiteKey Sample.params (.drawOffer 1 (Sample.word 0))

def acceptedUnseen : GameState :=
  ((GameState.empty.absorbForTest Sample.crypto Sample.opening).absorbForTest Sample.crypto
    staleOffer).absorbForTest Sample.crypto Sample.laterAcceptance

theorem keyed_acceptedUnseen : acceptedUnseen.Keyed Sample.crypto :=
  (((GameState.keyed_empty _).absorbForTest _).absorbForTest _).absorbForTest _

theorem keyed_agreed : Sample.agreed.Keyed Sample.crypto :=
  (((GameState.keyed_empty _).absorbForTest _).absorbForTest _).absorbForTest _

/-- Three more records come with the subscribing GET and are reported. -/
theorem reported_at_waits_arrival : (openedWith .empty).view.status.isOver = false ∧
    ∀ wakes watcher, ((watchLabel Sample.rules Sample.crypto Reader.exact (fun _ _ => Sample.word 0) "game" []
        wakes).run (twoAnswers .empty Sample.agreed)).1 = .waiting watcher →
      watcher.Reported Sample.rules Sample.crypto := by
  refine ⟨by decide +kernel, ?_⟩
  refine (reported_at_waits_iff Sample.rules Sample.crypto Reader.exact (fun _ _ => Sample.word 0) "game" [] _ _
    _ _ _ _ (twoAnswers_opens (GameState.keyed_empty _) Sample.agreed) rfl
    (decodeStatePayload_encode Reader.exact_roundTrips keyed_agreed)).2 (.inr fun incoming fresh => .inl ?_)
  obtain rfl := Option.some.inj fresh
  decide +kernel

/-- The accepted offer arrives with the subscribing GET in the place of the older one: the
game is drawn, three records stay three, and the watcher waits without a word. -/
theorem unreported_acceptance :
    ∃ watcher, ((watchLabel Sample.rules Sample.crypto Reader.exact (fun _ _ => Sample.word 0) "game" [] 0).run
        (twoAnswers acceptedUnseen Sample.agreed)).1 = .waiting watcher ∧
      ¬watcher.Reported Sample.rules Sample.crypto ∧
      (watcher.status Sample.rules Sample.crypto).decision = some ⟨none, .drawAgreement⟩ := by
  have goes : (openedWith acceptedUnseen).view.status.isOver = false := by decide +kernel
  have opened := twoAnswers_opens keyed_acceptedUnseen Sample.agreed
  have opening := watchOpening_goes opened rfl
    (decodeStatePayload_encode Reader.exact_roundTrips keyed_agreed) goes
  refine ⟨_, (congrArg Prod.fst (opening.trans (watchSubscribed_silent rfl ?_))), ?_, ?_⟩
  · decide +kernel
  · rw [reported_withState (reported_start (status_of_openGame opened) goes)]
    intro same
    have gone : (acceptedUnseen.merge Sample.crypto Sample.params Sample.agreed).records[
        staleOffer.id Sample.crypto]? = none := by decide +kernel
    have held : acceptedUnseen.records[staleOffer.id Sample.crypto]? ≠ none := by decide +kernel
    have unchanged : acceptedUnseen.merge Sample.crypto Sample.params Sample.agreed = acceptedUnseen := same
    rw [unchanged] at gone
    exact held gone
  · decide +kernel

end Adjourn.Watch
