import Adjourn.Conn
import Adjourn.Transport

/-! What the signals say. The screens read nothing else of the two actors, so each signal has
to be true of them at any time, and a watch must not end without a word. -/

namespace Adjourn.Conn
open Cbor Contract Delegate Session Watch

inductive Later (rules : Rules) (crypto : Crypto) (watcher : Watcher) : Watcher → Prop
  | refl : Later rules crypto watcher watcher
  | merges {later : Watcher} (state : GameState) (earlier : Later rules crypto watcher later) :
      Later rules crypto watcher { later with state := state }
  | fetches {later : Watcher} (previousState : Option GameState) (unreachable : Bool)
      (earlier : Later rules crypto watcher later) :
      Later rules crypto watcher { later with previousState := previousState, previousUnreachable := unreachable }
  | checks {later : Watcher} (earlier : Later rules crypto watcher later) :
      Later rules crypto watcher later.checkSkew
  | reports {later : Watcher} (earlier : Later rules crypto watcher later) :
      Later rules crypto watcher (later.report rules crypto)

def watcherOf : Progress → Option Watcher
  | .unopened _ => none
  | .waiting watcher => some watcher
  | .returned watcher _ => some watcher

def Ended (watcher : Watcher) : Prop := ∃ report, watcher.statuses.getLast? = some report ∧ report.2.isOver = true

/-- A progress from the watcher: what it comes to, and that it does not end well before the
game does. -/
structure Onward (rules : Rules) (crypto : Crypto) (watcher : Watcher) (progress : Progress) : Prop where
  later : ∃ later, watcherOf progress = some later ∧ Later rules crypto watcher later
  ended : ∀ later, progress = .returned later (.ok ()) → Ended later

section Following
variable {N : Type} [NodeClient N] {rules : Rules} {crypto : Crypto} {reader : Reader} {watcher later : Watcher}

theorem Onward.waits (reached : Later rules crypto watcher later) : Onward rules crypto watcher (.waiting later) :=
  ⟨⟨later, rfl, reached⟩, fun _ same => by cases same⟩

theorem Onward.fails (reached : Later rules crypto watcher later) (fault : SessionError) :
    Onward rules crypto watcher (.returned later (.error fault)) :=
  ⟨⟨later, rfl, reached⟩, fun _ same => by cases same⟩

theorem Onward.ends (reached : Later rules crypto watcher later)
    (decided : (later.status rules crypto).isOver = true) :
    Onward rules crypto watcher (.returned (later.report rules crypto) (.ok ())) := by
  refine ⟨⟨_, rfl, reached.reports⟩, fun last same => ?_⟩
  obtain ⟨rfl, -⟩ := Progress.returned.inj same
  exact ⟨_, List.getLast?_concat .., decided⟩

theorem later_checkPrevious (old : Bytes32) (subscribe : Bool) (node : N)
    (reached : Later rules crypto watcher later) :
    Later rules crypto watcher ((checkPrevious crypto reader old subscribe later).run node).1 :=
  (reached.fetches _ _).checks

theorem onward_watchPrevious (node : N) (reached : Later rules crypto watcher later) :
    Onward rules crypto watcher ((watchPrevious crypto reader later).run node).1 := by
  unfold watchPrevious
  cases later.view.previous with
  | none => exact .waits reached
  | some old => exact .waits (later_checkPrevious old true node reached)

theorem onward_watchSubscribed (node : N) (fresh : Option GameState) :
    Onward rules crypto watcher ((watchSubscribed rules crypto reader watcher fresh).run node).1 := by
  cases fresh with
  | none => exact onward_watchPrevious node .refl
  | some fresh =>
    have merged : Later rules crypto watcher
        { watcher with state := watcher.state.merge crypto watcher.view.params fresh } := Later.refl.merges _
    simp only [watchSubscribed]
    split_ifs with moved decided
    · exact .ends merged decided
    · exact onward_watchPrevious node merged.reports
    · exact onward_watchPrevious node merged

theorem onward_takeUpdate (update : UpdateData) :
    Onward rules crypto watcher (takeUpdate rules crypto reader watcher update) := by
  unfold takeUpdate
  cases mergeUpdate crypto reader watcher.view.params watcher.state update with
  | error fault => exact .fails .refl fault
  | ok merged =>
    cases merged with
    | none => exact .waits .refl
    | some state =>
      have merged : Later rules crypto watcher { watcher with state := state } := Later.refl.merges state
      simp only
      split_ifs with migrated decided decided
      · exact .ends merged.checks decided
      · exact .waits merged.checks.reports
      · exact .ends merged decided
      · exact .waits merged.reports

theorem onward_onWake (node : N) :
    Onward rules crypto watcher ((onWake rules crypto reader watcher).run node).1 ∨
    ((onWake rules crypto reader watcher).run node).1 = .returned watcher (.ok ()) ∧
      (NodeClient.nextUpdate.run node) = (.ok none, ((onWake rules crypto reader watcher).run node).2) := by
  unfold onWake
  rw [run_bind]
  cases woken : NodeClient.nextUpdate.run node with
  | mk incoming node =>
    cases incoming with
    | error reason => exact .inl (.fails .refl _)
    | ok incoming =>
      cases incoming with
      | none => exact .inr ⟨rfl, rfl⟩
      | some update =>
        left
        by_cases own : update.1 = watcher.view.contract
        · simp only [own, ne_eq, not_true_eq_false, if_false]
          exact onward_takeUpdate update.2
        · simp only [ne_eq, own, not_false_eq_true, if_true]
          cases watcher.view.previous with
          | none => exact .waits .refl
          | some old =>
            dsimp only
            split_ifs
            · exact .waits (later_checkPrevious old false node .refl)
            · exact .waits .refl

theorem view_of_later (reached : Later rules crypto watcher later) : later.view = watcher.view := by
  induction reached with
  | refl => rfl
  | merges _ _ ih | fetches _ _ _ ih | reports _ ih => exact ih
  | checks _ ih => exact ih

theorem grows_of_later (reached : Later rules crypto watcher later) :
    watcher.statuses <+: later.statuses ∧ watcher.skews <+: later.skews := by
  induction reached with
  | refl => exact ⟨List.prefix_rfl, List.prefix_rfl⟩
  | merges _ _ ih | fetches _ _ _ ih => exact ih
  | checks _ ih => exact ⟨ih.1, ih.2.trans (List.prefix_append _ _)⟩
  | reports _ ih => exact ⟨ih.1.trans (List.prefix_append _ _), ih.2⟩

def heard (banner : Option String) (messages : List String) : Option String :=
  messages.foldl (fun _ message => hear message) banner

theorem heard_append (banner : Option String) (first second : List String) :
    heard banner (first ++ second) = heard (heard banner first) second := List.foldl_append

def banner (skewed : Bool) : Option String := if skewed then some SKEW_WARNING else none

theorem hear_skew (now : Bool) : hear (if now then SKEW_WARNING else SKEW_RESOLVED) = banner now := by
  cases now <;> decide +kernel

def Heard (watcher : Watcher) : Prop := heard none watcher.skews = banner watcher.skewed

theorem heard_checkSkew (before : Heard watcher) : Heard watcher.checkSkew := by
  unfold Heard Watcher.checkSkew recomputeSkew
  unfold Heard at before
  cases watcher.previousState with
  | none => simpa using before
  | some previous =>
    dsimp only
    generalize opponentMovedOnPrevious watcher.state previous _ = now
    by_cases same : now = watcher.skewed
    · rw [if_pos same]
      simpa using before
    · rw [if_neg same, Option.toList_some, heard_append]
      exact hear_skew now

theorem heard_of_later (before : Heard watcher) (reached : Later rules crypto watcher later) : Heard later := by
  induction reached with
  | refl => exact before
  | merges _ _ ih | fetches _ _ _ ih | reports _ ih => exact ih
  | checks _ ih => exact heard_checkSkew ih

def Projected (rules : Rules) (crypto : Crypto) (watcher : Watcher) : Prop :=
  ∀ report ∈ watcher.statuses, report.2 = report.1.project rules crypto watcher.view.params

theorem projected_of_later (before : Projected rules crypto watcher) (reached : Later rules crypto watcher later) :
    Projected rules crypto later := by
  induction reached with
  | refl => exact before
  | merges _ _ ih | fetches _ _ _ ih => exact ih
  | checks _ ih => exact ih
  | reports _ ih =>
    intro report member
    rcases List.mem_append.1 member with earlier | last
    · exact ih report earlier
    · rw [List.mem_singleton.1 last]
      rfl

end Following

section Telling
variable {N : Type} [NodeClient N] {app : App N} {label : String} {watcher : Watcher} {progress : Progress}

def Opens (app : App N) (label : String) (params : GameParams) : Prop :=
  ∃ (node : N) (game : OpenGame),
    (perform (openGame app.rules app.crypto app.reader app.instanceId label app.wasm) node).1 = .ok game ∧
    game.view.label = label ∧ game.view.params = params

structure Telling (app : App N) (label : String) (watcher : Watcher) : Prop where
  opens : Opens app label watcher.view.params
  projected : Projected app.rules app.crypto watcher
  heard : Heard watcher

theorem Telling.onward (telling : Telling app label watcher)
    (onward : Onward app.rules app.crypto watcher progress) :
    ∀ later ∈ watcherOf progress, Telling app label later := by
  obtain ⟨later, is, reached⟩ := onward.later
  intro other isToo
  obtain rfl := Option.some.inj (is.symm.trans isToo)
  refine ⟨?_, projected_of_later telling.projected reached, heard_of_later telling.heard reached⟩
  rw [view_of_later reached]
  exact telling.opens

theorem label_of_openGame {node : N} {game : OpenGame}
    (done : (perform (openGame app.rules app.crypto app.reader app.instanceId label app.wasm) node).1 = .ok game) :
    game.view.label = label := by
  obtain ⟨node', ran⟩ : ∃ node', perform
      (openGame app.rules app.crypto app.reader app.instanceId label app.wasm) node =
      (.ok game, node') := ⟨_, Prod.ext done rfl⟩
  unfold openGame at ran
  obtain ⟨bound, _, -, ran⟩ := perform_bind_ok ran
  obtain ⟨container, _, -, ran⟩ := perform_bind_ok ran
  obtain ⟨state, _, -, ran⟩ := perform_bind_ok ran
  obtain rfl := Except.ok.inj (congrArg Prod.fst ran)
  rfl

theorem telling_start {node : N} {game : OpenGame}
    (done : (perform (openGame app.rules app.crypto app.reader app.instanceId label app.wasm) node).1 = .ok game) :
    Telling app label (Watcher.start game.view) where
  opens := ⟨node, game, done, label_of_openGame done, rfl⟩
  projected := by
    intro report member
    rw [List.mem_singleton.1 member]
    exact status_of_openGame (show perform _ node = (.ok game, (perform _ node).2) from Prod.ext done rfl)
  heard := rfl

theorem telling_watchOpening (app : App N) (label : String) (node : N) :
    (∀ watcher ∈ watcherOf ((watchOpening app.rules app.crypto app.reader app.instanceId label app.wasm).run node).1,
      Telling app label watcher) ∧
    ∀ watcher, ((watchOpening app.rules app.crypto app.reader app.instanceId label app.wasm).run node).1 =
      .returned watcher (.ok ()) → Ended watcher := by
  unfold watchOpening
  rw [run_bind]
  cases opening : (openGame app.rules app.crypto app.reader app.instanceId label app.wasm).run.run node with
  | mk outcome node =>
    cases outcome with
    | error fault =>
      refine ⟨fun watcher is => ?_, fun watcher is => ?_⟩
      · cases is
      · cases is
    | ok game =>
      have telling : Telling app label (Watcher.start game.view) := telling_start (congrArg Prod.fst opening)
      dsimp only
      split_ifs with decided
      · refine ⟨fun watcher is => ?_, fun watcher is => ?_⟩
        · obtain rfl := Option.some.inj is
          exact telling
        · obtain ⟨rfl, -⟩ := Progress.returned.inj is
          exact ⟨_, rfl, decided⟩
      · rw [run_bind]
        cases (NodeClient.get game.view.contract true).run node with
        | mk answer node =>
          cases answer with
          | error reason =>
            refine ⟨fun watcher is => ?_, fun watcher is => (by cases is)⟩
            obtain rfl := Option.some.inj is
            exact telling
          | ok answer =>
            cases decoded : decodeSubscribed app.crypto app.reader answer with
            | error fault =>
              simp only [decoded]
              refine ⟨fun watcher is => ?_, fun watcher is => (by cases is)⟩
              obtain rfl := Option.some.inj is
              exact telling
            | ok fresh =>
              simp only [decoded]
              have onward : Onward app.rules app.crypto (Watcher.start game.view) ((watchSubscribed app.rules
                app.crypto app.reader (Watcher.start game.view) fresh).run node).1 :=
                onward_watchSubscribed node fresh
              exact ⟨telling.onward onward, onward.ended⟩

theorem statusesOf_eq {later : Watcher} (is : watcherOf progress = some later) :
    statusesOf progress = later.statuses ∧ skewsOf progress = later.skews := by
  cases progress <;> cases is <;> exact ⟨rfl, rfl⟩

structure Wakes (app : App N) (label : String) (watcher : Watcher) (node : N) (progress : Progress) (after : N) :
    Prop where
  telling : ∀ later ∈ watcherOf progress, Telling app label later
  ended : ∀ later, progress = .returned later (.ok ()) →
    Ended later ∨ NodeClient.nextUpdate.run node = (.ok none, after)
  statuses : watcher.statuses <+: statusesOf progress
  skews : watcher.skews <+: skewsOf progress

theorem wakes_onWake (telling : Telling app label watcher) (node : N) :
    Wakes app label watcher node ((onWake app.rules app.crypto app.reader watcher).run node).1
      ((onWake app.rules app.crypto app.reader watcher).run node).2 := by
  have woken : Onward app.rules app.crypto watcher ((onWake app.rules app.crypto app.reader watcher).run node).1 ∨
      ((onWake app.rules app.crypto app.reader watcher).run node).1 = .returned watcher (.ok ()) ∧
        NodeClient.nextUpdate.run node =
          (.ok none, ((onWake app.rules app.crypto app.reader watcher).run node).2) := onward_onWake node
  rcases woken with onward | ⟨returned, closed⟩
  · obtain ⟨later, is, reached⟩ := onward.later
    have grows := grows_of_later reached
    have told := statusesOf_eq is
    exact ⟨telling.onward onward, fun later is => .inl (onward.ended later is), told.1 ▸ grows.1, told.2 ▸ grows.2⟩
  · rw [returned]
    refine ⟨fun later is => ?_, fun _ _ => .inr closed, List.prefix_rfl, List.prefix_rfl⟩
    obtain rfl := Option.some.inj is
    exact telling

end Telling

def Cmd.refreshes : Cmd → Option String
  | .openGame label | .migrate label | .play label _ | .resign label | .drawOffer label | .drawAccept label
  | .drawClaim label => some label
  | _ => none

def Served.shown (before : Option String) (served : Served) : Option String :=
  match served.cmd, served.reached, served.result with
  | cmd, _, .ok () => cmd.refreshes.or before
  | .openGame _, true, .error _ => none
  | _, _, .error _ => before

def Served.failure {N : Type} (app : App N) (served : Served) : Option String :=
  match served.result with
  | .ok () => none
  | .error fault => some (app.describe fault)

def Served.Mismatched {N : Type} (app : App N) (label : String) (served : Served) : Prop :=
  (served.cmd = .openGame label ∨ served.cmd = .migrate label) ∧
    ∃ fault, served.result = .error fault ∧ isBuildMismatch (app.describe fault) label = true

def Served.Mends (label : String) (served : Served) : Prop :=
  served.cmd = .reconnect ∨
    (served.cmd = .openGame label ∨ served.cmd = .migrate label) ∧ served.result = .ok ()

def Stands {N : Type} (app : App N) (served : List Served) (label : String) : Prop :=
  ∃ earlier last later, served = earlier ++ last :: later ∧ last.Mismatched app label ∧
    ∀ other ∈ later, ¬other.Mends label

def Main.opening {N : Type} (main : Main N) : Bool :=
  main.client.isSome && main.serving.any fun cmd => match cmd with | .openGame _ => true | _ => false

theorem Served.shown_ok (cmd : Cmd) (reached : Bool) (before : Option String) :
    Served.shown before ⟨cmd, reached, .ok ()⟩ = cmd.refreshes.or before := by
  cases cmd <;> rfl

theorem Served.shown_error {N : Type} {actors : Actors N} {cmd : Cmd} (serving : actors.main.serving = some cmd)
    (has : actors.main.client.isSome = true)
    (before : Option String) (fault : SessionError) : Served.shown before ⟨cmd, true, .error fault⟩ =
      if actors.main.opening then none else before := by
  cases cmd <;> simp [Main.opening, serving, has, Served.shown]

section Aside
variable {N : Type} {app : App N} {actors : Actors N}

/-- What the main actor does to the watch actor: it sends it commands, and takes back what was
said of a watch only where it sends one. -/
structure Aside (forwards : List Cmd) (actors actors' : Actors N) : Prop where
  watch : actors'.watch = { actors.watch with queue := actors.watch.queue ++ forwards }
  skew : actors'.wires.skew = actors.wires.skew
  hushes : actors'.wires.watchError = actors.wires.watchError ∨ actors'.wires.watchError = none ∧ forwards ≠ []
  reports : actors'.log.reports = actors.log.reports
  begun : actors'.log.begun = actors.log.begun

theorem aside_conclude (actors : Actors N) (served : Served) : Aside [] actors (conclude app actors served) := by
  have watch : actors.watch = { actors.watch with queue := actors.watch.queue ++ [] } := by rw [List.append_nil]
  unfold conclude
  cases served.result with
  | ok _ => exact ⟨watch, rfl, .inl rfl, rfl, rfl⟩
  | error fault => exact ⟨watch, rfl, .inl rfl, rfl, rfl⟩

theorem aside_enter (actors : Actors N) (cmd : Cmd) : Aside [] actors (enter actors cmd) := by
  have watch : actors.watch = { actors.watch with queue := actors.watch.queue ++ [] } := by rw [List.append_nil]
  cases cmd <;> exact ⟨watch, rfl, .inl rfl, rfl, rfl⟩

theorem Aside.refl (actors : Actors N) : Aside [] actors actors :=
  ⟨by rw [List.append_nil], rfl, .inl rfl, rfl, rfl⟩

theorem Aside.trans {first second : List Cmd} {actors' actors'' : Actors N} (before : Aside first actors actors')
    (after : Aside second actors' actors'') : Aside (first ++ second) actors actors'' where
  watch := by rw [after.watch, before.watch, List.append_assoc]
  skew := after.skew.trans before.skew
  hushes := by
    rcases after.hushes with same | ⟨hushed, sends⟩
    · rcases before.hushes with same' | ⟨hushed, sends⟩
      · exact .inl (same.trans same')
      · exact .inr ⟨same.trans hushed, by simp [sends]⟩
    · exact .inr ⟨hushed, by simp [sends]⟩
  reports := after.reports.trans before.reports
  begun := after.begun.trans before.begun

theorem aside_take (actors : Actors N) : ∃ forwards, Aside forwards actors (take actors) := by
  unfold take
  split
  · exact ⟨[.reconnect], rfl, rfl, .inl rfl, rfl, rfl⟩
  · dsimp only
    have taken : ∀ (main : Main N) (busy : Bool) (error : Option String), Aside [] actors
        { actors with main := main, wires := { actors.wires with busy := busy, error := error } } :=
      fun _ _ _ => ⟨(Aside.refl actors).watch, rfl, .inl rfl, rfl, rfl⟩
    split_ifs
    · exact ⟨[], (taken _ _ _).trans (aside_enter _ _)⟩
    · exact ⟨[], taken _ _ _⟩
  · exact ⟨[], .refl actors⟩

theorem aside_connects (actors : Actors N) (fresh : Except String N) :
    ∃ forwards, Aside forwards actors (connects app actors fresh) := by
  unfold connects
  split
  next cmd client serving gone =>
    have opened : Aside [] actors { actors with
        main := { actors.main with client := some client }
        wires := { actors.wires with connected := true } } := ⟨(Aside.refl actors).watch, rfl, .inl rfl, rfl, rfl⟩
    exact ⟨[], opened.trans (aside_enter _ cmd)⟩
  next => exact ⟨[], aside_conclude _ _⟩
  next => exact ⟨[], .refl actors⟩

end Aside

section Truth
variable {N : Type} [NodeClient N]

/-- What is on the board is a game that was opened under its label, and the status is the one
of the state, by the parameters of a game that was. -/
def Drawn (app : App N) (view : GameView) : Prop :=
  Opens app view.label view.params ∧
    ∃ params, Opens app view.label params ∧ view.status = view.state.project app.rules app.crypto params

/-- What the signals say of the main actor. -/
structure Truthful (app : App N) (actors : Actors N) : Prop where
  serving : actors.main.serving ≠ some .reconnect
  busy : actors.wires.busy = actors.main.serving.isSome
  connected : actors.wires.connected = actors.main.client.isSome
  error : actors.wires.error = if actors.main.serving.isSome then none
    else actors.log.served.getLast?.bind (Served.failure app)
  board : actors.wires.view.map GameView.label = if actors.main.opening then none
    else actors.log.served.foldl Served.shown none
  drawn : ∀ view, actors.wires.view = some view → Drawn app view
  mismatch : ∀ label, actors.wires.mismatch = some label → ∃ earlier served later,
    actors.log.served = earlier ++ served :: later ∧ served.Mismatched app label ∧ ∀ other ∈ later, ¬other.Mends label

structure Writes (app : App N) (cmd : Cmd) (result : Except SessionError Unit) (forwards : List Cmd)
    (wires written : Wires) : Prop where
  busy : written.busy = wires.busy
  connected : written.connected = wires.connected
  error : written.error = wires.error
  skew : written.skew = wires.skew
  hushes : written.watchError = wires.watchError ∨ written.watchError = none ∧ forwards ≠ []
  refreshed : result = .ok () → ∀ label, cmd.refreshes = some label →
    ∃ view, written.view = some view ∧ view.label = label ∧ Drawn app view
  kept : result ≠ .ok () ∨ cmd.refreshes = none → written.view = wires.view
  mismatch : ∀ label, written.mismatch = some label →
    wires.mismatch = some label ∧ ¬Served.Mends label ⟨cmd, true, result⟩ ∨
      Served.Mismatched app label ⟨cmd, true, result⟩

def Fits (app : App N) (cmd : Cmd) (outcome : Outcome) (wires : Wires) : Prop :=
  Writes app cmd outcome.result outcome.forwards wires (outcome.write wires)

variable {app : App N} {label : String}

theorem drawn_of_openGameView {node node' : N} {view : GameView}
    (done : perform (openGameView app label) node = (.ok view, node')) : view.label = label ∧ Drawn app view := by
  unfold openGameView Flows.openGameView at done
  obtain ⟨game, middle, opening, last⟩ := perform_bind_ok done
  obtain rfl := Except.ok.inj (congrArg Prod.fst last)
  have named := label_of_openGame (congrArg Prod.fst opening)
  have opens : Opens app game.view.label game.view.params := by
    rw [named]
    exact ⟨node, game, congrArg Prod.fst opening, named, rfl⟩
  exact ⟨named, opens, game.view.params, opens, status_of_openGame opening⟩

def Same (wires wires' : Wires) : Prop :=
  wires' = { wires with games := wires'.games, inviteBlob := wires'.inviteBlob, offerBlob := wires'.offerBlob }

theorem writes_same {cmd : Cmd} {result : Except SessionError Unit} {forwards : List Cmd} {wires written : Wires}
    (same : Same wires written) (kept : result ≠ .ok () ∨ cmd.refreshes = none)
    (mends : ∀ label, ¬Served.Mends label ⟨cmd, true, result⟩) : Writes app cmd result forwards wires written := by
  rw [same]
  refine ⟨rfl, rfl, rfl, rfl, .inl rfl, fun done label refreshes => ?_, fun _ => rfl,
    fun label shown => .inl ⟨shown, mends label⟩⟩
  rcases kept with failed | none
  · exact absurd done failed
  · rw [none] at refreshes
    cases refreshes

theorem writes_writing {α : Type} {cmd : Cmd} (flow : Client N α) (write : α → Wires → Wires) (node : N)
    (wires : Wires) (same : ∀ value, Same wires (write value wires)) (unread : cmd.refreshes = none)
    (mends : ∀ label result, ¬Served.Mends label ⟨cmd, true, result⟩) :
    Fits app cmd ((writing flow write).run node).1 wires := by
  rcases writing_cases flow write node with ⟨value, node', -, is⟩ | ⟨fault, is⟩
  · rw [is]
    exact writes_same (same value) (.inr unread) fun label => mends label _
  · rw [is]
    exact writes_same rfl (.inr unread) fun label => mends label _

theorem writes_actArm {cmd : Cmd} (command : Flows.Command) (node : N) (wires : Wires)
    (reads : cmd.refreshes = some label) (mends : ∀ label result, ¬Served.Mends label ⟨cmd, true, result⟩) :
    Fits app cmd ((actArm app label command).run node).1 wires := by
  unfold actArm
  rcases writing_cases (do
    let _ ← command.flow app.rules app.crypto app.reader app.instanceId label app.wasm
    openGameView app label) (fun view wires => { wires with view := some view }) node with
    ⟨view, node', done, is⟩ | ⟨fault, is⟩
  · rw [is]
    obtain ⟨_, middle, -, refreshed⟩ := perform_bind_ok done
    obtain ⟨named, drawn⟩ := drawn_of_openGameView refreshed
    refine ⟨rfl, rfl, rfl, rfl, .inl rfl, fun _ other is => ?_, fun kept => ?_, fun other shown => ?_⟩
    · obtain rfl := Option.some.inj (reads.symm.trans is)
      exact ⟨view, rfl, named, drawn⟩
    · rcases kept with failed | none
      · exact absurd rfl failed
      · rw [none] at reads
        cases reads
    · exact .inl ⟨shown, mends other _⟩
  · rw [is]
    exact writes_same rfl (.inl (by simp)) fun label => mends label _

theorem writes_unopened {cmd : Cmd} (is : cmd = .openGame label ∨ cmd = .migrate label) (fault : SessionError)
    (wires : Wires) : Writes app cmd (.error fault) [] wires (unopened app label fault wires) := by
  have silent : ∀ other, ¬Served.Mends other ⟨cmd, true, .error fault⟩ := by
    rintro other (teardown | ⟨-, done⟩)
    · rcases is with rfl | rfl <;> cases teardown
    · cases done
  unfold unopened
  split_ifs with mismatched
  · refine ⟨rfl, rfl, rfl, rfl, .inl rfl, fun done => (by cases done), fun _ => rfl, fun other shown => ?_⟩
    obtain rfl := Option.some.inj shown
    exact .inr ⟨is, fault, rfl, mismatched⟩
  · exact writes_same rfl (.inl (by simp)) silent

theorem writes_opened {cmd : Cmd} (is : cmd = .openGame label ∨ cmd = .migrate label) {view : GameView}
    (named : view.label = label) (drawn : Drawn app view) (wires : Wires) (more : Wires → Wires) (forwards : List Cmd)
    (rest : more = id ∨ more = (fun wires => { wires with watchError := none }) ∧ forwards ≠ []) :
    Writes app cmd (.ok ()) forwards wires (more (opened label view wires)) := by
  have reads : cmd.refreshes = some label := by rcases is with rfl | rfl <;> rfl
  have unsaid : ∀ other, (opened label view wires).mismatch = some other →
      wires.mismatch = some other ∧ ¬Served.Mends other ⟨cmd, true, .ok ()⟩ := by
    intro other shown
    simp only [opened] at shown
    split_ifs at shown with mine
    refine ⟨shown, ?_⟩
    rintro (teardown | ⟨same, -⟩)
    · rcases is with rfl | rfl <;> cases teardown
    · rcases is with rfl | rfl <;> rcases same with same | same <;> cases same <;> exact mine shown
  have kept : ∀ (written : Wires), (Except.ok () : Except SessionError Unit) ≠ .ok () ∨ cmd.refreshes = none →
      written.view = wires.view := by
    intro written kept
    rcases kept with failed | none
    · exact absurd rfl failed
    · rw [none] at reads
      cases reads
  have drawn : ∀ other, cmd.refreshes = some other → ∃ shown, some view = some shown ∧ shown.label = other ∧
      Drawn app shown := by
    intro other same
    obtain rfl := Option.some.inj (reads.symm.trans same)
    exact ⟨view, rfl, named, drawn⟩
  rcases rest with rfl | ⟨rfl, sends⟩
  · exact ⟨rfl, rfl, rfl, rfl, .inl rfl, fun _ => drawn, kept _, fun other shown => .inl (unsaid other shown)⟩
  · exact ⟨rfl, rfl, rfl, rfl, .inr ⟨rfl, sends⟩, fun _ => drawn, kept _,
      fun other shown => .inl (unsaid other shown)⟩

theorem writes_openArm (node : N) (wires : Wires) :
    Fits app (.openGame label) ((openArm app label).run node).1 wires := by
  unfold openArm
  rw [run_bind]
  cases done : (openGameView app label).run.run node with
  | mk outcome node' =>
    cases outcome with
    | ok view =>
      obtain ⟨named, drawn⟩ : view.label = label ∧ Drawn app view := drawn_of_openGameView done
      exact writes_opened (.inl rfl) named drawn wires id [] (.inl rfl)
    | error fault => exact writes_unopened (.inl rfl) fault wires

theorem writes_migrateArm (node : N) (wires : Wires) :
    Fits app (.migrate label) ((migrateArm app label).run node).1 wires := by
  unfold migrateArm
  rw [run_bind]
  cases (Migration.migrateLabel app.crypto app.reader app.instanceId label app.wasm).run.run node with
  | mk moved middle =>
    cases moved with
    | error fault =>
      refine writes_same rfl (.inl (by simp)) fun other mends => ?_
      rcases mends with teardown | ⟨-, done⟩
      · cases teardown
      · cases done
    | ok _ =>
      dsimp only
      rw [run_bind]
      cases done : (openGameView app label).run.run middle with
      | mk outcome node' =>
        cases outcome with
        | ok view =>
          obtain ⟨named, drawn⟩ : view.label = label ∧ Drawn app view := drawn_of_openGameView done
          exact writes_opened (.inr rfl) named drawn wires _ [.watch label] (.inr ⟨rfl, by simp⟩)
        | error fault => exact writes_unopened (.inr rfl) fault wires

theorem writes_arm (draws : Draws) {cmd : Cmd} (other : cmd ≠ .reconnect) (node : N) (wires : Wires) :
    Fits app cmd ((arm app draws cmd).run node).1 wires := by
  cases cmd with
  | reconnect => exact absurd rfl other
  | connect => exact writes_same rfl (.inr rfl) (by simp [Served.Mends])
  | watch label => exact writes_same rfl (.inr rfl) (by simp [Served.Mends])
  | openGame label => exact writes_openArm node wires
  | migrate label => exact writes_migrateArm node wires
  | listGames | newGame _ _ | accept _ _ | bind _ _ =>
    exact writes_writing _ _ node wires (fun _ => rfl) rfl (by simp [Served.Mends])
  | play _ _ | resign _ | drawOffer _ | drawAccept _ | drawClaim _ =>
    exact writes_actArm _ node wires rfl (by simp [Served.Mends])

variable {actors : Actors N} {cmd : Cmd} {result : Except SessionError Unit}

theorem truthful_start : Truthful app (Actors.start : Actors N) where
  serving := by simp [Actors.start]
  busy := rfl
  connected := rfl
  error := rfl
  board := rfl
  drawn view shown := by cases shown
  mismatch label shown := by cases shown

theorem mismatch_served {N : Type} {app : App N} {served : List Served} {last : Served} {wires written : Wires}
    (said : ∀ label, wires.mismatch = some label → Stands app served label)
    (kept : ∀ label, written.mismatch = some label →
      wires.mismatch = some label ∧ ¬last.Mends label ∨ last.Mismatched app label) (label : String)
    (shown : written.mismatch = some label) : Stands app (served ++ [last]) label := by
  rcases kept label shown with ⟨still, unmended⟩ | mismatched
  · obtain ⟨earlier, served', later, rfl, mismatched, unmended'⟩ := said label still
    refine ⟨earlier, served', later ++ [last], by simp, mismatched, fun other member => ?_⟩
    rcases List.mem_append.1 member with before | now
    · exact unmended' other before
    · rw [List.mem_singleton.1 now]
      exact unmended
  · exact ⟨served, last, [], rfl, mismatched, fun other member => by cases member⟩

theorem truthful_conclude {served : Served} (connected : actors.wires.connected = actors.main.client.isSome)
    (error : actors.wires.error = none)
    (board : actors.wires.view.map GameView.label = served.shown (actors.log.served.foldl Served.shown none))
    (drawn : ∀ view, actors.wires.view = some view → Drawn app view)
    (mismatch : ∀ label, actors.wires.mismatch = some label → Stands app (actors.log.served ++ [served]) label) :
    Truthful app (conclude app actors served) := by
  have last : (actors.log.served ++ [served]).getLast?.bind (Served.failure app) = served.failure app := by
    rw [List.getLast?_concat, Option.bind_some]
  have boards : (actors.log.served ++ [served]).foldl Served.shown none =
      served.shown (actors.log.served.foldl Served.shown none) := by rw [List.foldl_append]; rfl
  have idle : ∀ (queue : List Cmd) (client : Option N), (Main.mk queue client none).opening = false := by
    simp [Main.opening]
  obtain ⟨cmd, reached, result⟩ := served
  unfold conclude
  cases result with
  | ok _ =>
    refine ⟨by simp, rfl, connected, error.trans last.symm, ?_, drawn, mismatch⟩
    dsimp only
    rw [idle, boards]
    exact board
  | error fault =>
    refine ⟨by simp, rfl, ?_, last.symm, ?_, drawn, mismatch⟩
    · dsimp only
      split_ifs
      · rfl
      · exact connected
    · dsimp only
      rw [idle, boards]
      exact board

theorem Truthful.silent (truthful : Truthful app actors) (serving : actors.main.serving = some cmd) :
    actors.wires.error = none := by
  rw [truthful.error, serving]
  rfl

theorem board_served {forwards : List Cmd} {written : Wires} {client : N} (truthful : Truthful app actors)
    (serving : actors.main.serving = some cmd) (has : actors.main.client = some client)
    (writes : Writes app cmd result forwards actors.wires written) :
    written.view.map GameView.label =
      Served.shown (actors.log.served.foldl Served.shown none) ⟨cmd, true, result⟩ := by
  cases result with
  | error fault =>
    rw [writes.kept (.inl (by simp)), truthful.board, Served.shown_error serving (by rw [has]; rfl)]
  | ok _ =>
    rw [Served.shown_ok]
    cases reads : cmd.refreshes with
    | some label =>
      obtain ⟨view, shown, rfl, -⟩ := writes.refreshed rfl label reads
      rw [shown]
      rfl
    | none =>
      have idle : actors.main.opening = false := by
        cases cmd <;> simp_all [Main.opening, Cmd.refreshes]
      rw [writes.kept (.inr reads), truthful.board, idle]
      rfl

theorem drawn_served {forwards : List Cmd} {written : Wires} (truthful : Truthful app actors)
    (writes : Writes app cmd result forwards actors.wires written) :
    ∀ view, written.view = some view → Drawn app view := by
  intro view shown
  by_cases refreshed : result = .ok () ∧ cmd.refreshes ≠ none
  · obtain ⟨label, reads⟩ := Option.ne_none_iff_exists'.1 refreshed.2
    obtain ⟨other, there, -, drawn⟩ := writes.refreshed refreshed.1 label reads
    obtain rfl := Option.some.inj (there.symm.trans shown)
    exact drawn
  · rw [writes.kept (by tauto)] at shown
    exact truthful.drawn view shown

theorem truthful_enter (serving : actors.main.serving = some cmd) (other : cmd ≠ .reconnect)
    (busy : actors.wires.busy = true) (connected : actors.wires.connected = true)
    (has : actors.main.client.isSome = true) (error : actors.wires.error = none)
    (board : actors.wires.view.map GameView.label = actors.log.served.foldl Served.shown none)
    (drawn : ∀ view, actors.wires.view = some view → Drawn app view)
    (mismatch : ∀ label, actors.wires.mismatch = some label → Stands app actors.log.served label) :
    Truthful app (enter actors cmd) := by
  have reached : actors.main.serving ≠ some .reconnect := by simpa [serving] using other
  have busy' : actors.main.serving.isSome = true := by rw [serving]; rfl
  have silent : actors.wires.error = if actors.main.serving.isSome then none
      else actors.log.served.getLast?.bind (Served.failure app) := by rw [busy', if_pos rfl, error]
  cases cmd with
  | openGame label =>
    have opening : (enter actors (.openGame label)).main.opening = true := by simp [enter, Main.opening, has, serving]
    refine ⟨reached, busy.trans busy'.symm, connected.trans has.symm, silent, (if_pos opening).symm,
      fun view shown => ?_, mismatch⟩
    cases shown
  | _ =>
    have opening : actors.main.opening = false := by simp [Main.opening, serving]
    exact ⟨reached, busy.trans busy'.symm, connected.trans has.symm, silent,
      board.trans (if_neg (ne_true_of_eq_false opening)).symm, drawn, mismatch⟩

theorem truthful_connects (truthful : Truthful app actors) (fresh : Except String N) :
    Truthful app (connects app actors fresh) := by
  unfold connects
  cases serving : actors.main.serving with
  | none => exact truthful
  | some cmd =>
    cases client : actors.main.client with
    | some client => exact truthful
    | none =>
      have before : actors.wires.view.map GameView.label = actors.log.served.foldl Served.shown none := by
        rw [truthful.board, Main.opening, client]
        rfl
      cases fresh with
      | ok fresh =>
        refine truthful_enter serving (fun same => truthful.serving (same ▸ serving)) ?_ rfl rfl
          (truthful.silent serving) before truthful.drawn truthful.mismatch
        exact truthful.busy.trans (by rw [serving]; rfl)
      | error why =>
        refine truthful_conclude truthful.connected (truthful.silent serving) ?_ truthful.drawn fun label shown => ?_
        · rw [before]
          cases cmd <;> rfl
        · refine mismatch_served truthful.mismatch (fun label shown => .inl ⟨shown, ?_⟩) label shown
          rintro (teardown | ⟨-, done⟩)
          · exact truthful.serving (teardown ▸ serving)
          · cases done

theorem truthful_finish (truthful : Truthful app actors) (draws : Draws) (meanwhile : N → N) :
    Truthful app (finish app actors draws meanwhile) := by
  cases serving : actors.main.serving with
  | none =>
    rw [finish_idle (.inl serving)]
    exact truthful
  | some cmd =>
    cases has : actors.main.client with
    | none =>
      rw [finish_idle (.inr has)]
      exact truthful
    | some client =>
      have other : cmd ≠ .reconnect := fun same => truthful.serving (same ▸ serving)
      have writes : Fits app cmd ((arm app draws cmd).run (meanwhile client)).1 actors.wires :=
        writes_arm draws other (meanwhile client) actors.wires
      rw [finish_eq serving has]
      generalize (arm app draws cmd).run (meanwhile client) = left at writes ⊢
      obtain ⟨⟨result, write, forwards⟩, client'⟩ := left
      have board := board_served truthful serving has writes
      have drawn := drawn_served truthful writes
      have connected := writes.connected.trans (truthful.connected.trans (by rw [has]))
      exact truthful_conclude connected (writes.error.trans (truthful.silent serving)) board drawn
        (mismatch_served truthful.mismatch writes.mismatch)

theorem truthful_take (truthful : Truthful app actors) : Truthful app (take actors) := by
  unfold take
  cases serving : actors.main.serving with
  | some cmd => exact truthful
  | none =>
    have board := truthful.board
    have idle : actors.main.opening = false := by simp [Main.opening, serving]
    rw [idle, if_neg Bool.false_ne_true] at board
    cases queue : actors.main.queue with
    | nil => exact truthful
    | cons cmd rest =>
      by_cases teardown : cmd = .reconnect
      · subst teardown
        have idle : actors.wires.busy = false := by rw [truthful.busy, serving]; rfl
        refine ⟨by simp [reconnect, forward], idle, rfl, ?_, ?_, truthful.drawn, fun label shown => (by cases shown)⟩
        · simp [reconnect, forward, Served.failure]
        · simp only [reconnect, forward, List.foldl_append]
          exact board
      · have other : some cmd ≠ some .reconnect := by simpa using teardown
        have taken : Truthful app (if actors.main.client.isSome then enter { actors with
              main := { actors.main with queue := rest, serving := some cmd }
              wires := { actors.wires with busy := true, error := none } } cmd
            else { actors with
              main := { actors.main with queue := rest, serving := some cmd }
              wires := { actors.wires with busy := true, error := none } }) := by
          split_ifs with has
          · exact truthful_enter rfl teardown rfl (truthful.connected.trans has) has rfl board truthful.drawn
              truthful.mismatch
          · refine ⟨other, rfl, truthful.connected, rfl, board.trans (if_neg ?_).symm, truthful.drawn,
              truthful.mismatch⟩
            simp [Main.opening, has]
        cases cmd with
        | reconnect => exact absurd rfl teardown
        | _ => exact taken

theorem Truthful.watching (truthful : Truthful app actors) (watch : WatchActor N) (watchError skew : Option String)
    (forwarded begun : List Cmd) (reports : List (String × GameState × Status)) :
    Truthful app { actors with
      watch := watch
      wires := { actors.wires with watchError := watchError, skew := skew }
      log := ⟨actors.log.sent, actors.log.served, forwarded, begun, reports⟩ } :=
  ⟨truthful.serving, truthful.busy, truthful.connected, truthful.error, truthful.board, truthful.drawn,
    truthful.mismatch⟩

theorem truthful_begin (truthful : Truthful app actors) (meanwhile : N → N) (cmd : Cmd) :
    Truthful app (begin app meanwhile actors cmd) := by
  unfold begin
  cases cmd with
  | watch label =>
    dsimp only
    cases actors.watch.client with
    | some client => exact truthful.watching _ _ _ _ _ _
    | none => exact truthful.watching _ _ _ _ _ _
  | reconnect => exact truthful.watching _ _ _ _ _ _
  | _ => exact truthful.watching _ _ _ _ _ _

theorem truthful_turn (truthful : Truthful app actors) (meanwhile : N → N) :
    Truthful app (turn app actors meanwhile) := by
  unfold turn
  split
  · exact truthful_begin (truthful.watching _ _ _ _ _ _) meanwhile _
  · exact truthful_begin (truthful.watching _ _ _ _ _ _) meanwhile _
  · exact truthful

/-- What a live watch has told and is to tell, and why it may have ended. -/
structure Live (app : App N) (label : String) (progress : Progress) (statuses : List (GameState × Status))
    (skews : List String) (actors : Actors N) : Prop where
  telling : ∀ watcher ∈ watcherOf progress, Telling app label watcher
  ended : ∀ watcher, progress = .returned watcher (.ok ()) → Ended watcher ∨
    ∃ node client, actors.watch.client = some client ∧ NodeClient.nextUpdate.run node = (.ok none, client)
  reports : ∃ before told, actors.log.reports = before ++ told.map (Prod.mk label) ∧
    told ++ statuses = statusesOf progress
  skews : ∃ told, actors.wires.skew = heard none told ∧ told ++ skews = skewsOf progress

theorem label_shows (label : String) (report : GameState × Status) (view : GameView) :
    (shows label report view).label = view.label := by
  unfold shows
  split_ifs <;> rfl

theorem drawn_shows {label : String} {watcher : Watcher} {report : GameState × Status} {view : GameView}
    (telling : Telling app label watcher) (member : report ∈ watcher.statuses) (drawn : Drawn app view) :
    Drawn app (shows label report view) := by
  unfold shows
  split_ifs with same
  · refine ⟨drawn.1, watcher.view.params, ?_, telling.projected report member⟩
    rw [same]
    exact telling.opens
  · exact drawn

theorem member_of_live {label : String} {progress : Progress} {statuses : List (GameState × Status)}
    {report : GameState × Status} {skews : List String}
    (live : Live app label progress (report :: statuses) skews actors) :
    ∃ watcher ∈ watcherOf progress, report ∈ watcher.statuses := by
  obtain ⟨before, told, -, whole⟩ := live.reports
  have member : report ∈ statusesOf progress := by rw [← whole]; simp
  cases progress with
  | unopened fault => cases member
  | waiting watcher => exact ⟨watcher, rfl, member⟩
  | returned watcher outcome => exact ⟨watcher, rfl, member⟩

/-- What the signals say of the watch actor while it watches. -/
structure Followed (app : App N) (actors : Actors N) : Prop where
  live : ∀ label progress statuses skews, actors.watch.watching = .live label progress statuses skews →
    Live app label progress statuses skews actors
  connecting : ∀ label, actors.watch.watching = .connecting label → actors.wires.skew = none
  quiet : actors.watch.watching ≠ .idle → actors.wires.watchError = none

theorem aside_finish (truthful : Truthful app actors) (draws : Draws) (meanwhile : N → N) :
    ∃ forwards, Aside forwards actors (finish app actors draws meanwhile) := by
  cases serving : actors.main.serving with
  | none =>
    rw [finish_idle (.inl serving)]
    exact ⟨[], .refl actors⟩
  | some cmd =>
    cases has : actors.main.client with
    | none =>
      rw [finish_idle (.inr has)]
      exact ⟨[], .refl actors⟩
    | some client =>
      have other : cmd ≠ .reconnect := fun same => truthful.serving (same ▸ serving)
      have writes : Fits app cmd ((arm app draws cmd).run (meanwhile client)).1 actors.wires :=
        writes_arm draws other (meanwhile client) actors.wires
      rw [finish_eq serving has]
      generalize (arm app draws cmd).run (meanwhile client) = left at writes ⊢
      have written : Aside left.1.forwards actors (forward { actors with
          main := { actors.main with client := some left.2 }
          wires := left.1.write actors.wires } left.1.forwards) := ⟨rfl, writes.skew, writes.hushes, rfl, rfl⟩
      exact ⟨_, written.trans (aside_conclude _ _)⟩

theorem followed_of_aside {forwards : List Cmd} {actors' : Actors N} (followed : Followed app actors)
    (aside : Aside forwards actors actors') : Followed app actors' where
  live label progress statuses skews watching := by
    rw [aside.watch] at watching
    obtain ⟨telling, ended, reports, skews⟩ := followed.live label progress statuses skews watching
    refine ⟨telling, fun watcher is => ?_, ?_, ?_⟩
    · rw [aside.watch]
      exact ended watcher is
    · rwa [aside.reports]
    · rwa [aside.skew]
  connecting label watching := by
    rw [aside.watch] at watching
    rw [aside.skew]
    exact followed.connecting label watching
  quiet watching := by
    rw [aside.watch] at watching
    rcases aside.hushes with same | ⟨hushed, -⟩
    · rw [same]
      exact followed.quiet watching
    · exact hushed

theorem followed_follow (label : String) (client : N) (skew : actors.wires.skew = none)
    (watchError : actors.wires.watchError = none) : Followed app (follow app actors label client) where
  live other progress statuses skews watching := by
    obtain ⟨telling, ended⟩ := telling_watchOpening app label client
    injection watching with label progress statuses skews
    subst label progress statuses skews
    exact ⟨telling, fun watcher is => .inl (ended watcher is),
      ⟨actors.log.reports, [], (List.append_nil _).symm, rfl⟩,
      ⟨[], skew, rfl⟩⟩
  connecting other watching := by cases watching
  quiet _ := watchError

theorem followed_idle (idle : actors.watch.watching = .idle) : Followed app actors where
  live label progress statuses skews watching := by
    rw [idle] at watching
    cases watching
  connecting label watching := by
    rw [idle] at watching
    cases watching
  quiet watching := absurd idle watching

theorem followed_begin (idle : actors.watch.watching = .idle) (meanwhile : N → N) (cmd : Cmd) :
    Followed app (begin app meanwhile actors cmd) := by
  unfold begin
  cases cmd with
  | watch label =>
    dsimp only
    cases actors.watch.client with
    | some client => exact followed_follow label _ rfl rfl
    | none =>
      refine ⟨fun other progress statuses skews watching => ?_, fun _ _ => rfl, fun _ => rfl⟩
      cases watching
  | _ => exact followed_idle idle

theorem followed_turn (followed : Followed app actors) (meanwhile : N → N) :
    Followed app (turn app actors meanwhile) := by
  unfold turn
  split
  next queue cmd idle parked =>
    refine followed_begin ?_ meanwhile cmd
    exact idle
  next cmd rest idle parked queue =>
    refine followed_begin ?_ meanwhile cmd
    exact idle
  next => exact followed

theorem followed_watchConnects (followed : Followed app actors) (fresh : Except String N) :
    Followed app (watchConnects app actors fresh) := by
  unfold watchConnects
  split
  next label client watching =>
    exact followed_follow label client (followed.connecting label watching) (followed.quiet (by simp [watching]))
  next => exact followed_idle rfl
  next => exact followed

theorem followed_status (followed : Followed app actors) : Followed app (status actors) := by
  unfold status
  split
  next label progress report statuses skews watching =>
    obtain ⟨telling, ended, ⟨before, told, reports, whole⟩, heard⟩ := followed.live _ _ _ _ watching
    refine ⟨fun other progress' statuses' skews' same => ?_, fun other same => ?_, fun _ => ?_⟩
    · injection same with label progress statuses skews
      subst label progress statuses skews
      refine ⟨telling, ended, ⟨before, told ++ [report], ?_, by simpa using whole⟩, heard⟩
      simp [reports]
    · cases same
    · exact followed.quiet (by simp [watching])
  next => exact followed

theorem followed_skew (followed : Followed app actors) : Followed app (skew actors) := by
  unfold skew
  split
  next label progress statuses message skews watching =>
    obtain ⟨telling, ended, reports, ⟨told, heard', whole⟩⟩ := followed.live _ _ _ _ watching
    refine ⟨fun other progress' statuses' skews' same => ?_, fun other same => ?_, fun _ => ?_⟩
    · injection same with label progress statuses skews
      subst label progress statuses skews
      refine ⟨telling, ended, reports, ⟨told ++ [message], ?_, by simpa using whole⟩⟩
      rw [heard_append]
      rfl
    · cases same
    · exact followed.quiet (by simp [watching])
  next => exact followed

theorem followed_wake (followed : Followed app actors) (meanwhile : N → N) :
    Followed app (wake app actors meanwhile) := by
  unfold wake
  split
  next label watcher client watching has =>
    obtain ⟨telling, -, ⟨before, told, reports, whole⟩, ⟨said, heard', all⟩⟩ := followed.live _ _ _ _ watching
    have wakes := wakes_onWake (telling watcher rfl) (meanwhile client)
    rw [List.append_nil] at whole all
    generalize (onWake app.rules app.crypto app.reader watcher).run (meanwhile client) = woken at wakes ⊢
    obtain ⟨progress, after⟩ := woken
    obtain ⟨telling, ended, ⟨more, statuses⟩, ⟨further, skews⟩⟩ := wakes
    refine ⟨fun other progress' statuses' skews' same => ?_, fun other same => (by cases same), fun _ => ?_⟩
    · injection same with label progress statuses skews
      subst label progress statuses skews
      refine ⟨telling, fun later is => ?_, ⟨before, told, reports, ?_⟩, ⟨said, heard', ?_⟩⟩
      · exact (ended later is).imp_right fun closed => ⟨_, after, rfl, closed⟩
      · rw [show told = watcher.statuses from whole, ← statuses, List.drop_left]
      · rw [show said = watcher.skews from all, ← skews, List.drop_left]
    · exact followed.quiet (by simp [watching])
  next => exact followed

theorem followed_preempt (followed : Followed app actors) : Followed app (preempt actors) := by
  unfold preempt
  split
  · exact followed_idle rfl
  · exact followed

theorem followed_ends (followed : Followed app actors) : Followed app (ends app actors) := by
  unfold ends
  split
  · exact followed_idle rfl
  · exact followed_idle rfl
  · exact followed_idle rfl
  · exact followed

theorem truthful_follow (truthful : Truthful app actors) (label : String) (client : N) :
    Truthful app (follow app actors label client) := truthful.watching _ _ _ _ _ _

theorem truthful_status (truthful : Truthful app actors) (followed : Followed app actors) :
    Truthful app (status actors) := by
  unfold status
  split
  next label progress report statuses skews watching =>
    have live := followed.live _ _ _ _ watching
    obtain ⟨watcher, is, member⟩ := member_of_live live
    refine ⟨truthful.serving, truthful.busy, truthful.connected, truthful.error, ?_, fun view shown => ?_,
      truthful.mismatch⟩
    · have labels : (actors.wires.view.map (shows label report)).map GameView.label =
          actors.wires.view.map GameView.label := by
        rw [Option.map_map]
        exact congrArg (Option.map · _) (funext fun view => label_shows label report view)
      exact labels.trans truthful.board
    · obtain ⟨before, there, rfl⟩ := Option.map_eq_some_iff.1 shown
      exact drawn_shows (live.telling watcher is) member (truthful.drawn before there)
  next => exact truthful

theorem truthful_react (truthful : Truthful app actors) (followed : Followed app actors) (event : Event N) :
    Truthful app (react app actors event) := by
  cases event with
  | send cmd =>
    exact ⟨truthful.serving, truthful.busy, truthful.connected, truthful.error, truthful.board, truthful.drawn,
      truthful.mismatch⟩
  | take => exact truthful_take truthful
  | connects fresh => exact truthful_connects truthful fresh
  | finish draws meanwhile => exact truthful_finish truthful draws meanwhile
  | turn meanwhile => exact truthful_turn truthful meanwhile
  | watchConnects fresh =>
    show Truthful app (watchConnects app actors fresh)
    unfold watchConnects
    split
    · exact truthful_follow truthful _ _
    · exact truthful.watching _ _ _ _ _ _
    · exact truthful
  | status => exact truthful_status truthful followed
  | skew =>
    show Truthful app (skew actors)
    unfold skew
    split
    · exact truthful.watching _ _ _ _ _ _
    · exact truthful
  | wake meanwhile =>
    show Truthful app (wake app actors meanwhile)
    unfold wake
    split
    · exact truthful.watching _ _ _ _ _ _
    · exact truthful
  | preempt =>
    show Truthful app (preempt actors)
    unfold preempt
    split
    · exact truthful.watching _ _ _ _ _ _
    · exact truthful
  | ends =>
    show Truthful app (ends app actors)
    unfold ends
    split
    · exact truthful.watching _ _ _ _ _ _
    · exact truthful.watching _ _ _ _ _ _
    · exact truthful.watching _ _ _ _ _ _
    · exact truthful

theorem followed_react (truthful : Truthful app actors) (followed : Followed app actors) (event : Event N) :
    Followed app (react app actors event) := by
  cases event with
  | send cmd => exact ⟨fun label progress statuses skews watching =>
      let live := followed.live label progress statuses skews watching
      ⟨live.telling, live.ended, live.reports, live.skews⟩, followed.connecting, followed.quiet⟩
  | take =>
    obtain ⟨forwards, aside⟩ := aside_take actors
    exact followed_of_aside followed aside
  | connects fresh =>
    obtain ⟨forwards, aside⟩ : ∃ forwards, Aside forwards actors (connects app actors fresh) :=
      aside_connects actors fresh
    exact followed_of_aside followed aside
  | finish draws meanwhile =>
    obtain ⟨forwards, aside⟩ := aside_finish truthful draws meanwhile
    exact followed_of_aside followed aside
  | turn meanwhile => exact followed_turn followed meanwhile
  | watchConnects fresh => exact followed_watchConnects followed fresh
  | status => exact followed_status followed
  | skew => exact followed_skew followed
  | wake meanwhile => exact followed_wake followed meanwhile
  | preempt => exact followed_preempt followed
  | ends => exact followed_ends followed

theorem faithful_run (app : App N) (events : List (Event N)) :
    Truthful app (run app events) ∧ Followed app (run app events) := by
  induction events using List.reverseRecOn with
  | nil => exact ⟨truthful_start, followed_idle rfl⟩
  | append_singleton events event ih =>
    rw [run, List.foldl_append]
    exact ⟨truthful_react ih.1 ih.2 event, followed_react ih.1 ih.2 event⟩

end Truth

/-- The browser's client knows of the close for which it hands out no update. Its inbox never
ends, since nobody drops the sender. -/
theorem closed_of_no_update {decodeReply : Bytes → Except DecodeError Response}
    {client client' : Transport.BrowserClient} {event : Transport.Event}
    (taken : Transport.react decodeReply client event = some (client', some (.update none)))
    (goes : event ≠ .inboxEnds) : client'.closed.isSome = true := by
  cases event with
  | arrive arrival => cases taken
  | call number request sent =>
    simp only [Transport.react] at taken
    split_ifs at taken
    rcases Transport.callRequest_cases client number request sent with ⟨fault, done⟩ | ⟨-, done⟩
    · rw [done] at taken
      cases taken
    · rw [done] at taken
      cases taken
  | nextUpdate =>
    simp only [Transport.react] at taken
    split_ifs at taken
    rcases Transport.callNextUpdate_cases client with ⟨parked, rest, -, done⟩ | ⟨-, shut, done⟩ | ⟨-, -, done⟩
    · rw [done] at taken
      cases taken
    · rw [done] at taken
      cases taken
      exact shut
    · rw [done] at taken
      cases taken
  | poll =>
    simp only [Transport.react, Transport.pollInbox] at taken
    split at taken
    next number request arrival rest waiting inbox =>
      have parts := @Transport.pollRequest_cases decodeReply (client.takes arrival rest) number request arrival
      rcases parts with ⟨notification, -, -, -, done⟩ | ⟨-, -, -, done⟩ | ⟨-, key, result, -, done⟩
      · rw [done] at taken
        cases taken
      · rw [done] at taken
        cases taken
      · rw [done] at taken
        cases taken
    next arrival rest waiting inbox =>
      unfold Transport.pollNextUpdate at taken
      cases routed : Transport.route arrival.frame with
      | closed why =>
        rw [routed] at taken
        cases taken
        simp [Transport.BrowserClient.takes, routed, Transport.observe]
      | _ =>
        rw [routed] at taken
        cases taken
    next => cases taken
  | timeout =>
    simp only [Transport.react] at taken
    split at taken <;> cases taken
  | inboxEnds => exact absurd rfl goes
  | cancel =>
    simp only [Transport.react] at taken
    split_ifs at taken
    cases taken

section Sample

end Sample

end Adjourn.Conn
