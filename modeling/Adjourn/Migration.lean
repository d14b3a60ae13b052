import Adjourn.Origins
import Adjourn.Session

/-! Moving a game to the address that a build derives. The network keeps the game and the
delegate keeps the address; any step of any attempt may fail, or be done and its answer
lost. -/

namespace Adjourn.Migration
open Std (ExtTreeMap)
open Cbor OrderedMap NormalForm Contract Delegate Session Signing

inductive MigrateOutcome where
  | alreadyCurrent (contract : Bytes32)
  | migrated (source target : Bytes32) (records : Nat)

/-- An empty game is PUT as zero bytes. -/
def payload (state : GameState) : Bytes :=
  if state.records.size = 0 then [] else state.encode

/-- A cold contract is reported, rather than an empty game PUT at the new address. -/
def previousState (crypto : Crypto) (reader : Reader) (old : Bytes32) (raw : Option Bytes) :
    Except SessionError GameState :=
  match raw with
  | none => .error (.gone old)
  | some bytes =>
    match InSync.fetchState crypto reader bytes with
    | none => .error (.undecodable "the previous contract's state did not decode")
    | some state => .ok state

def rebound : Response → Except SessionError Unit
  | .bound _ => .ok ()
  | .refused refusal => .error (.refused refusal)
  | other => .error (.unexpected "Rebind" other)

/-- Move the game to the address that this build derives: GET, then PUT, then Rebind. -/
def migrateLabel {N : Type} [NodeClient N] (crypto : Crypto) (reader : Reader)
    (instanceId : Bytes → Bytes → Bytes32) (label : String) (wasm : Bytes) : Client N MigrateOutcome := do
  let game ← Session.boundGame label
  let (container, newId) := contractContainer instanceId wasm game.params
  if newId = game.contract then return .alreadyCurrent game.contract
  else
    let raw ← call "GET the old contract" (NodeClient.get game.contract false)
    let state ← liftExcept (previousState crypto reader game.contract raw)
    call "PUT the game under the new contract id" (NodeClient.put container (payload state))
    let response ← call "Rebind" (NodeClient.delegate (.rebind label newId))
    liftExcept (rebound response)
    return .migrated game.contract newId state.records.size

/-- What all attempts share: the game's rules, the primitives, and the caller. -/
structure Setting where
  rules : Rules
  crypto : Crypto
  reader : Reader
  secrets : SecretReader
  instanceId : Bytes → Bytes → Bytes32
  origin : Option Bytes32

structure Held (crypto : Crypto) where
  state : GameState
  keyed : state.Keyed crypto

/-- The two stores that a migration writes to. -/
structure World (crypto : Crypto) where
  store : Store
  network : Bytes32 → Option (Held crypto)

def World.stored {crypto : Crypto} (world : World crypto) (id : Bytes32) : Option Bytes :=
  (world.network id).map fun held => payload held.state

/-- A call that is not made, and a call that is made and whose answer is lost. -/
inductive Fault where
  | fails (reason : String)
  | lost (reason : String)

/-- What a GET answers with: what the network holds, or a failure, or whatever else a
node may have. -/
inductive Fetch where
  | answers
  | fails (reason : String)
  | stale (answer : Option Bytes)

/-- One attempt: the build that makes it, the delegate's host, and the fate of each call. -/
structure Attempt where
  wasm : Bytes
  host : Host
  listGames : Option Fault
  get : Fetch
  put : Option Fault
  rebind : Option Fault

structure Attempt.Clean (attempt : Attempt) : Prop where
  listGames : attempt.listGames = none
  get : attempt.get = .answers
  put : attempt.put = none
  rebind : attempt.rebind = none
  durable : ∀ n, attempt.host.writes n = true

def Fault.apply {S α : Type} (call : StateM S (Except String α)) : Option Fault → StateM S (Except String α)
  | none => call
  | some (.fails reason) => return .error reason
  | some (.lost reason) => do
    let _ ← call
    return .error reason

def Fetch.reply (held : Option Bytes) : Fetch → Except String (Option Bytes)
  | .answers => .ok held
  | .fails reason => .error reason
  | .stale answer => .ok answer

section Union
variable {crypto : Crypto}

theorem keyed_merge {params : GameParams} {base incoming : GameState} (keyed : base.Keyed crypto) :
    (base.merge crypto params incoming).Keyed crypto := by
  have holds : base.Holds crypto fun _ => True := fun id rec held => ⟨keyed id rec held, trivial⟩
  have merged : (Adjourn.run crypto params base [.merge incoming]).Holds crypto fun _ => True :=
    holds.run fun _ _ _ => trivial
  exact fun id rec held => (merged id rec held).1

def Held.base (held : Option (Held crypto)) : GameState := (held.map Held.state).getD .empty

/-- A PUT merges: what is held is normalized, and the incoming records join it. -/
def Held.union (params : GameParams) (held : Option (Held crypto)) (incoming : GameState) : Held crypto where
  state := ((Held.base held).filterValid crypto params).merge crypto params incoming
  keyed := keyed_merge (keyed_merge (GameState.keyed_empty crypto))

def World.put (world : World crypto) (id : Bytes32) (params : GameParams) (incoming : GameState) : World crypto :=
  { world with network := Function.update world.network id (some (.union params (world.network id) incoming)) }

end Union

@[simp] theorem World.put_store {crypto : Crypto} (world : World crypto) (id : Bytes32) (params : GameParams)
    (incoming : GameState) : (world.put id params incoming).store = world.store := rfl

structure Node (setting : Setting) extends World setting.crypto where
  attempt : Attempt

section Calls
variable {setting : Setting}

def putState (container : ContractContainer) (bytes : Bytes) : StateM (Node setting) (Except String Unit) :=
  fun node =>
    match decodeParams setting.reader container.parameters, decodeState setting.crypto setting.reader bytes with
    | .ok params, .ok incoming =>
      (.ok (), { node with
        toWorld := node.put (setting.instanceId container.parameters container.code) params incoming })
    | _, _ => (.error "the contract refused the state", node)

def ask (request : Request) : StateM (Node setting) (Except String Response) := fun node =>
  let (store, response) := handle setting.rules setting.crypto setting.reader setting.secrets
    node.attempt.host node.store setting.origin request
  (.ok response, { node with store := store })

instance nodeClient : NodeClient (Node setting) where
  get id _ := fun node => (node.attempt.get.reply (node.stored id), node)
  put container bytes := fun node => Fault.apply (putState container bytes) node.attempt.put node
  -- a migration makes no UPDATE and waits for none
  update _ _ := return .error "no such call"
  delegate request := fun node =>
    Fault.apply (ask request)
      (match request with
        | .listGames => node.attempt.listGames
        | _ => node.attempt.rebind) node
  nextUpdate := return .ok none

variable (setting) in
def tryOnce (label : String) (world : World setting.crypto) (attempt : Attempt) : World setting.crypto :=
  (perform (migrateLabel setting.crypto setting.reader setting.instanceId label attempt.wasm)
    (⟨world, attempt⟩ : Node setting)).2.toWorld

variable (setting) in
def tryAll (label : String) (world : World setting.crypto) (attempts : List Attempt) : World setting.crypto :=
  attempts.foldl (tryOnce setting label) world

end Calls

section Payload
variable {crypto : Crypto} {reader : Reader} {state : GameState}

theorem eq_empty_of_size (none' : state.records.size = 0) : state = .empty := by
  have nothing := ExtTreeMap.eq_empty_iff_size_eq_zero.2 none'
  rw [GameState.empty, ← nothing]

theorem fetchState_payload (reads : reader.RoundTrips) (keyed : state.Keyed crypto) :
    InSync.fetchState crypto reader (payload state) = some state := by
  unfold payload
  split_ifs with none'
  · rw [eq_empty_of_size none']
    rfl
  · exact InSync.fetchState_encode reads keyed

end Payload

section Union
variable {crypto : Crypto} {reader : Reader} {params : GameParams} {parameters base bytes : Bytes}
  {held : Option (Held crypto)} {incoming : GameState}

theorem updateState_eq_union (read : decodeParams reader parameters = .ok params)
    (decodes : decodeState crypto reader base = .ok (Held.base held))
    (brings : decodeState crypto reader bytes = .ok incoming) (valid : incoming.allValid crypto params = true) :
    updateState crypto reader parameters base [.state bytes] =
      .ok (Held.union params held incoming).state.encode := by
  refine bind_eq_ok.2 ⟨params, read, bind_eq_ok.2 ⟨Held.base held, decodes, bind_eq_ok.2 ⟨_, ?_, rfl⟩⟩⟩
  exact foldlM_cons_eq_ok.2 ⟨_, updateWithState_eq_ok.2 ⟨incoming, brings, valid, rfl⟩, rfl⟩

end Union

section Listing
variable {crypto : Crypto} {secrets : SecretReader} {store : Store} {origin : Option Bytes32} {label label' : String}
  {shown : GameSummary} {game : BoundGame} {record : GameRecord} {seed : Bytes32}

theorem summary_of_findBound
    (found : findBound label ((listLabels store).filterMap (summary crypto secrets store origin)) = .ok game) :
    summary crypto secrets store origin label = some game.summary := by
  unfold findBound at found
  split at found
  next absent => cases found
  next shown first =>
    split_ifs at found
    obtain rfl := Except.ok.inj found
    obtain ⟨label', -, listed⟩ := List.mem_filterMap.1 (List.mem_of_find?_eq_some first)
    have named := List.find?_some first
    have labels : shown.label = label := of_decide_eq_true named
    rw [label_of_summary listed] at labels
    rwa [labels] at listed

theorem game_of_summary (listed : summary crypto secrets store origin label = some game.summary)
    (bound : Delegate.boundGame secrets store label = some record) :
    game.params = record.params ∧ game.contract = record.contract := by
  unfold summary at listed
  split_ifs at listed
  obtain ⟨seed, -, same⟩ := Option.map_eq_some_iff.1 listed
  simp only [bound] at same
  simp [BoundGame.params, BoundGame.contract, ← same]

theorem findBound_listed (crypto : Crypto) (own : loadOwner store label = origin)
    (key : store[keySecret label]? = some seed.val)
    (bound : Delegate.boundGame secrets store label = some record) :
    ∃ game, findBound label ((listLabels store).filterMap (summary crypto secrets store origin)) = .ok game := by
  have seeded : loadSeed store label = some seed := by
    rw [loadSeed, key]
    exact toBytes32_val seed
  obtain ⟨shown, listed, complete⟩ : ∃ shown, summary crypto secrets store origin label = some shown ∧
      IsBound shown := by
    simp [summary, own, seeded, bound, IsBound]
  have member : shown ∈ (listLabels store).filterMap (summary crypto secrets store origin) :=
    List.mem_filterMap.2 ⟨label, mem_listLabels key, listed⟩
  unfold findBound
  split
  next absent =>
    have differs := List.find?_eq_none.1 absent shown member
    exact absurd (decide_eq_true (label_of_summary listed)) differs
  next other first =>
    have named := List.find?_some first
    obtain ⟨label', -, listed'⟩ := List.mem_filterMap.1 (List.mem_of_find?_eq_some first)
    have same : label' = label := (label_of_summary listed').symm.trans (of_decide_eq_true named)
    obtain rfl : shown = other := Option.some.inj (listed.symm.trans (same ▸ listed'))
    exact ⟨⟨shown, complete⟩, dif_pos complete⟩

end Listing

section Attempts
variable {setting : Setting} {label : String} {world next : World setting.crypto} {attempt : Attempt}
  {node : Node setting} {record : GameRecord} {got : GameState} {game : BoundGame}

variable (setting) in
def derived (record : GameRecord) (attempt : Attempt) : Bytes32 :=
  setting.instanceId record.params.encode attempt.wasm

variable (setting) in
def Returns (world : World setting.crypto) (attempt : Attempt) (contract : Bytes32) (got : GameState) : Prop :=
  ∃ bytes, attempt.get.reply (world.stored contract) = .ok (some bytes) ∧
    InSync.fetchState setting.crypto setting.reader bytes = some got

variable (setting label) in
/-- What an attempt does that comes as far as the PUT: what its GET returned joins the
game at the derived address, and perhaps the delegate has been told. -/
structure Copied (record : GameRecord) (attempt : Attempt) (world : World setting.crypto) (got : GameState)
    (next : World setting.crypto) : Prop where
  elsewhere : derived setting record attempt ≠ record.contract
  returns : Returns setting world attempt record.contract got
  network : next.network = (world.put (derived setting record attempt) record.params got).network
  store : next.store = world.store ∨ next.store = (handle setting.rules setting.crypto setting.reader
    setting.secrets attempt.host world.store setting.origin (.rebind label (derived setting record attempt))).1

theorem Fault.apply_cases {S α : Type} (call : StateM S (Except String α)) (fault : Option Fault) (s : S) :
    fault = none ∧ Fault.apply call fault s = call s ∨
      ∃ reason, Fault.apply call fault s = (.error reason, s) ∨
        Fault.apply call fault s = (.error reason, (call s).2) := by
  cases fault with
  | none => exact .inl ⟨rfl, rfl⟩
  | some fault =>
    cases fault with
    | fails reason => exact .inr ⟨reason, .inl rfl⟩
    | lost reason => exact .inr ⟨reason, .inr rfl⟩

theorem perform_faulty {S α : Type} (context : String) (call : StateM S (Except String α)) (fault : Option Fault)
    (s : S) : ∃ outcome after, perform (Session.call context (Fault.apply call fault)) s = (outcome, after) ∧
      (after = s ∧ (∃ error, outcome = .error error) ∨ after = (call s).2) := by
  rw [perform_call]
  refine ⟨_, _, rfl, ?_⟩
  change _ ∨ (Fault.apply call fault s).2 = _
  rcases Fault.apply_cases call fault s with ⟨-, works⟩ | ⟨reason, failed | failed⟩
  · exact .inr (by rw [works])
  · refine .inl ⟨congrArg Prod.snd failed, .node (some context) reason, ?_⟩
    change Except.mapError _ (Fault.apply call fault s).1 = _
    rw [failed]
    rfl
  · exact .inr (by rw [failed])

theorem perform_boundGame_works (label : String) (node : Node setting) (works : node.attempt.listGames = none) :
    perform (Session.boundGame label) node = (findBound label ((listLabels node.store).filterMap
      (summary setting.crypto setting.secrets node.store setting.origin)), node) := by
  refine perform_boundGame ?_
  change Fault.apply (ask .listGames) node.attempt.listGames node = _
  rw [works]
  rfl

theorem perform_boundGame_cases (label : String) (node : Node setting) :
    ∃ outcome, perform (Session.boundGame label) node = (outcome, node) ∧ ∀ game, outcome = .ok game →
      summary setting.crypto setting.secrets node.store setting.origin label = some game.summary := by
  have lost : ∀ reason, Fault.apply (ask .listGames) node.attempt.listGames node = (.error reason, node) →
      perform (Session.boundGame label) node = (.error (.node (some "ListGames") reason), node) := by
    intro reason failed
    have called : (NodeClient.delegate .listGames).run node = (.error reason, node) := failed
    rw [Session.boundGame, perform_bind, perform_call, called]
    rfl
  rcases Fault.apply_cases (ask .listGames) node.attempt.listGames node with
    ⟨works, -⟩ | ⟨reason, failed | failed⟩
  · exact ⟨_, perform_boundGame_works label node works, fun game found => summary_of_findBound found⟩
  · exact ⟨_, lost reason failed, fun game found => by cases found⟩
  · exact ⟨_, lost reason failed, fun game found => by cases found⟩

theorem putState_payload (reads : setting.reader.RoundTrips) (keyed : got.Keyed setting.crypto)
    (params : GameParams) (code : Bytes) :
    putState ⟨params.encode, code⟩ (payload got) node =
      (.ok (), { node with toWorld := node.put (setting.instanceId params.encode code) params got }) := by
  rw [putState, decodeParams_encode reads, InSync.fetchState_eq_some.1 (fetchState_payload reads keyed)]

theorem previousState_eq_ok {crypto : Crypto} {reader : Reader} {old : Bytes32} {raw : Option Bytes}
    (decoded : previousState crypto reader old raw = .ok got) :
    ∃ bytes, raw = some bytes ∧ InSync.fetchState crypto reader bytes = some got := by
  unfold previousState at decoded
  cases raw with
  | none => cases decoded
  | some bytes =>
    cases read : InSync.fetchState crypto reader bytes with
    | none => simp [read] at decoded
    | some state =>
      simp only [read] at decoded
      obtain rfl := Except.ok.inj decoded
      exact ⟨bytes, rfl, read⟩

theorem perform_put_works (reads : setting.reader.RoundTrips) (keyed : got.Keyed setting.crypto)
    (works : node.attempt.put = none) (params : GameParams) (code : Bytes) :
    perform (call "PUT the game under the new contract id" (NodeClient.put ⟨params.encode, code⟩ (payload got)))
      node = (.ok (), { node with toWorld := node.put (setting.instanceId params.encode code) params got }) := by
  rw [perform_call]
  change ((Fault.apply (putState _ _) node.attempt.put node).1.mapError _,
    (Fault.apply (putState _ _) node.attempt.put node).2) = _
  rw [works]
  change ((putState _ _ node).1.mapError _, (putState _ _ node).2) = _
  rw [putState_payload reads keyed]
  rfl

theorem perform_rebind_works (works : node.attempt.rebind = none) (id : Bytes32) :
    perform (call "Rebind" (NodeClient.delegate (.rebind label id))) node =
      (.ok (handle setting.rules setting.crypto setting.reader setting.secrets node.attempt.host node.store
          setting.origin (.rebind label id)).2,
        { node with store := (handle setting.rules setting.crypto setting.reader setting.secrets
          node.attempt.host node.store setting.origin (.rebind label id)).1 }) := by
  rw [perform_call]
  change ((Fault.apply (ask _) node.attempt.rebind node).1.mapError _,
    (Fault.apply (ask _) node.attempt.rebind node).2) = _
  rw [works]
  rfl

theorem perform_put_rebind (reads : setting.reader.RoundTrips) (keyed : got.Keyed setting.crypto)
    (params : GameParams) (code : Bytes) (outcome : MigrateOutcome) (node : Node setting) :
    let id := setting.instanceId params.encode code
    let after := (perform (do
      call "PUT the game under the new contract id" (NodeClient.put ⟨params.encode, code⟩ (payload got))
      let response ← call "Rebind" (NodeClient.delegate (.rebind label id))
      liftExcept (rebound response)
      return outcome) node).2
    after = node ∨ after.network = (node.put id params got).network ∧
      (after.store = node.store ∨ after.store = (handle setting.rules setting.crypto setting.reader
        setting.secrets node.attempt.host node.store setting.origin (.rebind label id)).1) := by
  intro id after
  obtain ⟨done, middle, called, fate⟩ := perform_faulty "PUT the game under the new contract id"
    (putState ⟨params.encode, code⟩ (payload got)) node.attempt.put node
  rw [putState_payload reads keyed] at fate
  have put : perform (call "PUT the game under the new contract id"
      (NodeClient.put ⟨params.encode, code⟩ (payload got))) node = (done, middle) := called
  obtain ⟨done', last, called', fate'⟩ := perform_faulty "Rebind" (ask (.rebind label id))
    middle.attempt.rebind middle
  have told : perform (call "Rebind" (NodeClient.delegate (.rebind label id))) middle = (done', last) := called'
  have ends : after = match done with
      | .ok _ => last
      | .error _ => middle := by
    cases done with
    | error fault => simp only [after, perform_bind, put]
    | ok _ =>
      cases done' with
      | error fault => simp only [after, perform_bind, put, told]
      | ok response =>
        simp only [after, perform_bind, put, told, perform_lift]
        cases rebound response <;> rfl
  rcases fate with ⟨rfl, fault, rfl⟩ | rfl
  · exact .inl ends
  · refine .inr ?_
    rw [ends]
    cases done with
    | error fault => exact ⟨rfl, .inl rfl⟩
    | ok _ =>
      rcases fate' with ⟨rfl, -⟩ | rfl
      · exact ⟨rfl, .inl rfl⟩
      · exact ⟨rfl, .inr rfl⟩

theorem tryOnce_cases (attempt : Attempt) (reads : setting.reader.RoundTrips)
    (bound : Delegate.boundGame setting.secrets world.store label = some record) :
    tryOnce setting label world attempt = world ∨
      ∃ got, Copied setting label record attempt world got (tryOnce setting label world attempt) := by
  obtain ⟨outcome, listed, shown⟩ := perform_boundGame_cases label (⟨world, attempt⟩ : Node setting)
  unfold tryOnce migrateLabel
  rw [perform_bind, listed]
  cases outcome with
  | error fault => exact .inl rfl
  | ok game =>
    obtain ⟨params, contract⟩ := game_of_summary (shown game rfl) bound
    simp only [contractContainer, params, contract]
    by_cases current : setting.instanceId record.params.encode attempt.wasm = record.contract
    · rw [if_pos current]
      exact .inl rfl
    · have answer : (NodeClient.get record.contract false).run (⟨world, attempt⟩ : Node setting) =
          (attempt.get.reply (world.stored record.contract), ⟨world, attempt⟩) := rfl
      rw [if_neg current, perform_bind, perform_call, answer]
      cases fetched : attempt.get.reply (world.stored record.contract) with
      | error reason => exact .inl rfl
      | ok raw =>
        simp only [Except.mapError]
        rw [perform_bind, perform_lift]
        cases decoded : previousState setting.crypto setting.reader record.contract raw with
        | error fault => exact .inl rfl
        | ok got =>
          obtain ⟨bytes, rfl, read⟩ := previousState_eq_ok decoded
          have keyed := keyed_decodeState (InSync.fetchState_eq_some.1 read)
          rcases perform_put_rebind reads keyed record.params attempt.wasm
              (.migrated record.contract _ got.records.size) (⟨world, attempt⟩ : Node setting) with
            nothing | ⟨network, store⟩
          · exact .inl (congrArg Node.toWorld nothing)
          · exact .inr ⟨got, ⟨current, ⟨bytes, fetched, read⟩, network, store⟩⟩

end Attempts

section Rebinding
variable {rules : Rules} {crypto : Crypto} {reader : Reader} {secrets : SecretReader} {host : Host} {store : Store}
  {origin : Option Bytes32} {label : String} {contract : Bytes32} {record : GameRecord}
  {released : List (GameId × Adjourn.Record)}

def movedTo (record : GameRecord) (contract : Bytes32) : GameRecord :=
  { record with
    contract := contract
    previous := if record.contract = contract then record.previous else some record.contract }

theorem decideRebind_held (current : record.format = GAME_RECORD_FORMAT) (named : record.label = label) :
    decideRebind (some record) label contract origin =
      if record.origin = origin then .rebind (movedTo record contract) else .refuse .wrongOrigin := by
  simp only [decideRebind, movedTo, current, named, ne_eq, not_true_eq_false, if_false, ite_not]

variable (sound : Sound crypto ⟨store, released⟩) (reads : secrets.RoundTrips)
  (bound : Delegate.boundGame secrets store label = some record)
include sound reads bound

theorem handle_rebind : handle rules crypto reader secrets host store origin (.rebind label contract) =
    if record.origin = origin then
      afterWrites (storeGame crypto host store (movedTo record contract)) (.bound (record.gameId crypto))
    else (store, .refused .wrongOrigin) := by
  obtain ⟨gameId, held, named⟩ := sound.boundGame_eq_some reads bound
  obtain ⟨other, same, -, current, -⟩ := sound.games gameId _ held
  obtain rfl := GameRecord.encode_injective same
  rw [handle, handleRebindGame, bound, decideRebind_held current named]
  split_ifs <;> rfl

theorem key_of_bound : ∃ seed : Bytes32, store[keySecret label]? = some seed.val := by
  obtain ⟨gameId, held, named⟩ := sound.boundGame_eq_some reads bound
  obtain ⟨other, same, -, -, seeded⟩ := sound.games gameId _ held
  obtain rfl := GameRecord.encode_injective same
  rwa [named] at seeded

theorem boundGame_storeGame (own : record.origin = origin) :
    Delegate.boundGame secrets (storeGame crypto host store (movedTo record contract)).store label =
      some (if host.writes 0 then movedTo record contract else record) := by
  obtain ⟨index, held⟩ := (sound.boundGame_iff reads).1 bound
  obtain ⟨-, -, rfl⟩ := sound.boundGame_eq_some reads bound
  have grant : Grant crypto secrets store origin (movedTo record contract) :=
    .rebound record.label contract record bound own
  have after : Sound crypto ⟨(storeGame crypto host store (movedTo record contract)).store, released⟩ :=
    sound.write (sound.writable_of_grant reads grant)
  have bind : (storeGame crypto host store (movedTo record contract)).store[bindSecret record.label]? =
      some (record.gameId crypto).val := by
    refine (storeGame_bind host store (movedTo record contract) crypto).trans ?_
    change (if _ then some (record.gameId crypto).val else store[bindSecret record.label]?) = _
    rw [index, ite_self]
  have game := storeGame_game host store (movedTo record contract) crypto
  cases written : host.writes 0 with
  | false =>
    rw [written, if_neg Bool.false_ne_true] at game
    exact (after.boundGame_iff reads).2 ⟨bind, game.trans held⟩
  | true =>
    rw [written, if_pos rfl] at game
    exact (after.boundGame_iff reads).2 ⟨bind, game⟩

theorem boundGame_rebind : Delegate.boundGame secrets
      (handle rules crypto reader secrets host store origin (.rebind label contract)).1 label = some record ∨
    Delegate.boundGame secrets
      (handle rules crypto reader secrets host store origin (.rebind label contract)).1 label =
        some (movedTo record contract) := by
  rw [handle_rebind sound reads bound]
  split_ifs with own
  · rw [afterWrites_fst, boundGame_storeGame sound reads bound own]
    split_ifs
    · exact .inr rfl
    · exact .inl rfl
  · exact .inl bound

theorem rebind_served (rules : Rules) (reader : Reader) (contract : Bytes32) (own : record.origin = origin)
    (durable : ∀ n, host.writes n = true) :
    (handle rules crypto reader secrets host store origin (.rebind label contract)).2 =
        .bound (record.gameId crypto) ∧
      Delegate.boundGame secrets
        (handle rules crypto reader secrets host store origin (.rebind label contract)).1 label =
          some (movedTo record contract) := by
  have done : (storeGame crypto host store (movedTo record contract)).ok = true := by
    rw [storeGame_ok, durable, durable]
    rfl
  rw [handle_rebind sound reads bound, if_pos own, afterWrites, if_pos done]
  exact ⟨rfl, by rw [boundGame_storeGame sound reads bound own, if_pos (durable 0)]⟩

end Rebinding

section Network
variable {crypto : Crypto} {params : GameParams} {records : Set Adjourn.Record} {world : World crypto}
  {got other : GameState} {id id' : Bytes32} {held : Option (Held crypto)} {offers : List Adjourn.Record}

/-- The state has every valid record of the other already, up to normalisation: to merge
them in again adds nothing. -/
def Contains (crypto : Crypto) (params : GameParams) (state other : GameState) : Prop :=
  state.merged crypto params other = state

variable (records) in
def Within (world : World crypto) : Prop :=
  ∀ (id : Bytes32) (held : Held crypto), world.network id = some held → ∀ rec ∈ valuesOf held.state.records,
    rec ∈ records

variable (params records) in
/-- The game at the address is the normal form of offers with all of the given state's
records among them. -/
def Covers (world : World crypto) (id : Bytes32) (got : GameState) : Prop :=
  ∃ (held : Held crypto) (offers : List Adjourn.Record), world.network id = some held ∧
    (∀ rec ∈ offers, rec ∈ records) ∧ Represents crypto params offers held.state ∧
      ∀ rec ∈ valuesOf got.records, rec ∈ offers

theorem base_within (within : Within records world) (id : Bytes32) :
    ∀ rec ∈ valuesOf (Held.base (world.network id)).records, rec ∈ records := by
  cases stored : world.network id with
  | none =>
    intro rec member
    obtain ⟨key, absent⟩ := mem_valuesOf.1 member
    simp [Held.base, GameState.empty] at absent
  | some held => exact within id held stored

section Universe
variable (free : crypto.CollisionFree (Adjourn.Record.idInput '' records))
include free

theorem contains_of_covers (covers : Covers params records world id got) :
    ∃ held : Held crypto, world.network id = some held ∧ Contains crypto params held.state got := by
  obtain ⟨held, offers, stored, inside, represents, all⟩ := covers
  refine ⟨held, stored, ?_⟩
  have both : ∀ rec ∈ offers ++ valuesOf got.records, rec ∈ records :=
    List.forall_mem_append.2 ⟨inside, fun rec member => inside rec (all rec member)⟩
  have merged : Represents crypto params (offers ++ valuesOf got.records) (held.state.merged crypto params got) :=
    represents.between.apply free (.merge got) both
  refine Convergence.represents_eq merged represents fun rec _ => ?_
  rw [List.mem_append]
  exact ⟨fun member => member.elim (fun known => known) fun inGot => all rec inGot, .inl⟩

theorem represents_union (first : ∀ rec ∈ valuesOf (Held.base held).records, rec ∈ records)
    (second : ∀ rec ∈ valuesOf got.records, rec ∈ records) :
    Represents crypto params
      (valuesOf (Held.base held).records ++ valuesOf got.records)
      (Held.union params held got).state :=
  (Convergence.represents_filterValid free first).between.apply free (.merge got)
    (List.forall_mem_append.2 ⟨first, second⟩)

theorem within_put (within : Within records world) (inside : ∀ rec ∈ valuesOf got.records, rec ∈ records)
    (id : Bytes32) : Within records (world.put id params got) := by
  intro id' held stored rec member
  by_cases same : id' = id
  · subst same
    obtain rfl : Held.union params (world.network id') got = held := by
      simpa [World.put] using stored
    obtain ⟨key, at'⟩ := mem_valuesOf.1 member
    have union : Represents crypto params _ (Held.union params (world.network id') got).state :=
      represents_union free (base_within within id') inside
    have offered := (union.between.sound key rec at').2.2
    rcases List.mem_append.1 offered with base | incoming
    · exact base_within within id' rec base
    · exact inside rec incoming
  · exact within id' held (by simpa [World.put, same] using stored) rec member

theorem covers_put (within : Within records world) (inside : ∀ rec ∈ valuesOf got.records, rec ∈ records)
    (id : Bytes32) : Covers params records (world.put id params got) id got := by
  refine ⟨.union params (world.network id) got, _, by simp [World.put], ?_,
    represents_union free (base_within within id) inside, fun rec member => List.mem_append_right _ member⟩
  exact List.forall_mem_append.2 ⟨base_within within id, inside⟩

theorem Covers.put (covers : Covers params records world id' other)
    (inside : ∀ rec ∈ valuesOf got.records, rec ∈ records) (id : Bytes32) :
    Covers params records (world.put id params got) id' other := by
  obtain ⟨held, offers, stored, known, represents, all⟩ := covers
  by_cases same : id' = id
  · subst same
    have both : ∀ rec ∈ offers ++ valuesOf got.records, rec ∈ records :=
      List.forall_mem_append.2 ⟨known, inside⟩
    refine ⟨.union params (world.network id') got, offers ++ valuesOf got.records, by simp [World.put], both, ?_,
      fun rec member => List.mem_append_left _ (all rec member)⟩
    have settled : held.state.filterValid crypto params = held.state :=
      Sync.Represents.filterValid_eq free known represents
    simp only [Held.union, Held.base, stored, Option.map_some, Option.getD_some, settled]
    exact represents.between.apply free (.merge got) both
  · exact ⟨held, offers, by simpa [World.put, same] using stored, known, represents, all⟩

end Universe

end Network

section Runs
variable {setting : Setting} {label : String} {world next : World setting.crypto} {attempt : Attempt}
  {attempts : List Attempt} {record current : GameRecord} {got : GameState} {records : Set Adjourn.Record}
  {released : List (GameId × Adjourn.Record)}

variable (setting records) in
def Attempt.Brings (attempt : Attempt) : Prop :=
  ∀ (bytes : Bytes) (got : GameState), attempt.get = .stale (some bytes) →
    InSync.fetchState setting.crypto setting.reader bytes = some got → ∀ rec ∈ valuesOf got.records, rec ∈ records

variable (setting label record records released) in
/-- What holds between attempts. The label's record is the first one but for its address. -/
structure Tracked (world : World setting.crypto) (current : GameRecord) : Prop where
  sound : Sound setting.crypto ⟨world.store, released⟩
  bound : Delegate.boundGame setting.secrets world.store label = some current
  same : current = { record with contract := current.contract, previous := current.previous }
  owner : loadOwner world.store label = record.origin
  within : Within records world

theorem inside_of_returns (reads : setting.reader.RoundTrips) (within : Within records world)
    (brings : attempt.Brings setting records) {contract : Bytes32}
    (returns : Returns setting world attempt contract got) : ∀ rec ∈ valuesOf got.records, rec ∈ records := by
  obtain ⟨bytes, replied, decodes⟩ := returns
  cases fetch : attempt.get with
  | fails reason => simp [fetch, Fetch.reply] at replied
  | stale answer =>
    rw [fetch] at replied
    obtain rfl := Except.ok.inj replied
    exact brings bytes got fetch decodes
  | answers =>
    rw [fetch] at replied
    obtain ⟨held, stored, rfl⟩ := Option.map_eq_some_iff.1 (Except.ok.inj replied)
    rw [fetchState_payload reads held.keyed] at decodes
    obtain rfl := Option.some.inj decodes
    exact within contract held stored

theorem Copied.bound_cases (secretReads : setting.secrets.RoundTrips)
    (tracked : Tracked setting label record records released world current)
    (copied : Copied setting label current attempt world got next) :
    Sound setting.crypto ⟨next.store, released⟩ ∧ loadOwner next.store label = loadOwner world.store label ∧
      (Delegate.boundGame setting.secrets next.store label = some current ∨
        Delegate.boundGame setting.secrets next.store label =
          some (movedTo current (derived setting current attempt))) := by
  rcases copied.store with kept | served
  · rw [kept]
    exact ⟨tracked.sound, rfl, .inl tracked.bound⟩
  · obtain ⟨seed, key⟩ := key_of_bound tracked.sound secretReads tracked.bound
    rw [served]
    exact ⟨sound_handle tracked.sound secretReads _, Origins.loadOwner_kept (by simp [key]),
      boundGame_rebind tracked.sound secretReads tracked.bound⟩

theorem movedTo_same (contract : Bytes32)
    (same : current = { record with contract := current.contract, previous := current.previous }) :
    movedTo current contract = { record with
      contract := (movedTo current contract).contract
      previous := (movedTo current contract).previous } := by
  rw [same]
  rfl

theorem Tracked.clean (reads : setting.reader.RoundTrips) (secretReads : setting.secrets.RoundTrips)
    (tracked : Tracked setting label record records released world current)
    (own : record.origin = setting.origin) (held : world.network current.contract ≠ none) (clean : attempt.Clean) :
    ∃ next, Delegate.boundGame setting.secrets (Migration.tryOnce setting label world attempt).store label =
      some next ∧ next.contract = derived setting record attempt := by
  have params : current.params = record.params := by rw [tracked.same]
  have owns : current.origin = setting.origin := by rw [tracked.same, ← own]
  obtain ⟨seed, key⟩ := key_of_bound tracked.sound secretReads tracked.bound
  obtain ⟨game, found⟩ := findBound_listed setting.crypto (tracked.owner.trans own) key tracked.bound
  have listed := perform_boundGame_works label ⟨world, attempt⟩ clean.listGames
  rw [found] at listed
  obtain ⟨params', contract⟩ := game_of_summary (summary_of_findBound found) tracked.bound
  obtain ⟨state, stored⟩ := Option.ne_none_iff_exists'.1 held
  unfold Migration.tryOnce migrateLabel
  rw [perform_bind, listed]
  simp only [contractContainer, params', contract, params]
  by_cases already : setting.instanceId record.params.encode attempt.wasm = current.contract
  · rw [if_pos already]
    exact ⟨current, tracked.bound, already.symm⟩
  · have answer : (NodeClient.get current.contract false).run (⟨world, attempt⟩ : Node setting) =
        (.ok (some (payload state.state)), ⟨world, attempt⟩) := by
      change (attempt.get.reply (world.stored current.contract), _) = _
      rw [clean.get, World.stored, stored]
      rfl
    have decoded : previousState setting.crypto setting.reader current.contract
        (some (payload state.state)) = .ok state.state := by
      simp only [previousState, fetchState_payload reads state.keyed]
    obtain ⟨served, moved⟩ := rebind_served tracked.sound secretReads tracked.bound setting.rules setting.reader
      (setting.instanceId record.params.encode attempt.wasm) owns clean.durable
    rw [if_neg already, perform_call_bind answer, perform_lift_bind decoded, perform_bind,
      perform_put_works reads state.keyed clean.put]
    simp only
    rw [perform_bind, perform_rebind_works clean.rebind]
    simp only [World.put_store]
    rw [perform_bind, perform_lift, served]
    exact ⟨_, moved, rfl⟩

variable (free : setting.crypto.CollisionFree (Adjourn.Record.idInput '' records))
  (reads : setting.reader.RoundTrips) (secretReads : setting.secrets.RoundTrips)
include free reads secretReads

theorem Tracked.tryOnce (tracked : Tracked setting label record records released world current)
    (brings : attempt.Brings setting records) :
    ∃ next, Tracked setting label record records released (tryOnce setting label world attempt) next ∧
      (∀ id got, Covers record.params records world id got →
        Covers record.params records (tryOnce setting label world attempt) id got) ∧
      (world.network current.contract ≠ none →
        (tryOnce setting label world attempt).network next.contract ≠ none) ∧
      (next.contract ≠ current.contract → ∃ got, Returns setting world attempt current.contract got ∧
        Covers record.params records (tryOnce setting label world attempt) next.contract got) := by
  rcases tryOnce_cases attempt reads tracked.bound with same | ⟨got, copied⟩
  · rw [same]
    exact ⟨current, tracked, fun _ _ covers => covers, fun held => held, fun moved => absurd rfl moved⟩
  · have inside := inside_of_returns reads tracked.within brings copied.returns
    have params : current.params = record.params := by rw [tracked.same]
    have network := copied.network
    rw [params] at network
    obtain ⟨sound, owner, bound⟩ := copied.bound_cases secretReads tracked
    have within : Within records (Migration.tryOnce setting label world attempt) := by
      intro id held stored
      rw [network] at stored
      exact within_put free tracked.within inside _ id held stored
    have covers : ∀ id other, Covers record.params records
        (world.put (derived setting current attempt) record.params got) id other →
          Covers record.params records (Migration.tryOnce setting label world attempt) id other := by
      intro id other covers
      unfold Covers
      rw [network]
      exact covers
    have here := covers _ _ (covers_put free tracked.within inside (derived setting current attempt))
    have kept : ∀ id other, Covers record.params records world id other →
        Covers record.params records (Migration.tryOnce setting label world attempt) id other :=
      fun id other before => covers id other (before.put free inside _)
    rcases bound with stays | moves
    · refine ⟨current, ⟨sound, stays, tracked.same, owner.trans tracked.owner, within⟩, kept, ?_,
        fun moved => absurd rfl moved⟩
      intro held
      rw [network]
      simp [World.put, copied.elsewhere.symm, held]
    · refine ⟨movedTo current (derived setting current attempt),
        ⟨sound, moves, movedTo_same _ tracked.same, owner.trans tracked.owner, within⟩, kept, ?_,
        fun _ => ⟨got, copied.returns, here⟩⟩
      intro _
      obtain ⟨held, -, stored, -⟩ := here
      simp [movedTo, stored]

theorem Tracked.tryAll (brings : ∀ attempt ∈ attempts, attempt.Brings setting records)
    (tracked : Tracked setting label record records released world current) :
    ∃ next, Tracked setting label record records released (tryAll setting label world attempts) next ∧
      (∀ id got, Covers record.params records world id got →
        Covers record.params records (tryAll setting label world attempts) id got) ∧
      (world.network current.contract ≠ none →
        (tryAll setting label world attempts).network next.contract ≠ none) := by
  induction attempts generalizing world current with
  | nil => exact ⟨current, tracked, fun _ _ covers => covers, fun held => held⟩
  | cons attempt rest ih =>
    obtain ⟨middle, first, kept, present, -⟩ :=
      tracked.tryOnce free reads secretReads (brings attempt List.mem_cons_self)
    obtain ⟨last, final, kept', present'⟩ :=
      ih (fun other member => brings other (List.mem_cons_of_mem _ member)) first
    exact ⟨last, final, fun id got covers => kept' id got (kept id got covers), fun held => present' (present held)⟩

end Runs

def begin (setting : Setting) (calls : List Call) (network : Bytes32 → Option (Held setting.crypto)) :
    World setting.crypto :=
  ⟨(serve setting.rules setting.crypto setting.reader setting.secrets calls).store, network⟩

theorem tracked_begin {setting : Setting} {label : String} {calls : List Call}
    {network : Bytes32 → Option (Held setting.crypto)} {record : GameRecord} {records : Set Adjourn.Record}
    (secretReads : setting.secrets.RoundTrips) (within : Within records (begin setting calls network))
    (bound : Delegate.boundGame setting.secrets (begin setting calls network).store label = some record) :
    Tracked setting label record records
      (serve setting.rules setting.crypto setting.reader setting.secrets calls).released
      (begin setting calls network) record where
  sound := sound_serve secretReads calls
  bound := bound
  same := rfl
  owner := by
    have sound : Sound setting.crypto (serve setting.rules setting.crypto setting.reader setting.secrets calls) :=
      sound_serve secretReads calls
    have empty : Sound setting.crypto ⟨∅, []⟩ := sound_start
    have guarded : Origins.Guarded setting.crypto _ (begin setting calls network).store :=
      (Origins.guarded_foldl secretReads calls _ empty Origins.guarded_start le_rfl).1
    obtain ⟨gameId, held, named⟩ := sound.boundGame_eq_some secretReads bound
    rw [guarded.origins gameId record held, named]
  within := within

/-- A migration never loses the game, over any number of attempts and whatever fails in
them. The delegate's record changes in its address only. Where an attempt has moved it, the
game at the new address has, from then on, every valid record that the attempt's GET
returned from the old one. And an attempt in which nothing fails, made by the label's own
caller of a game that was on the network at first, ends at the address that it derives. -/
theorem migration_keeps_the_game (setting : Setting) (calls : List Call) (label : String)
    (network : Bytes32 → Option (Held setting.crypto)) (attempts : List Attempt) (record : GameRecord)
    (records : Set Adjourn.Record) (reads : setting.reader.RoundTrips)
    (secretReads : setting.secrets.RoundTrips)
    (free : setting.crypto.CollisionFree (Adjourn.Record.idInput '' records))
    (within : Within records (begin setting calls network))
    (brings : ∀ attempt ∈ attempts, attempt.Brings setting records)
    (bound : Delegate.boundGame setting.secrets (begin setting calls network).store label = some record) :
    (∃ current, Delegate.boundGame setting.secrets
        (tryAll setting label (begin setting calls network) attempts).store label = some current ∧
      current = { record with contract := current.contract, previous := current.previous }) ∧
    (∀ earlier attempt later, attempts = earlier ++ attempt :: later → ∀ before after,
      Delegate.boundGame setting.secrets
        (tryAll setting label (begin setting calls network) earlier).store label = some before →
      Delegate.boundGame setting.secrets
        (tryAll setting label (begin setting calls network) (earlier ++ [attempt])).store label = some after →
      after.contract ≠ before.contract →
        ∃ got held, Returns setting (tryAll setting label (begin setting calls network) earlier) attempt
            before.contract got ∧
          (tryAll setting label (begin setting calls network) attempts).network after.contract = some held ∧
            Contains setting.crypto record.params held.state got) ∧
    (∀ earlier last, attempts = earlier ++ [last] → last.Clean →
      loadOwner (begin setting calls network).store label = setting.origin → network record.contract ≠ none →
        ∃ current, Delegate.boundGame setting.secrets
            (tryAll setting label (begin setting calls network) attempts).store label = some current ∧
          current.contract = setting.instanceId record.params.encode last.wasm) := by
  have start := tracked_begin secretReads within bound
  refine ⟨?_, ?_, ?_⟩
  · obtain ⟨current, tracked, -⟩ := start.tryAll free reads secretReads brings
    exact ⟨current, tracked.bound, tracked.same⟩
  · intro earlier attempt later split before after boundBefore boundAfter moved
    subst split
    obtain ⟨known, brings', brings''⟩ : (∀ other ∈ earlier, other.Brings setting records) ∧
        attempt.Brings setting records ∧ ∀ other ∈ later, other.Brings setting records := by
      rw [List.forall_mem_append, List.forall_mem_cons] at brings
      exact brings
    obtain ⟨middle, tracked, -, -⟩ := start.tryAll free reads secretReads known
    obtain ⟨next, tracked', -, -, covered⟩ := tracked.tryOnce free reads secretReads brings'
    have first : before = middle := Option.some.inj (boundBefore.symm.trans tracked.bound)
    have second : after = next := by
      rw [tryAll, List.foldl_append] at boundAfter
      exact Option.some.inj (boundAfter.symm.trans tracked'.bound)
    subst first second
    obtain ⟨got, returns, covers⟩ := covered moved
    obtain ⟨-, -, kept, -⟩ := tracked'.tryAll free reads secretReads brings''
    obtain ⟨held, stored, contains⟩ := contains_of_covers free (kept _ _ covers)
    refine ⟨got, held, returns, ?_, contains⟩
    rw [tryAll, List.foldl_append, List.foldl_cons]
    exact stored
  · intro earlier last split clean own held
    subst split
    obtain ⟨middle, tracked, -, present⟩ := start.tryAll free reads secretReads
      fun other member => brings other (List.mem_append_left _ member)
    rw [tryAll, List.foldl_append]
    exact tracked.clean reads secretReads (start.owner.symm.trans own) (present held) clean

noncomputable def sampleSetting : Setting :=
  ⟨Sample.rules, Sample.crypto, Reader.exact, SecretReader.exact,
    fun parameters code => Sample.hash (parameters ++ code), none⟩

def sampleMove : Adjourn.Record := Record.sign Sample.crypto samplePlayer sampleParams (sampleOpening "e2e4")

def sampleHeld : Held Sample.crypto :=
  ⟨GameState.empty.absorbForTest Sample.crypto sampleMove, (GameState.keyed_empty _).absorbForTest _⟩

def sampleNetwork (id : Bytes32) : Option (Held Sample.crypto) := if id = zeros then some sampleHeld else none

def sampleLost : Attempt := ⟨[1], sampleHost, none, .answers, none, some (.lost "timed out")⟩

def sampleClean : Attempt := ⟨[2], sampleHost, none, .answers, none, none⟩

theorem sampleCalls_store :
    (begin sampleSetting (sampleCalls.take 2) sampleNetwork).store = sampleBound := by
  simp only [begin, sampleSetting]
  simp [serve, sampleCalls, Signing.step, handle, sampleKeyed_create, sampleKeyed_bind]

theorem migration_keeps_the_game_lost : ∃ current, Delegate.boundGame SecretReader.exact
    (tryAll sampleSetting "white" (begin sampleSetting (sampleCalls.take 2) sampleNetwork)
      [sampleLost, sampleClean]).store "white" = some current ∧
        current.contract = Sample.hash (sampleParams.encode ++ [2]) := by
  have within : Within {rec | rec ∈ [sampleMove]} (begin sampleSetting (sampleCalls.take 2) sampleNetwork) := by
    intro id held stored rec member
    have found : sampleNetwork id = some held := stored
    unfold sampleNetwork at found
    split_ifs at found
    obtain rfl := Option.some.inj found
    obtain ⟨key, at'⟩ := mem_valuesOf.1 member
    simp only [sampleHeld, GameState.absorbForTest, GameState.empty, ExtTreeMap.getElem?_insert] at at'
    split_ifs at at'
    · exact List.mem_singleton.2 (Option.some.inj at').symm
    · simp at at'
  have brings : ∀ attempt ∈ [sampleLost, sampleClean], attempt.Brings sampleSetting {rec | rec ∈ [sampleMove]} := by
    intro attempt member bytes got stale
    simp only [List.mem_cons, List.not_mem_nil, or_false] at member
    rcases member with rfl | rfl <;> cases stale
  have bound : Delegate.boundGame sampleSetting.secrets
      (begin sampleSetting (sampleCalls.take 2) sampleNetwork).store "white" = some sampleRecord := by
    have index : loadBoundGameId sampleBound "white" = some (sampleParams.gameId Sample.crypto) := by
      rw [loadBoundGameId, sampleBound, getElem?_write, if_pos rfl]
      exact toBytes32_val _
    rw [sampleCalls_store, Delegate.boundGame, index, Option.bind_some]
    exact sampleBound_loaded
  have own : loadOwner (begin sampleSetting (sampleCalls.take 2) sampleNetwork).store "white" = none := by
    rw [sampleCalls_store, loadOwner, sampleBound,
      getElem?_write_ne (stem_bindSecret _) (stem_ownerSecret _) (by decide),
      getElem?_write_ne (stem_gameSecret _) (stem_ownerSecret _) (by decide), sampleKeyed]
    simp
  refine (migration_keeps_the_game sampleSetting (sampleCalls.take 2) "white" sampleNetwork
    [sampleLost, sampleClean] sampleRecord {rec | rec ∈ [sampleMove]} Reader.exact_roundTrips
    SecretReader.exact_roundTrips ?_ within brings bound).2.2 [sampleLost] sampleClean rfl ?_ own ?_
  · exact Sample.collisionFree_image _ [sampleMove] (by simp)
  · exact ⟨rfl, rfl, rfl, rfl, fun _ => rfl⟩
  · change sampleNetwork zeros ≠ none
    rw [sampleNetwork, if_pos rfl]
    exact Option.some_ne_none _

end Adjourn.Migration
