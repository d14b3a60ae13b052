import Adjourn.Binding
import Adjourn.Bookkeeping
import Adjourn.Session

/-! Setting up a game: the invite, the offer that answers it, and the inviter's bind. The
bind takes its parameters from the offer alone. -/

namespace Adjourn.Invites
open Cbor OrderedMap Delegate Session Signing Binding Bookkeeping

def INVITE_FORMAT : Byte := 1
def OFFER_FORMAT : Byte := 1

/-- What the inviter hands out: his side, his key, and the nonce that he authors. -/
structure Invite where
  v : Byte
  side : Side
  publicKey : KeyBytes
  nonce : FixedBytes 16

/-- What comes back: the whole game, and the contract that the accepter derived. -/
structure GameOffer where
  v : Byte
  params : GameParams
  contract : Bytes32

def Invite.new (side : Side) (publicKey : KeyBytes) (nonce : FixedBytes 16) : Invite :=
  ⟨INVITE_FORMAT, side, publicKey, nonce⟩

def GameOffer.new (params : GameParams) (contract : Bytes32) : GameOffer := ⟨OFFER_FORMAT, params, contract⟩

def Invite.params (invite : Invite) (ourPublicKey : KeyBytes) : GameParams :=
  match invite.side with
  | .white => ⟨invite.publicKey, ourPublicKey, invite.nonce⟩
  | .black => ⟨ourPublicKey, invite.publicKey, invite.nonce⟩

def gameKeyOf : Response → Except SessionError KeyBytes
  | .gameKey _ publicKey _ => .ok publicKey
  | .refused refusal => .error (.refused refusal)
  | other => .error (.unexpected "CreateGameKey" other)

def boundOf : Response → Except SessionError Unit
  | .bound _ => .ok ()
  | .refused refusal => .error (.refused refusal)
  | other => .error (.unexpected "BindGame" other)

section Flows
variable {N : Type} [NodeClient N] (instanceId : Bytes → Bytes → Bytes32)

def inviteNew (label : String) (side : Side) (entropy : Bytes32) (nonce : FixedBytes 16) : Client N Invite := do
  let response ← call "CreateGameKey" (NodeClient.delegate (.createGameKey label (some entropy)))
  let publicKey ← liftExcept (gameKeyOf response)
  return .new side publicKey nonce

/-- A fresh key of our own, the parameters that the invite pins down, the contract PUT
with empty state, and the delegate bound to it. -/
def inviteAccept (label : String) (invite : Invite) (wasm : Bytes) (entropy : Bytes32) : Client N GameOffer := do
  let response ← call "CreateGameKey" (NodeClient.delegate (.createGameKey label (some entropy)))
  let ourPublicKey ← liftExcept (gameKeyOf response)
  let params := invite.params ourPublicKey
  let (container, id) := contractContainer instanceId wasm params
  call "PUT contract" (NodeClient.put container [])
  let response ← call "BindGame" (NodeClient.delegate (.bindGame label params id))
  liftExcept (boundOf response)
  return .new params id

def putIfAbsent (container : ContractContainer) (id : Bytes32) : Client N Unit := do
  let held ← call "GET contract" (NodeClient.get id false)
  match held with
  | some _ => return ()
  | none => call "PUT contract" (NodeClient.put container [])

/-- The inviter's bind: check the build, have the contract, bind the delegate. -/
def gameBind (label : String) (offer : GameOffer) (wasm : Bytes) : Client N Bytes32 := do
  let (container, id) := contractContainer instanceId wasm offer.params
  if id ≠ offer.contract then throw (.offerMismatch id offer.contract)
  else
    putIfAbsent container id
    let response ← call "BindGame" (NodeClient.delegate (.bindGame label offer.params id))
    liftExcept (boundOf response)
    return id

end Flows

/-- A node whose delegate is the one modelled, for one caller: it answers as the handler
does on the store that the node keeps, and its other calls leave that store alone. -/
structure Hosts (rules : Rules) (crypto : Crypto) (reader : Reader) (secrets : SecretReader)
    (origin : Option Bytes32) {N : Type} [NodeClient N] (store : N → Store) : Prop where
  delegate : ∀ request (node node' : N) response, (NodeClient.delegate request).run node = (.ok response, node') →
    ∃ host, handle rules crypto reader secrets host (store node) origin request = (store node', response)
  get : ∀ id subscribe (node : N), store ((NodeClient.get id subscribe).run node).2 = store node
  put : ∀ container bytes (node : N), store ((NodeClient.put container bytes).run node).2 = store node

def reached (rules : Rules) (crypto : Crypto) (reader : Reader) (secrets : SecretReader) (store : Store)
    (calls : List Call) : Store :=
  calls.foldl (fun store call => (handle rules crypto reader secrets call.host store call.origin call.request).1)
    store

/-- The game is the one that the invite is for. -/
def Honours (invite : Invite) (params : GameParams) : Prop :=
  params.nonce = invite.nonce ∧ params.colorOf invite.publicKey = some invite.side.toColor

def gameInput (params : GameParams) : Bytes :=
  DOMAIN_GAME ++ params.white.val ++ params.black.val ++ params.nonce.val

theorem gameInput_injective : Function.Injective gameInput := by
  intro params other same
  simp only [gameInput, List.append_assoc, List.append_cancel_left_eq] at same
  obtain ⟨whites, rest⟩ := fixedBytes_selfDelimiting 32 _ _ _ _ same
  obtain ⟨blacks, nonces⟩ := fixedBytes_selfDelimiting 32 _ _ _ _ rest
  cases params
  cases other
  cases whites
  cases blacks
  cases FixedBytes.val_injective nonces
  rfl

variable {rules : Rules} {crypto : Crypto} {reader : Reader} {secrets : SecretReader} {origin : Option Bytes32}
  {N : Type} [NodeClient N] {store : N → Store} {node node' : N} {label : String} {entropy : Bytes32}
  {instanceId : Bytes → Bytes → Bytes32} {wasm : Bytes} {calls : List Call} {held : Store} {host : Host}
  {params : GameParams} {contract : Bytes32} {record : GameRecord} {released : List (GameId × Record)}

theorem gameKeyOf_eq_ok {response : Response} {publicKey : KeyBytes}
    (keyed : gameKeyOf response = .ok publicKey) : ∃ name quality, response = .gameKey name publicKey quality := by
  cases response <;> cases keyed
  exact ⟨_, _, rfl⟩

theorem boundOf_eq_ok {response : Response} {done : Unit} (bound : boundOf response = .ok done) :
    ∃ gameId, response = .bound gameId := by
  cases response <;> cases bound
  exact ⟨_, rfl⟩

section Reached
variable (reads : secrets.RoundTrips)
include reads

theorem kept_reached (calls : List Call) (sound : Sound crypto ⟨held, released⟩) (all : AllKept crypto held) :
    (∃ released', Sound crypto ⟨reached rules crypto reader secrets held calls, released'⟩) ∧
      AllKept crypto (reached rules crypto reader secrets held calls) := by
  induction calls generalizing held released with
  | nil => exact ⟨⟨released, sound⟩, all⟩
  | cons call rest ih =>
    exact ih (sound_step reads sound call) (all.handle sound reads)

theorem kept_start (begun : held = reached rules crypto reader secrets ∅ calls) :
    (∃ released, Sound crypto ⟨held, released⟩) ∧ AllKept crypto held := by
  rw [begun]
  exact kept_reached reads calls sound_start fun gameId record there => by simp at there

end Reached

theorem key_reached (calls : List Call) (present : held[keySecret label]? ≠ none) :
    (reached rules crypto reader secrets held calls)[keySecret label]? = held[keySecret label]? := by
  induction calls generalizing held with
  | nil => rfl
  | cons call rest ih =>
    have same : (handle rules crypto reader secrets call.host held call.origin call.request).1[keySecret label]? =
        held[keySecret label]? := label_kept (.inl rfl) present
    refine (ih ?_).trans same
    rwa [same]

section Answers
variable (hosts : Hosts rules crypto reader secrets origin store)
include hosts

theorem created {name : String} {publicKey : KeyBytes} {quality : EntropyQuality}
    (answered : (NodeClient.delegate (.createGameKey label (some entropy))).run node =
      (.ok (.gameKey name publicKey quality), node')) :
    (store node)[keySecret label]? = none ∧ ∃ (host : Host) (seed : Bytes32) (quality : EntropyQuality),
      store node' = (storeKey host (store node) origin label seed quality).store ∧
      (store node')[keySecret label]? = some seed.val ∧ publicKey = crypto.verifyingKey seed := by
  obtain ⟨host, served⟩ := hosts.delegate _ _ _ _ answered
  rw [handle] at served
  rcases handleCreateGameKey_cases crypto host (store node) origin label (some entropy) with
    ⟨refusal, refused⟩ | ⟨seed, quality', absent, -, made⟩
  · rw [refused] at served
    cases (congrArg Prod.snd served)
  · rw [made] at served
    obtain ⟨ok, same⟩ := afterWrites_snd (congrArg Prod.snd served) (by simp)
    obtain ⟨-, rfl, -⟩ := Response.gameKey.inj same
    have stored : store node' = (storeKey host (store node) origin label seed quality').store :=
      (congrArg Prod.fst served).symm.trans (afterWrites_fst _ _)
    have first : host.writes 0 = true := by
      by_contra failed
      unfold storeKey Writes.start Writes.set at ok
      cases origin <;> simp [failed] at ok
    refine ⟨absent, host, seed, quality', stored, ?_, rfl⟩
    rw [stored, storeKey_key, if_pos first]

theorem bound {gameId : GameId}
    (answered : (NodeClient.delegate (.bindGame label params contract)).run node = (.ok (.bound gameId), node')) :
    ∃ (host : Host) (record : GameRecord),
      recordToBind crypto secrets (store node) origin label params contract = .ok record ∧
      (storeGame crypto host (store node) record).ok = true ∧
      store node' = (storeGame crypto host (store node) record).store := by
  obtain ⟨host, served⟩ := hosts.delegate _ _ _ _ answered
  rw [handle, handleBindGame_eq] at served
  cases decided : recordToBind crypto secrets (store node) origin label params contract with
  | error refusal =>
    rw [decided] at served
    cases (congrArg Prod.snd served)
  | ok record =>
    rw [decided] at served
    obtain ⟨ok, -⟩ := afterWrites_snd (congrArg Prod.snd served) (by simp)
    exact ⟨host, record, rfl, ok, (congrArg Prod.fst served).symm.trans (afterWrites_fst _ _)⟩

end Answers

section Decided
variable (reads : secrets.RoundTrips) (sound : Sound crypto ⟨held, released⟩)
  (decided : recordToBind crypto secrets held origin label params contract = .ok record)
include reads sound decided

theorem record_decided : record.label = label ∧ record.format = GAME_RECORD_FORMAT ∧
    record.gameId crypto = params.gameId crypto ∧
    (Delegate.boundGame secrets held label = some record ∨
      Delegate.boundGame secrets held label = none ∧ record.params = params ∧ record.contract = contract) := by
  cases existing : Delegate.boundGame secrets held label with
  | some old =>
    obtain ⟨rfl, same⟩ := recordToBind_of_bound existing decided
    obtain ⟨gameId, there, named⟩ := sound.boundGame_eq_some reads existing
    obtain ⟨other, equal, -, format, -⟩ := sound.games gameId _ there
    obtain rfl := GameRecord.encode_injective equal
    exact ⟨named, format, same, .inl rfl⟩
  | none =>
    obtain ⟨seed, color, -, -, -, -, rfl⟩ := (recordToBind_of_unread contract existing).1 decided
    exact ⟨rfl, rfl, rfl, .inr ⟨rfl, rfl, rfl⟩⟩

theorem boundGame_stored (written : (storeGame crypto host held record).ok = true) :
    Delegate.boundGame secrets (storeGame crypto host held record).store label = some record := by
  obtain ⟨rfl, current, -⟩ := record_decided reads sound decided
  rw [storeGame_store written, Delegate.boundGame, loadBoundGameId, getElem?_write, if_pos rfl, Option.bind_some,
    toBytes32_val, Option.bind_some, loadGame, game_after_bind, getElem?_write, if_pos rfl, Option.bind_some,
    reads.gameRecord, Option.bind_some, migrateRecord_of_format current]

theorem wellKept_decided (all : AllKept crypto held) : WellKept crypto held record := by
  obtain ⟨-, -, -, old | ⟨unread, -, -⟩⟩ := record_decided reads sound decided
  · obtain ⟨gameId, there, -⟩ := sound.boundGame_eq_some reads old
    exact all gameId record there
  · obtain ⟨seed, color, seeded, -, -, player, rfl⟩ := (recordToBind_of_unread contract unread).1 decided
    exact ⟨⟨seed, color, loadSeed_eq_some seeded, player, rfl⟩, .inl rfl, by simp⟩

theorem side_decided {seed : Bytes32} (all : AllKept crypto held)
    (key : held[keySecret label]? = some seed.val) :
    record.params.colorOf (crypto.verifyingKey seed) = some record.side.toColor := by
  obtain ⟨⟨seed', color, key', player, side⟩, -, -⟩ := wellKept_decided reads sound decided all
  obtain ⟨rfl, -⟩ := record_decided reads sound decided
  obtain rfl := FixedBytes.val_injective (Option.some.inj (key'.symm.trans key))
  rw [player, side]
  cases color <;> rfl

theorem params_decided {games : Set GameParams} (free : crypto.CollisionFree (gameInput '' games))
    (known : params ∈ games)
    (knownToo : ∀ old : GameRecord, Delegate.boundGame secrets held label = some old → old.params ∈ games) :
    record.params = params := by
  obtain ⟨-, -, same, old | ⟨-, fresh, -⟩⟩ := record_decided reads sound decided
  · exact gameInput_injective (free (Set.mem_image_of_mem _ (knownToo record old))
      (Set.mem_image_of_mem _ known) same)
  · exact fresh

end Decided

section Specs
variable (hosts : Hosts rules crypto reader secrets origin store) {invite : Invite} {offer : GameOffer}
include hosts

theorem inviteNew_spec {side : Side} {nonce : FixedBytes 16}
    (done : perform (inviteNew label side entropy nonce) node = (.ok invite, node')) :
    (store node)[keySecret label]? = none ∧ ∃ (host : Host) (seed : Bytes32) (quality : EntropyQuality),
      store node' = (storeKey host (store node) origin label seed quality).store ∧
      (store node')[keySecret label]? = some seed.val ∧
      invite = .new side (crypto.verifyingKey seed) nonce := by
  unfold inviteNew at done
  obtain ⟨response, middle, asked, rest⟩ := perform_bind_ok done
  obtain ⟨publicKey, middle', keyed, last⟩ := perform_bind_ok rest
  obtain ⟨answer, rfl⟩ := perform_lift_ok keyed
  obtain ⟨name, quality, rfl⟩ := gameKeyOf_eq_ok answer
  obtain ⟨same, rfl⟩ := Prod.mk.inj last
  obtain ⟨absent, host, seed, quality', stored, key, rfl⟩ := created hosts (perform_call_ok asked)
  exact ⟨absent, host, seed, quality', stored, key, (Except.ok.inj same).symm⟩

theorem store_putIfAbsent {container : ContractContainer} {id : Bytes32}
    (done : perform (putIfAbsent container id) node = (.ok (), node')) : store node' = store node := by
  unfold putIfAbsent at done
  obtain ⟨held, middle, got, done⟩ := perform_bind_ok done
  have same : store middle = store node := by
    have kept := hosts.get id false node
    rwa [perform_call_ok got] at kept
  cases held with
  | some bytes =>
    obtain ⟨-, rfl⟩ := Prod.mk.inj done
    exact same
  | none =>
    have kept := hosts.put container [] middle
    rw [perform_call_ok done] at kept
    exact kept.trans same

theorem inviteAccept_spec
    (done : perform (inviteAccept instanceId label invite wasm entropy) node = (.ok offer, node')) :
    (store node)[keySecret label]? = none ∧ ∃ (host host' : Host) (seed : Bytes32) (quality : EntropyQuality)
      (keyed : Store) (record : GameRecord), keyed = (storeKey host (store node) origin label seed quality).store ∧
      keyed[keySecret label]? = some seed.val ∧ offer.params = invite.params (crypto.verifyingKey seed) ∧
      offer.contract = instanceId offer.params.encode wasm ∧
      recordToBind crypto secrets keyed origin label offer.params offer.contract = .ok record ∧
      (storeGame crypto host' keyed record).ok = true ∧
      store node' = (storeGame crypto host' keyed record).store := by
  unfold inviteAccept contractContainer at done
  obtain ⟨response, middle, asked, rest⟩ := perform_bind_ok done
  obtain ⟨publicKey, middle', keyed, placing⟩ := perform_bind_ok rest
  obtain ⟨answer, rfl⟩ := perform_lift_ok keyed
  obtain ⟨name, quality, rfl⟩ := gameKeyOf_eq_ok answer
  obtain ⟨⟨⟩, placed, put, binding⟩ := perform_bind_ok placing
  obtain ⟨response, last, asked', answering⟩ := perform_bind_ok binding
  obtain ⟨⟨⟩, last', bound', finish⟩ := perform_bind_ok answering
  obtain ⟨answer', rfl⟩ := perform_lift_ok bound'
  obtain ⟨gameId, rfl⟩ := boundOf_eq_ok answer'
  obtain ⟨same, rfl⟩ := Prod.mk.inj finish
  obtain rfl := Except.ok.inj same
  obtain ⟨absent, host, seed, quality', stored, key, rfl⟩ := created hosts (perform_call_ok asked)
  obtain ⟨host', record, decided, written, stored'⟩ := bound hosts (perform_call_ok asked')
  have kept := hosts.put ⟨(invite.params (crypto.verifyingKey seed)).encode, wasm⟩ [] middle'
  rw [perform_call_ok put] at kept
  have kept : store placed = store middle' := kept
  rw [kept] at decided written stored'
  exact ⟨absent, host, host', seed, quality', store middle', record, stored, key, rfl, rfl, decided, written,
    stored'⟩

theorem gameBind_spec {id : Bytes32}
    (done : perform (gameBind instanceId label offer wasm) node = (.ok id, node')) :
    id = offer.contract ∧ id = instanceId offer.params.encode wasm ∧ ∃ (host : Host) (record : GameRecord),
      recordToBind crypto secrets (store node) origin label offer.params id = .ok record ∧
      (storeGame crypto host (store node) record).ok = true ∧
      store node' = (storeGame crypto host (store node) record).store := by
  unfold gameBind contractContainer at done
  dsimp only at done
  split_ifs at done with mismatch
  · cases (congrArg Prod.fst done)
  · obtain ⟨⟨⟩, middle, put, binding⟩ := perform_bind_ok done
    obtain ⟨response, last, asked, answering⟩ := perform_bind_ok binding
    obtain ⟨⟨⟩, last', bound', finish⟩ := perform_bind_ok answering
    obtain ⟨answer, rfl⟩ := perform_lift_ok bound'
    obtain ⟨gameId, rfl⟩ := boundOf_eq_ok answer
    obtain ⟨same, rfl⟩ := Prod.mk.inj finish
    obtain rfl := Except.ok.inj same
    have kept := store_putIfAbsent hosts put
    obtain ⟨host, record, decided, written, stored⟩ := bound hosts (perform_call_ok asked)
    rw [kept] at decided written stored
    exact ⟨not_not.1 mismatch, rfl, host, record, decided, written, stored⟩

end Specs

/-- The inviter's run: an invite from a delegate that may have served other requests, more
requests, and a bind of some offer that succeeds. -/
structure Inviter (rules : Rules) (crypto : Crypto) (reader : Reader) (secrets : SecretReader)
    (instanceId : Bytes → Bytes → Bytes32) (wasm : Bytes) {N : Type} [NodeClient N] (store : N → Store)
    (origin : Option Bytes32) (label : String) (side : Side) (entropy : Bytes32) (nonce : FixedBytes 16)
    (invite : Invite) (offer : GameOffer) (last final : N) : Prop where
  hosts : Hosts rules crypto reader secrets origin store
  run : ∃ (first middle : N) (earlier calls : List Call) (id : Bytes32),
    store first = reached rules crypto reader secrets ∅ earlier ∧
      perform (inviteNew label side entropy nonce) first = (.ok invite, middle) ∧
      store last = reached rules crypto reader secrets (store middle) calls ∧
      perform (gameBind instanceId label offer wasm) last = (.ok id, final)

/-- The honest accepter's run. -/
structure Accepter (rules : Rules) (crypto : Crypto) (reader : Reader) (secrets : SecretReader)
    (instanceId : Bytes → Bytes → Bytes32) (wasm : Bytes) {N : Type} [NodeClient N] (store : N → Store)
    (origin : Option Bytes32) (label : String) (entropy : Bytes32) (invite : Invite) (offer : GameOffer)
    (final : N) : Prop where
  hosts : Hosts rules crypto reader secrets origin store
  run : ∃ (first : N) (earlier : List Call), store first = reached rules crypto reader secrets ∅ earlier ∧
    perform (inviteAccept instanceId label invite wasm entropy) first = (.ok offer, final)

theorem boundGame_of_keyed {seed : Bytes32} {quality : EntropyQuality} (reads : secrets.RoundTrips)
    (sound : Sound crypto ⟨held, released⟩) (absent : held[keySecret label]? = none) :
    Delegate.boundGame secrets (storeKey host held origin label seed quality).store label = none := by
  refine Option.eq_none_iff_forall_ne_some.2 fun record bound => ?_
  obtain ⟨gameId, there, named⟩ := (sound_storeKey sound absent seed quality).boundGame_eq_some reads bound
  rw [storeKey_game] at there
  obtain ⟨other, same, -, -, seed', key⟩ := sound.games gameId _ there
  obtain rfl := GameRecord.encode_injective same
  rw [named, absent] at key
  cases key

section Runs
variable {side : Side} {nonce : FixedBytes 16} {invite : Invite} {offer : GameOffer} {last final : N}
  (reads : secrets.RoundTrips)
include reads

/-- What the inviter is bound to: the offered game, whatever the invite says. -/
theorem Inviter.bound {games : Set GameParams} (free : crypto.CollisionFree (gameInput '' games))
    (alice : Inviter rules crypto reader secrets instanceId wasm store origin label side entropy nonce invite offer
      last final) (known : offer.params ∈ games)
    (knownToo : ∀ old : GameRecord, Delegate.boundGame secrets (store last) label = some old → old.params ∈ games) :
    invite.side = side ∧ invite.nonce = nonce ∧ ∃ record : GameRecord,
      Delegate.boundGame secrets (store final) label = some record ∧ record.params = offer.params ∧
      record.params.colorOf invite.publicKey = some record.side.toColor ∧
      (record.contract = offer.contract ↔ ∀ old : GameRecord,
        Delegate.boundGame secrets (store last) label = some old → old.contract = offer.contract) := by
  obtain ⟨first, middle, earlier, calls, id, begun, invited, meanwhile, done⟩ := alice.run
  obtain ⟨absent, host, seed, quality, stored, key, rfl⟩ := inviteNew_spec alice.hosts invited
  obtain ⟨rfl, -, host', record, decided, written, stored'⟩ := gameBind_spec alice.hosts done
  obtain ⟨⟨released, sound⟩, all⟩ := kept_start reads begun
  have sound' : Sound crypto ⟨store middle, released⟩ := by
    rw [stored]
    exact sound_storeKey sound absent seed quality
  have all' : AllKept crypto (store middle) := by
    rw [stored]
    exact all.storeKey absent seed quality
  have kept : (∃ released', Sound crypto ⟨store last, released'⟩) ∧ AllKept crypto (store last) := by
    rw [meanwhile]
    exact kept_reached reads calls sound' all'
  obtain ⟨⟨released', sound''⟩, all''⟩ := kept
  have key' : (store last)[keySecret label]? = (store middle)[keySecret label]? := by
    rw [meanwhile]
    exact key_reached calls (by simp [key])
  refine ⟨rfl, rfl, record, ?_, params_decided reads sound'' decided free known knownToo,
    side_decided reads sound'' decided all'' (key'.trans key), ?_⟩
  · rw [stored']
    exact boundGame_stored reads sound'' decided written
  · obtain ⟨-, -, -, old | ⟨unread, -, fresh⟩⟩ := record_decided reads sound'' decided
    · simp [old]
    · simp [unread, fresh]

theorem Accepter.bound
    (bob : Accepter rules crypto reader secrets instanceId wasm store origin label entropy invite offer final) :
    ∃ (record : GameRecord) (key : KeyBytes), Delegate.boundGame secrets (store final) label = some record ∧
      record.params = offer.params ∧ record.contract = offer.contract ∧ offer.params = invite.params key ∧
      record.params.colorOf key = some record.side.toColor := by
  obtain ⟨first, earlier, begun, done⟩ := bob.run
  obtain ⟨absent, host, host', seed, quality, keyed, record, rfl, key, pinned, -, decided, written, stored⟩ :=
    inviteAccept_spec bob.hosts done
  obtain ⟨⟨released, sound⟩, all⟩ := kept_start reads begun
  have sound' : Sound crypto ⟨(storeKey host (store first) origin label seed quality).store, released⟩ :=
    sound_storeKey sound absent seed quality
  have all' : AllKept crypto (storeKey host (store first) origin label seed quality).store :=
    all.storeKey absent seed quality
  obtain ⟨-, -, -, old | ⟨-, params, contract⟩⟩ := record_decided reads sound' decided
  · rw [boundGame_of_keyed reads sound absent] at old
    cases old
  · refine ⟨record, crypto.verifyingKey seed, ?_, params, contract, pinned,
      side_decided reads sound' decided all' key⟩
    rw [stored]
    exact boundGame_stored reads sound' decided written

end Runs

theorem honours_pinned_iff {invite : Invite} {key : KeyBytes} {ours theirs : Side}
    (pinned : params = invite.params key) (inviter : params.colorOf invite.publicKey = some ours.toColor)
    (accepter : params.colorOf key = some theirs.toColor) :
    (ours ≠ theirs ∧ Honours invite params) ↔ params.white ≠ params.black := by
  subst pinned
  simp only [GameParams.colorOf] at inviter accepter
  unfold Honours GameParams.colorOf
  cases side : invite.side with
  | white =>
    simp only [Invite.params, side] at *
    cases ours <;> cases theirs <;> grind [Side.toColor]
  | black =>
    simp only [Invite.params, side] at *
    cases ours <;> cases theirs <;> grind [Side.toColor]

/-- The inviter is bound to the offered game, whatever he invited to: it is the game of
the invite exactly if the offer has the invite's nonce and gives the inviter's key its
colour. With an honest accepter the two delegates are bound to the same game under the
same contract, on the sides that the invite names, unless the two keys are one, or the
inviter's label was bound to the game under another contract before. -/
theorem invite_honoured_iff (rules : Rules) (crypto : Crypto) (reader : Reader) (secrets : SecretReader)
    (instanceId : Bytes → Bytes → Bytes32) (wasm : Bytes) {N : Type} [NodeClient N] (store : N → Store)
    (origin : Option Bytes32) (label : String) (side : Side) (entropy : Bytes32) (nonce : FixedBytes 16)
    (invite : Invite) (offer : GameOffer) (last final : N) (games : Set GameParams) (reads : secrets.RoundTrips)
    (free : crypto.CollisionFree (gameInput '' games))
    (alice : Inviter rules crypto reader secrets instanceId wasm store origin label side entropy nonce invite offer
      last final) (known : offer.params ∈ games)
    (knownToo : ∀ old : GameRecord, Delegate.boundGame secrets (store last) label = some old → old.params ∈ games) :
    ∃ record : GameRecord, Delegate.boundGame secrets (store final) label = some record ∧
      (Honours invite record.params ↔ offer.params.nonce = nonce ∧
        offer.params.colorOf invite.publicKey = some side.toColor) ∧
      ∀ {M : Type} [NodeClient M] (store' : M → Store) (origin' : Option Bytes32) (label' : String)
        (entropy' : Bytes32) (final' : M),
        Accepter rules crypto reader secrets instanceId wasm store' origin' label' entropy' invite offer final' →
        ∃ record' : GameRecord, Delegate.boundGame secrets (store' final') label' = some record' ∧
          ((record.params = record'.params ∧ record.contract = record'.contract ∧ record.side ≠ record'.side ∧
              Honours invite record.params) ↔
            offer.params.white ≠ offer.params.black ∧ ∀ old : GameRecord,
              Delegate.boundGame secrets (store last) label = some old → old.contract = offer.contract) := by
  obtain ⟨rfl, rfl, record, bound, params, inviter, contract⟩ := alice.bound reads free known knownToo
  refine ⟨record, bound, by rw [params, Honours], fun store' origin' label' entropy' final' bob => ?_⟩
  obtain ⟨record', key, bound', params', contract', pinned, accepter⟩ := bob.bound reads
  rw [params'] at accepter
  rw [params] at inviter
  refine ⟨record', bound', ?_⟩
  rw [params, params', contract', contract, ← honours_pinned_iff pinned inviter accepter]
  tauto

structure SampleNode where
  store : Store

noncomputable instance sampleNodeClient : NodeClient SampleNode where
  get _ _ := return .ok none
  put _ _ := return .ok ()
  update _ _ := return .error "no such call"
  delegate request := fun node =>
    let (store, response) := handle Sample.rules Sample.crypto Reader.exact SecretReader.exact sampleHost
      node.store none request
    (.ok response, ⟨store⟩)
  nextUpdate := return .ok none

def sampleInstance (parameters code : Bytes) : Bytes32 := Sample.hash (parameters ++ code)

def sampleNonce : FixedBytes 16 := Sample.params.nonce

def keyedStore (label : String) (seed : Bytes32) : Store :=
  ((∅ : Store).insert (keySecret label) seed.val).insert (qualitySecret label) EntropyQuality.degraded.encode

theorem sample_answers (request : Request) (node : SampleNode) :
    (NodeClient.delegate request).run node =
      (.ok (handle Sample.rules Sample.crypto Reader.exact SecretReader.exact sampleHost node.store none request).2,
        ⟨(handle Sample.rules Sample.crypto Reader.exact SecretReader.exact sampleHost node.store none request).1⟩) :=
  rfl

theorem sample_hosts :
    Hosts Sample.rules Sample.crypto Reader.exact SecretReader.exact none SampleNode.store where
  delegate request node node' response answered := by
    obtain ⟨same, rfl⟩ := Prod.mk.inj answered
    obtain rfl := Except.ok.inj same
    exact ⟨sampleHost, rfl⟩
  get _ _ _ := rfl
  put _ _ _ := rfl

section Sample
variable {seed : Bytes32} {color : Color}

theorem sample_create (derived : deriveSeed Sample.crypto (classifyHostEntropy zeros zeros) (some entropy) label =
      .ok (seed, .degraded)) :
    (NodeClient.delegate (.createGameKey label (some entropy))).run (⟨∅⟩ : SampleNode) =
      (.ok (.gameKey label seed .degraded), ⟨keyedStore label seed⟩) := by
  have ours : Sample.crypto.verifyingKey seed = seed := rfl
  have made : handle Sample.rules Sample.crypto Reader.exact SecretReader.exact sampleHost ∅ none
      (.createGameKey label (some entropy)) = (keyedStore label seed, .gameKey label seed .degraded) := by
    simp [handle, handleCreateGameKey, sampleHost, derived, afterWrites, Writes.start, Writes.set, keyedStore,
      ours]
  rw [sample_answers, made]

theorem sample_unbound : Delegate.boundGame SecretReader.exact (keyedStore label seed) label = none := by
  rw [Delegate.boundGame, loadBoundGameId, keyedStore,
    getElem?_write_ne (stem_qualitySecret _) (stem_bindSecret _) (by decide),
    getElem?_write_ne (stem_keySecret _) (stem_bindSecret _) (by decide)]
  rfl

theorem sample_bind (params : GameParams) (contract : Bytes32) (player : params.colorOf seed = some color) :
    ∃ final : SampleNode, (NodeClient.delegate (.bindGame label params contract)).run
      (⟨keyedStore label seed⟩ : SampleNode) = (.ok (.bound (params.gameId Sample.crypto)), final) := by
  have seeded : loadSeed (keyedStore label seed) label = some seed := by
    rw [loadSeed, keyedStore, getElem?_write_ne (stem_qualitySecret _) (stem_keySecret _) (by decide),
      getElem?_write, if_pos rfl, Option.bind_some, toBytes32_val]
  have unowned : loadOwner (keyedStore label seed) label = none := by
    rw [loadOwner, keyedStore, getElem?_write_ne (stem_qualitySecret _) (stem_ownerSecret _) (by decide),
      getElem?_write_ne (stem_keySecret _) (stem_ownerSecret _) (by decide)]
    rfl
  have unused : ∀ other, loadGame SecretReader.exact (keyedStore label seed) (params.gameId Sample.crypto) =
      some other → other.label = label := by
    intro other loaded
    rw [loadGame, keyedStore, getElem?_write_ne (stem_qualitySecret _) (stem_gameSecret _) (by decide),
      getElem?_write_ne (stem_keySecret _) (stem_gameSecret _) (by decide)] at loaded
    cases loaded
  have stored := (recordToBind_of_unread contract sample_unbound).2
    ⟨seed, color, seeded, unowned, unused, player, rfl⟩
  refine ⟨_, Prod.ext ?_ rfl⟩
  rw [sample_answers, handle, handleBindGame_eq, stored]
  rfl

theorem sample_inviteNew (side : Side) (nonce : FixedBytes 16)
    (derived : deriveSeed Sample.crypto (classifyHostEntropy zeros zeros) (some entropy) label =
      .ok (seed, .degraded)) :
    perform (inviteNew label side entropy nonce) (⟨∅⟩ : SampleNode) =
      (.ok (.new side seed nonce), ⟨keyedStore label seed⟩) := by
  have keyed : gameKeyOf (.gameKey label seed .degraded) = .ok seed := rfl
  rw [inviteNew, perform_call_bind (sample_create derived), perform_lift_bind keyed]
  rfl

theorem sample_inviteAccept (invite : Invite)
    (derived : deriveSeed Sample.crypto (classifyHostEntropy zeros zeros) (some entropy) label =
      .ok (seed, .degraded)) (player : (invite.params seed).colorOf seed = some color) :
    ∃ final : SampleNode, perform (inviteAccept sampleInstance label invite wasm entropy) (⟨∅⟩ : SampleNode) =
      (.ok (.new (invite.params seed) (sampleInstance (invite.params seed).encode wasm)), final) := by
  obtain ⟨final, bound⟩ := sample_bind (invite.params seed) (sampleInstance (invite.params seed).encode wasm) player
  have keyed : gameKeyOf (.gameKey label seed .degraded) = .ok seed := rfl
  have put : (NodeClient.put ⟨(invite.params seed).encode, wasm⟩ []).run (⟨keyedStore label seed⟩ : SampleNode) =
      (.ok (), ⟨keyedStore label seed⟩) := rfl
  have answer : boundOf (.bound ((invite.params seed).gameId Sample.crypto)) = .ok () := rfl
  refine ⟨final, ?_⟩
  rw [inviteAccept, perform_call_bind (sample_create derived), perform_lift_bind keyed]
  dsimp only [contractContainer]
  rw [perform_call_bind put, perform_call_bind bound, perform_lift_bind answer]
  rfl

theorem sample_gameBind (params : GameParams) (player : params.colorOf seed = some color) :
    ∃ final : SampleNode, perform (gameBind sampleInstance label
      (.new params (sampleInstance params.encode wasm)) wasm) (⟨keyedStore label seed⟩ : SampleNode) =
        (.ok (sampleInstance params.encode wasm), final) := by
  obtain ⟨final, bound⟩ := sample_bind params (sampleInstance params.encode wasm) player
  have placed : perform (putIfAbsent ⟨params.encode, wasm⟩ (sampleInstance params.encode wasm))
      (⟨keyedStore label seed⟩ : SampleNode) = (.ok (), ⟨keyedStore label seed⟩) := rfl
  have answer : boundOf (.bound (params.gameId Sample.crypto)) = .ok () := rfl
  refine ⟨final, ?_⟩
  rw [gameBind, contractContainer]
  simp only [GameOffer.new, ne_eq, not_true, if_false]
  rw [perform_bind, placed]
  dsimp only
  rw [perform_call_bind bound, perform_lift_bind answer]
  rfl

end Sample

theorem sample_inviter {params : GameParams} {color : Color} (player : params.colorOf samplePlayer = some color) :
    ∃ final : SampleNode, Inviter Sample.rules Sample.crypto Reader.exact SecretReader.exact sampleInstance [1]
      SampleNode.store none "white" .white Sample.whiteKey sampleNonce (.new .white samplePlayer sampleNonce)
      (.new params (sampleInstance params.encode [1])) ⟨keyedStore "white" samplePlayer⟩ final := by
  obtain ⟨final, bound⟩ := sample_gameBind params player
  exact ⟨final, sample_hosts, ⟨∅⟩, _, [], [], _, rfl, sample_inviteNew .white sampleNonce samplePlayer_derived, rfl,
    bound⟩

theorem sample_free (params : GameParams) : Sample.crypto.CollisionFree (gameInput '' {params}) := by
  rw [Set.image_singleton]
  exact Set.injOn_singleton _ _

/-- White invites as White. The accepter offers the game with the colours exchanged and
another nonce, and White's bind of it goes through. -/
theorem invite_not_honoured :
    ∃ (invite : Invite) (offer : GameOffer) (last final : SampleNode) (record : GameRecord),
    Inviter Sample.rules Sample.crypto Reader.exact SecretReader.exact sampleInstance [1] SampleNode.store none
      "white" .white Sample.whiteKey sampleNonce invite offer last final ∧
    Delegate.boundGame SecretReader.exact final.store "white" = some record ∧
    record.params.nonce ≠ invite.nonce ∧ record.params.colorOf invite.publicKey = some .black := by
  let hostile : GameParams := ⟨sampleAccepter, samplePlayer, ⟨List.replicate 16 8, rfl⟩⟩
  have player : hostile.colorOf samplePlayer = some .black := by decide +kernel
  obtain ⟨final, alice⟩ := sample_inviter player
  obtain ⟨-, -, record, bound, params, -, -⟩ := alice.bound SecretReader.exact_roundTrips (sample_free hostile)
    (Set.mem_singleton _) fun old bound => by
      rw [sample_unbound] at bound
      cases bound
  refine ⟨_, _, _, final, record, alice, bound, ?_, ?_⟩
  · rw [params]
    decide +kernel
  · rw [params]
    exact player

/-- With an honest accepter the two are bound to one game. -/
theorem invite_honoured_iff_accepted : ∃ (record record' : GameRecord) (final final' : SampleNode),
    Delegate.boundGame SecretReader.exact final.store "white" = some record ∧
    Delegate.boundGame SecretReader.exact final'.store "black" = some record' ∧
    record.params = record'.params ∧ record.contract = record'.contract ∧ record.side ≠ record'.side ∧
    Honours (.new .white samplePlayer sampleNonce) record.params := by
  have inviter : ((Invite.new .white samplePlayer sampleNonce).params sampleAccepter).colorOf samplePlayer =
      some .white := by decide +kernel
  have accepter : ((Invite.new .white samplePlayer sampleNonce).params sampleAccepter).colorOf sampleAccepter =
      some .black := by decide +kernel
  have differ : samplePlayer ≠ sampleAccepter := by decide +kernel
  obtain ⟨final, alice⟩ := sample_inviter inviter
  obtain ⟨final', accepted⟩ := sample_inviteAccept (.new .white samplePlayer sampleNonce) sampleAccepter_derived
    accepter
  have unbound : ∀ (old : GameRecord), Delegate.boundGame SecretReader.exact (keyedStore "white" samplePlayer)
      "white" = some old → False := by
    intro old bound
    rw [sample_unbound] at bound
    cases bound
  obtain ⟨record, bound, -, agreed⟩ := invite_honoured_iff Sample.rules Sample.crypto Reader.exact
    SecretReader.exact sampleInstance [1] SampleNode.store none "white" .white Sample.whiteKey sampleNonce
    (.new .white samplePlayer sampleNonce) _ _ final _ SecretReader.exact_roundTrips (sample_free _) alice
    (Set.mem_singleton _) fun old bound => (unbound old bound).elim
  obtain ⟨record', bound', agree⟩ := agreed SampleNode.store none "black" Sample.whiteKey final'
    ⟨sample_hosts, ⟨∅⟩, [], rfl, accepted⟩
  obtain ⟨params, contract, sides, honours⟩ := agree.2 ⟨differ, fun old bound => (unbound old bound).elim⟩
  exact ⟨record, record', final, final', bound, bound', params, contract, sides, honours⟩

end Adjourn.Invites
