import Adjourn.Signing

/-! The delegate's books where no write fails: labels and games go together one to one,
and what a game record says of its game never changes, except that its counter goes up
and its contract moves. -/

namespace Adjourn.Bookkeeping
open Cbor OrderedMap Delegate Signing

/-- A record of a player's game: the side is that of the label's key, the counter stands
at a ply of this side, and the contract is not its own predecessor. -/
structure WellKept (crypto : Crypto) (store : Store) (record : GameRecord) : Prop where
  side : ∃ (seed : Bytes32) (color : Color), store[keySecret record.label]? = some seed.val ∧
    record.params.colorOf (crypto.verifyingKey seed) = some color ∧ record.side = .ofColor color
  ply : record.lastSignedPly = 0 ∨
    record.lastSignedPly ≤ MAX_PLY ∧ Side.ofColor (colorAtPly record.lastSignedPly) = record.side
  previous : record.previous ≠ some record.contract

structure Continues (old record : GameRecord) : Prop where
  label : record.label = old.label
  params : record.params = old.params
  side : record.side = old.side
  origin : record.origin = old.origin
  entropy : record.entropy = old.entropy
  ply : old.lastSignedPly ≤ record.lastSignedPly
  hash : record.lastMoveBodyHash ≠ old.lastMoveBodyHash → old.lastSignedPly < record.lastSignedPly

/-- The index names the game of every record, and the records are well kept. -/
structure Booked (crypto : Crypto) (store : Store) : Prop where
  indexed : ∀ (gameId : GameId) (record : GameRecord), store[gameSecret gameId]? = some record.encode →
    store[bindSecret record.label]? = some gameId.val
  kept : ∀ (gameId : GameId) (record : GameRecord), store[gameSecret gameId]? = some record.encode →
    WellKept crypto store record

variable {rules : Rules} {crypto : Crypto} {reader : Reader} {secrets : SecretReader} {host : Host}
  {store : Store} {origin : Option Bytes32} {label : String} {seed : Bytes32} {quality : EntropyQuality}
  {record old next : GameRecord} {gameId gameId' : GameId} {request : Request}
  {released : List (GameId × Record)}

theorem Continues.refl (record : GameRecord) : Continues record record :=
  ⟨rfl, rfl, rfl, rfl, rfl, le_rfl, fun differs => absurd rfl differs⟩

theorem Continues.trans (first : Continues old record) (second : Continues record next) :
    Continues old next where
  label := second.label.trans first.label
  params := second.params.trans first.params
  side := second.side.trans first.side
  origin := second.origin.trans first.origin
  entropy := second.entropy.trans first.entropy
  ply := first.ply.trans second.ply
  hash differs := by
    by_cases same : record.lastMoveBodyHash = old.lastMoveBodyHash
    · exact first.ply.trans_lt (second.hash (same ▸ differs))
    · exact (first.hash same).trans_le second.ply

theorem continues_of_sign {body : Body} (granted : decideSign crypto old body origin = .sign record) :
    Continues old record ∧ record.contract = old.contract ∧ record.previous = old.previous ∧
      (record = old ∨ record.lastSignedPly ≤ MAX_PLY ∧
        Side.ofColor (colorAtPly record.lastSignedPly) = record.side) := by
  obtain ⟨-, ⟨same, -⟩ | ⟨ply, parent, uci, -, inside, side, above, moved⟩⟩ := decideSign_cases granted
  · subst same
    exact ⟨.refl record, rfl, rfl, .inl rfl⟩
  · subst moved
    exact ⟨⟨rfl, rfl, rfl, rfl, rfl, above.le, fun _ => above⟩, rfl, rfl, .inr ⟨inside, side⟩⟩

def AllKept (crypto : Crypto) (store : Store) : Prop :=
  ∀ (gameId : GameId) (record : GameRecord), store[gameSecret gameId]? = some record.encode →
    WellKept crypto store record

theorem WellKept.mono {after : Store} (kept : WellKept crypto store record)
    (keys : after[keySecret record.label]? = store[keySecret record.label]?) : WellKept crypto after record := by
  obtain ⟨⟨seed, color, key, player, side⟩, ply, previous⟩ := kept
  exact ⟨⟨seed, color, keys.trans key, player, side⟩, ply, previous⟩

theorem wellKept_of_grant (sound : Sound crypto ⟨store, released⟩) (reads : secrets.RoundTrips)
    (all : AllKept crypto store) (grant : Grant crypto secrets store origin record) :
    WellKept crypto store record := by
  cases grant with
  | again label _ bound own =>
    obtain ⟨gameId, held, -⟩ := sound.boundGame_eq_some reads bound
    exact all gameId record held
  | fresh label params contract seed color unread seeded owned ours player =>
    exact ⟨⟨seed, color, loadSeed_eq_some seeded, player, rfl⟩, .inl rfl, by simp⟩
  | rebound label contract old bound own =>
    obtain ⟨gameId, held, -⟩ := sound.boundGame_eq_some reads bound
    have kept := all gameId old held
    refine ⟨kept.side, kept.ply, ?_⟩
    by_cases same : old.contract = contract
    · simpa [same] using fun earlier => kept.previous (earlier.trans (congrArg some same.symm))
    · simp [same]
  | signed gameId body old updated loaded granted =>
    have kept := all gameId old ((sound.loadGame_eq_some reads).1 loaded)
    obtain ⟨continues, contract, previous, counter⟩ := continues_of_sign granted
    refine ⟨?_, ?_, ?_⟩
    · rw [continues.label, continues.params, continues.side]
      exact kept.side
    · rcases counter with same | moved
      · rw [same]
        exact kept.ply
      · exact .inr moved
    · rw [previous, contract]
      exact kept.previous

theorem AllKept.storeKey (all : AllKept crypto store) (absent : store[keySecret label]? = none) (seed : Bytes32)
    (quality : EntropyQuality) : AllKept crypto (storeKey host store origin label seed quality).store := by
  intro gameId record held
  rw [storeKey_game] at held
  have kept := all gameId record held
  obtain ⟨seed', color, key, -⟩ := kept.side
  have differs : record.label ≠ label := by
    intro equal
    rw [equal, absent] at key
    cases key
  exact kept.mono (storeKey_kept (.inl rfl) host store origin seed quality differs)

theorem AllKept.storeGame (all : AllKept crypto store) (kept : WellKept crypto store record) :
    AllKept crypto (storeGame crypto host store record).store := by
  intro gameId other held
  by_cases same : gameId = record.gameId crypto
  · subst same
    rw [storeGame_game] at held
    split_ifs at held with written
    · obtain rfl := GameRecord.encode_injective (Option.some.inj held)
      exact kept.mono (storeGame_kept (.inl rfl) host store record)
    · exact (all _ other held).mono (storeGame_kept (.inl rfl) host store record)
  · rw [storeGame_game_ne host store record crypto same] at held
    exact (all gameId other held).mono (storeGame_kept (.inl rfl) host store record)

theorem AllKept.handle (sound : Sound crypto ⟨store, released⟩) (reads : secrets.RoundTrips)
    (all : AllKept crypto store) :
    AllKept crypto (handle rules crypto reader secrets host store origin request).1 := by
  rcases handle_store rules crypto reader secrets host store origin request with
    same | ⟨label, caller, seed, quality, -, absent, -, made⟩ | ⟨record, grant, written⟩
  · rwa [same]
  · rw [made]
    exact all.storeKey absent seed quality
  · rw [written]
    exact all.storeGame (wellKept_of_grant sound reads all grant)

theorem allKept_serve (reads : secrets.RoundTrips) (calls : List Call) :
    AllKept crypto (serve rules crypto reader secrets calls).store := by
  have kept : ∀ session : Session, Sound crypto session → AllKept crypto session.store →
      AllKept crypto (calls.foldl (step rules crypto reader secrets) session).store := by
    induction calls with
    | nil => exact fun _ _ all => all
    | cons call rest ih =>
      exact fun session sound all => ih _ (sound_step reads sound call) (all.handle sound reads)
  exact kept _ sound_start fun gameId record held => by simp at held

theorem booked_start : Booked crypto ∅ where
  indexed gameId record held := by simp at held
  kept gameId record held := by simp at held

section Invariant
variable (sound : Sound crypto ⟨store, released⟩) (booked : Booked crypto store)
include booked

theorem Booked.unique (held : store[gameSecret gameId]? = some record.encode)
    (held' : store[gameSecret gameId']? = some old.encode) (labels : record.label = old.label) :
    gameId = gameId' := by
  have first := booked.indexed gameId record held
  rw [labels, booked.indexed gameId' old held'] at first
  exact (FixedBytes.val_injective (Option.some.inj first)).symm

theorem Booked.storeKey (absent : store[keySecret label]? = none) (seed : Bytes32) (quality : EntropyQuality) :
    Booked crypto (storeKey host store origin label seed quality).store where
  indexed gameId record held := by
    rw [storeKey_game] at held
    rw [storeKey_bind]
    exact booked.indexed gameId record held
  kept := AllKept.storeKey booked.kept absent seed quality

include sound

theorem Booked.of_held (held : store[gameSecret gameId]? = some old.encode) (continues : Continues old record) :
    record.gameId crypto = gameId ∧
      (∀ other : GameRecord, store[gameSecret gameId]? = some other.encode → Continues other record) ∧
      ∀ (gameId' : GameId) (other : GameRecord), store[gameSecret gameId']? = some other.encode →
        other.label = record.label → gameId' = gameId := by
  obtain ⟨other, same, own, -, -⟩ := sound.games gameId _ held
  obtain rfl := GameRecord.encode_injective same
  refine ⟨?_, fun other held' => ?_, fun gameId' other held' labels => ?_⟩
  · rw [GameRecord.gameId, continues.params]
    exact own
  · obtain rfl := GameRecord.encode_injective (Option.some.inj (held.symm.trans held'))
    exact continues
  · exact booked.unique held' held (labels.trans continues.label)

theorem Booked.grant (reads : secrets.RoundTrips) (grant : Grant crypto secrets store origin record) :
    (∀ other : GameRecord, store[gameSecret (record.gameId crypto)]? = some other.encode →
        Continues other record) ∧
      ∀ (gameId : GameId) (other : GameRecord), store[gameSecret gameId]? = some other.encode →
        other.label = record.label → gameId = record.gameId crypto := by
  cases grant with
  | again label _ bound own =>
    obtain ⟨gameId, held, -⟩ := sound.boundGame_eq_some reads bound
    obtain ⟨game, rest⟩ := booked.of_held sound held (.refl record)
    rwa [game]
  | fresh label params contract seed color unread seeded owned ours player =>
    have unbound := sound.boundGame_eq_none reads unread
    have unused : ∀ (gameId : GameId) (other : GameRecord), store[gameSecret gameId]? = some other.encode →
        other.label ≠ label := by
      intro gameId other held same
      have index := booked.indexed gameId other held
      rw [same, unbound] at index
      cases index
    refine ⟨fun other held => ?_, fun gameId other held same => absurd same (unused gameId other held)⟩
    exact absurd (ours other ((sound.loadGame_eq_some reads).2 held)) (unused _ other held)
  | rebound label contract old bound own =>
    obtain ⟨gameId, held, -⟩ := sound.boundGame_eq_some reads bound
    have continues : Continues old { old with
        contract := contract
        previous := if old.contract = contract then old.previous else some old.contract } :=
      ⟨rfl, rfl, rfl, rfl, rfl, le_rfl, fun differs => absurd rfl differs⟩
    obtain ⟨game, rest⟩ := booked.of_held sound held continues
    rwa [game]
  | signed gameId body old updated loaded granted =>
    obtain ⟨continues, -⟩ := continues_of_sign granted
    obtain ⟨game, rest⟩ := booked.of_held sound ((sound.loadGame_eq_some reads).1 loaded) continues
    rwa [game]

variable (durable : ∀ n, host.writes n = true)
include durable

theorem Booked.storeGame (reads : secrets.RoundTrips) (grant : Grant crypto secrets store origin record) :
    Booked crypto (storeGame crypto host store record).store ∧
      ∀ gameId (old : GameRecord), store[gameSecret gameId]? = some old.encode → ∃ next : GameRecord,
        (storeGame crypto host store record).store[gameSecret gameId]? = some next.encode ∧
          Continues old next := by
  obtain ⟨continues, unique⟩ := booked.grant sound reads grant
  have here := storeGame_game host store record crypto
  rw [if_pos (durable 0)] at here
  have elsewhere : ∀ gameId, gameId ≠ record.gameId crypto →
      (Adjourn.storeGame crypto host store record).store[gameSecret gameId]? = store[gameSecret gameId]? :=
    fun gameId differs => storeGame_game_ne host store record crypto differs
  have kept : AllKept crypto (Adjourn.storeGame crypto host store record).store :=
    AllKept.storeGame booked.kept (wellKept_of_grant sound reads booked.kept grant)
  refine ⟨⟨fun gameId other held => ?_, kept⟩, fun gameId old held => ?_⟩
  · by_cases same : gameId = record.gameId crypto
    · subst same
      obtain rfl := GameRecord.encode_injective (Option.some.inj (here.symm.trans held))
      rw [storeGame_bind, durable, durable, Bool.and_self, if_pos rfl]
    · rw [elsewhere gameId same] at held
      have labels : other.label ≠ record.label := fun equal => same (unique gameId other held equal)
      rw [storeGame_bind_ne _ _ _ _ labels]
      exact booked.indexed gameId other held
  · by_cases same : gameId = record.gameId crypto
    · subst same
      exact ⟨record, here, continues old held⟩
    · exact ⟨old, (elsewhere gameId same).trans held, .refl old⟩

theorem Booked.handle (reads : secrets.RoundTrips) :
    Booked crypto (handle rules crypto reader secrets host store origin request).1 ∧
      ∀ gameId (old : GameRecord), store[gameSecret gameId]? = some old.encode → ∃ next : GameRecord,
        (handle rules crypto reader secrets host store origin request).1[gameSecret gameId]? =
            some next.encode ∧ Continues old next := by
  rcases handle_store rules crypto reader secrets host store origin request with
    same | ⟨label, caller, seed, quality, -, absent, -, made⟩ | ⟨record, grant, written⟩
  · rw [same]
    exact ⟨booked, fun gameId old held => ⟨old, held, .refl old⟩⟩
  · rw [made]
    refine ⟨booked.storeKey absent seed quality, fun gameId old held => ⟨old, ?_, .refl old⟩⟩
    rw [storeKey_game]
    exact held
  · rw [written]
    exact booked.storeGame sound durable reads grant

end Invariant

theorem booked_foldl (reads : secrets.RoundTrips) (calls : List Call)
    (durable : ∀ call ∈ calls, ∀ n, call.host.writes n = true) (session : Session)
    (sound : Sound crypto session) (booked : Booked crypto session.store) :
    Booked crypto (calls.foldl (step rules crypto reader secrets) session).store ∧
      ∀ gameId (old : GameRecord), session.store[gameSecret gameId]? = some old.encode →
        ∃ next : GameRecord,
          (calls.foldl (step rules crypto reader secrets) session).store[gameSecret gameId]? =
            some next.encode ∧ Continues old next := by
  induction calls generalizing session with
  | nil => exact ⟨booked, fun gameId old held => ⟨old, held, .refl old⟩⟩
  | cons call rest ih =>
    have first : Booked crypto (step rules crypto reader secrets session call).store ∧
        ∀ gameId (old : GameRecord), session.store[gameSecret gameId]? = some old.encode →
          ∃ next : GameRecord, (step rules crypto reader secrets session call).store[gameSecret gameId]? =
            some next.encode ∧ Continues old next :=
      booked.handle sound (durable call List.mem_cons_self) reads
    obtain ⟨booked', later⟩ := ih (fun other member => durable other (List.mem_cons_of_mem _ member)) _
      (sound_step reads sound call) first.1
    refine ⟨booked', fun gameId old held => ?_⟩
    obtain ⟨middle, held', continues⟩ := first.2 gameId old held
    obtain ⟨last, held'', continues'⟩ := later gameId middle held'
    exact ⟨last, held'', continues.trans continues'⟩

/-- Over every run of a delegate whose writes succeed: a label is bound to a game exactly
if the game's record has the label; every record is well kept; and a record held at any
moment is continued by the record held at any later one. -/
theorem books_kept (rules : Rules) (crypto : Crypto) (reader : Reader) (secrets : SecretReader)
    (calls : List Call) (reads : secrets.RoundTrips)
    (durable : ∀ call ∈ calls, ∀ n, call.host.writes n = true) :
    (∀ label gameId,
      (serve rules crypto reader secrets calls).store[bindSecret label]? = some (FixedBytes.val gameId) ↔
        ∃ record : GameRecord, (serve rules crypto reader secrets calls).store[gameSecret gameId]? =
          some record.encode ∧ record.label = label) ∧
    (∀ gameId bytes, (serve rules crypto reader secrets calls).store[gameSecret gameId]? = some bytes →
      ∃ record : GameRecord, bytes = record.encode ∧ record.gameId crypto = gameId ∧
        WellKept crypto (serve rules crypto reader secrets calls).store record) ∧
    (∀ earlier later, calls = earlier ++ later → ∀ gameId (old : GameRecord),
      (serve rules crypto reader secrets earlier).store[gameSecret gameId]? = some old.encode →
        ∃ record : GameRecord, (serve rules crypto reader secrets calls).store[gameSecret gameId]? =
          some record.encode ∧ Continues old record) := by
  have sound : Sound crypto (serve rules crypto reader secrets calls) := sound_serve reads calls
  have booked : Booked crypto (serve rules crypto reader secrets calls).store :=
    (booked_foldl reads calls durable _ sound_start booked_start).1
  refine ⟨fun label gameId => ⟨fun bound => ?_, fun held => ?_⟩, fun gameId bytes held => ?_, ?_⟩
  · obtain ⟨gameId', record, value, held, labels⟩ := sound.binds label _ bound
    obtain rfl := FixedBytes.val_injective value
    exact ⟨record, held, labels⟩
  · obtain ⟨record, held, rfl⟩ := held
    exact booked.indexed gameId record held
  · obtain ⟨record, rfl, own, -⟩ := sound.games gameId bytes held
    exact ⟨record, rfl, own, booked.kept gameId record held⟩
  · rintro earlier later rfl gameId old held
    have early : Booked crypto (serve rules crypto reader secrets earlier).store :=
      (booked_foldl reads earlier (fun call member => durable call (List.mem_append_left _ member)) _
        sound_start booked_start).1
    have split : serve rules crypto reader secrets (earlier ++ later) =
        later.foldl (step rules crypto reader secrets) (serve rules crypto reader secrets earlier) := by
      rw [serve, List.foldl_append]
      rfl
    rw [split]
    exact (booked_foldl reads later (fun call member => durable call (List.mem_append_right _ member)) _
      (sound_serve reads earlier) early).2 gameId old held

theorem books_kept_opening :
    (serve Sample.rules Sample.crypto Reader.exact SecretReader.exact sampleCalls).store[bindSecret "white"]? =
        some (sampleParams.gameId Sample.crypto).val ↔
      ∃ record : GameRecord,
        (serve Sample.rules Sample.crypto Reader.exact SecretReader.exact sampleCalls).store[gameSecret
          (sampleParams.gameId Sample.crypto)]? = some record.encode ∧ record.label = "white" := by
  have durable : ∀ call ∈ sampleCalls, ∀ n, call.host.writes n = true := by simp [sampleCalls, sampleHost]
  exact (books_kept Sample.rules Sample.crypto Reader.exact SecretReader.exact sampleCalls
    SecretReader.exact_roundTrips durable).1 _ _

end Adjourn.Bookkeeping
