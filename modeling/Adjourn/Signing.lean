import Adjourn.Grants
import Adjourn.Draws
import Adjourn.Forfeit
import Adjourn.Watermark

/-! One signature for each game and ply: over any sequence of requests, with writes that
fail at will, the delegate never signs two different moves of one ply. -/

namespace Adjourn.Signing
open Cbor OrderedMap NormalForm Delegate Watermark

structure Call where
  host : Host
  origin : Option Bytes32
  request : Request

structure Session where
  store : Store
  released : List (GameId × Record)

def answered : Request → Response → List (GameId × Record)
  | .sign gameId _, .signed rec => [(gameId, rec)]
  | _, _ => []

section Runs
variable (rules : Rules) (crypto : Crypto) (reader : Reader) (secrets : SecretReader)

def step (session : Session) (call : Call) : Session :=
  let (store, response) :=
    handle rules crypto reader secrets call.host session.store call.origin call.request
  ⟨store, session.released ++ answered call.request response⟩

def serve (calls : List Call) : Session := calls.foldl (step rules crypto reader secrets) ⟨∅, []⟩

end Runs

/-- The moves released for a game: their plies and what was signed. -/
def moveLog (crypto : Crypto) (gameId : GameId) (released : List (GameId × Record)) : List (U16 × Bytes32) :=
  released.filterMap fun entry =>
    match entry.2.body with
    | .move ply _ _ => if entry.1 = gameId then some (ply, bodyHash crypto entry.2.body) else none
    | _ => none

def mark (record : GameRecord) : Mark U16 Bytes32 := ⟨record.lastSignedPly, record.lastMoveBodyHash⟩

variable {rules : Rules} {crypto : Crypto} {reader : Reader} {secrets : SecretReader} {host : Host}
  {store : Store} {released : List (GameId × Record)} {record old : GameRecord} {label : String}
  {gameId : GameId} {seed : Bytes32} {origin : Option Bytes32}

/-- What holds between requests. A game's record is held under the game's id and its
label has a key; a bound label's game is held and names the label; the record's mark is
ahead of the moves released; and a game for which anything was released has a bound
label. -/
structure Sound (crypto : Crypto) (session : Session) : Prop where
  games : ∀ gameId bytes, session.store[gameSecret gameId]? = some bytes → ∃ record : GameRecord,
    bytes = record.encode ∧ record.gameId crypto = gameId ∧ record.format = GAME_RECORD_FORMAT ∧
      ∃ seed : Bytes32, session.store[keySecret record.label]? = some seed.val
  binds : ∀ label bytes, session.store[bindSecret label]? = some bytes →
    ∃ (gameId : GameId) (record : GameRecord), bytes = gameId.val ∧
      session.store[gameSecret gameId]? = some record.encode ∧ record.label = label
  safe : ∀ gameId (record : GameRecord), session.store[gameSecret gameId]? = some record.encode →
    Safe (mark record) (moveLog crypto gameId session.released)
  signed : ∀ entry ∈ session.released, ∃ (record : GameRecord) (seed : Bytes32),
    session.store[gameSecret entry.1]? = some record.encode ∧
      session.store[bindSecret record.label]? ≠ none ∧
      session.store[keySecret record.label]? = some seed.val ∧
      entry.2 = Record.sign crypto seed record.params entry.2.body

theorem sound_start : Sound crypto ⟨∅, []⟩ where
  games gameId bytes held := by simp at held
  binds label bytes held := by simp at held
  safe gameId record held := by simp at held
  signed entry member := by simp at member

/-- A record that may be written: what the store holds of its game, if anything, has the
same label, and either nothing is bound to the label yet, or the record continues it. -/
structure Writable (crypto : Crypto) (store : Store) (record : GameRecord) : Prop where
  format : record.format = GAME_RECORD_FORMAT
  seeded : ∃ seed : Bytes32, store[keySecret record.label]? = some seed.val
  continues : ∀ old : GameRecord, store[gameSecret (record.gameId crypto)]? = some old.encode →
    old.label = record.label ∧
      (store[bindSecret record.label]? = none ∨
        old.params = record.params ∧ Admits (mark old) (mark record))

theorem moveLog_eq_nil (none' : ∀ entry ∈ released, entry.1 ≠ gameId) : moveLog crypto gameId released = [] := by
  rw [moveLog, List.filterMap_eq_nil_iff]
  intro entry member
  cases entry.2.body <;> simp [none' entry member]

theorem moveLog_append_move {rec : Record} {ply : U16} {parent : RecordId} {uci : String}
    (is : rec.body = .move ply parent uci) :
    moveLog crypto gameId (released ++ [(gameId, rec)]) =
      moveLog crypto gameId released ++ [(ply, bodyHash crypto rec.body)] := by
  simp [moveLog, is]

theorem moveLog_append_other {entry : GameId × Record}
    (other : entry.1 = gameId → ∀ ply parent uci, entry.2.body ≠ .move ply parent uci) :
    moveLog crypto gameId (released ++ [entry]) = moveLog crypto gameId released := by
  rw [moveLog, List.filterMap_append]
  cases is : entry.2.body with
  | move ply parent uci =>
    have elsewhere : entry.1 ≠ gameId := fun same => other same ply parent uci is
    simp [moveLog, is, elsewhere]
  | _ => simp [moveLog, is]

theorem storeGame_store (stored : (storeGame crypto host store record).ok = true) :
    (storeGame crypto host store record).store =
      (store.insert (gameSecret (record.gameId crypto)) record.encode).insert (bindSecret record.label)
        (record.gameId crypto).val := by
  unfold storeGame Writes.start Writes.set at stored ⊢
  cases first : host.writes 0 <;> cases second : host.writes 1 <;> simp [first, second] at stored ⊢

namespace Sound
variable (sound : Sound crypto ⟨store, released⟩)
include sound

theorem moveLog_of_unbound (writable : Writable crypto store record)
    (unbound : store[bindSecret record.label]? = none) :
    moveLog crypto (record.gameId crypto) released = [] := by
  refine moveLog_eq_nil fun entry member same => ?_
  obtain ⟨old, -, held, bound, -⟩ := sound.signed entry member
  rw [same] at held
  rw [(writable.continues old held).1] at bound
  exact bound unbound

theorem safe_of_writable (writable : Writable crypto store record) :
    Safe (mark record) (moveLog crypto (record.gameId crypto) released) := by
  cases before : store[gameSecret (record.gameId crypto)]? with
  | none =>
    have unused : moveLog crypto (record.gameId crypto) released = [] := by
      refine moveLog_eq_nil fun entry member same => ?_
      obtain ⟨old, -, held, -⟩ := sound.signed entry member
      rw [same, before] at held
      cases held
    rw [unused]
    exact safe_nil _
  | some bytes =>
    obtain ⟨old, rfl, -⟩ := sound.games _ bytes before
    rcases (writable.continues old before).2 with unbound | ⟨-, admits⟩
    · rw [sound.moveLog_of_unbound writable unbound]
      exact safe_nil _
    · exact (sound.safe _ old before).of_admits admits

theorem write_game (writable : Writable crypto store record) :
    Sound crypto ⟨store.insert (gameSecret (record.gameId crypto)) record.encode, released⟩ where
  games gameId bytes held := by
    simp only [key_after_game]
    rw [getElem?_write] at held
    split_ifs at held with same
    · exact ⟨record, (Option.some.inj held).symm, (gameSecret_inj _ _).1 same, writable.format,
        writable.seeded⟩
    · exact sound.games gameId bytes held
  binds label bytes held := by
    rw [bind_after_game] at held
    obtain ⟨gameId, old, value, game, named⟩ := sound.binds label bytes held
    by_cases same : record.gameId crypto = gameId
    · subst same
      refine ⟨_, record, value, ?_, (writable.continues old game).1.symm.trans named⟩
      rw [getElem?_write, if_pos rfl]
    · refine ⟨gameId, old, value, ?_, named⟩
      rw [getElem?_write, if_neg (mt (gameSecret_inj _ _).1 same)]
      exact game
  safe gameId other held := by
    simp only [getElem?_write, gameSecret_inj] at held
    split_ifs at held with same
    · obtain rfl := GameRecord.encode_injective (Option.some.inj held)
      subst same
      exact sound.safe_of_writable writable
    · exact sound.safe gameId other held
  signed entry member := by
    obtain ⟨old, seed, held, bound, key, signature⟩ := sound.signed entry member
    by_cases same : record.gameId crypto = entry.1
    · rw [← same] at held ⊢
      obtain ⟨labels, unbound | ⟨params, -⟩⟩ := writable.continues old held
      · rw [labels] at bound
        exact absurd unbound bound
      · rw [labels] at bound key
        refine ⟨record, seed, ?_, ?_, ?_, params ▸ signature⟩
        · rw [getElem?_write, if_pos rfl]
        · rwa [bind_after_game]
        · rwa [key_after_game]
    · refine ⟨old, seed, ?_, ?_, ?_, signature⟩
      · rwa [getElem?_write, if_neg (mt (gameSecret_inj _ _).1 same)]
      · rwa [bind_after_game]
      · rwa [key_after_game]

theorem write_bind (held : store[gameSecret (record.gameId crypto)]? = some record.encode) :
    Sound crypto ⟨store.insert (bindSecret record.label) (record.gameId crypto).val, released⟩ where
  games gameId bytes game := by
    simp only [game_after_bind, key_after_bind] at game ⊢
    exact sound.games gameId bytes game
  binds label bytes bound := by
    simp only [game_after_bind]
    rw [getElem?_write] at bound
    split_ifs at bound with same
    · exact ⟨_, record, (Option.some.inj bound).symm, held, (bindSecret_inj _ _).1 same⟩
    · exact sound.binds label bytes bound
  safe gameId other game := by
    rw [game_after_bind] at game
    exact sound.safe gameId other game
  signed entry member := by
    obtain ⟨old, seed, game, bound, key, signature⟩ := sound.signed entry member
    refine ⟨old, seed, ?_, ?_, ?_, signature⟩
    · rwa [game_after_bind]
    · rw [getElem?_write]
      split_ifs
      · simp
      · exact bound
    · rwa [key_after_bind]

theorem write (writable : Writable crypto store record) :
    Sound crypto ⟨(storeGame crypto host store record).store, released⟩ := by
  unfold storeGame Writes.start Writes.set
  cases host.writes 0 with
  | false => simpa using sound
  | true =>
    have written := sound.write_game writable
    cases host.writes 1 with
    | false => simpa using written
    | true =>
      simp only [Bool.and_self, if_true]
      exact written.write_bind (by rw [getElem?_write, if_pos rfl])

theorem write_key (absent : store[keySecret label]? = none) (seed : Bytes32) :
    Sound crypto ⟨store.insert (keySecret label) seed.val, released⟩ where
  games gameId bytes held := by
    rw [game_after_key] at held
    obtain ⟨record, value, own, format, seed', key⟩ := sound.games gameId bytes held
    refine ⟨record, value, own, format, seed', ?_⟩
    rw [getElem?_write, if_neg]
    · exact key
    · intro same
      rw [← same, absent] at key
      cases key
  binds label' bytes bound := by
    simp only [game_after_key]
    rw [bind_after_key] at bound
    exact sound.binds label' bytes bound
  safe gameId record held := by
    rw [game_after_key] at held
    exact sound.safe gameId record held
  signed entry member := by
    obtain ⟨record, seed', held, bound, key, signature⟩ := sound.signed entry member
    refine ⟨record, seed', (game_after_key ..).trans held, ?_, ?_, signature⟩
    · rwa [bind_after_key]
    · rw [getElem?_write, if_neg]
      · exact key
      · intro same
        rw [← same, absent] at key
        cases key

theorem write_other {name value : Bytes} {kind : String} (named : stem name = utf8 kind)
    (other : kind ≠ "chess/g" ∧ kind ≠ "chess/b" ∧ kind ≠ "chess/k") :
    Sound crypto ⟨store.insert name value, released⟩ := by
  have games : ∀ gameId, (store.insert name value)[gameSecret gameId]? = store[gameSecret gameId]? :=
    fun gameId => getElem?_write_ne named (stem_gameSecret _) other.1
  have binds : ∀ label, (store.insert name value)[bindSecret label]? = store[bindSecret label]? :=
    fun label => getElem?_write_ne named (stem_bindSecret _) other.2.1
  have keys : ∀ label, (store.insert name value)[keySecret label]? = store[keySecret label]? :=
    fun label => getElem?_write_ne named (stem_keySecret _) other.2.2
  constructor
  · simpa only [games, keys] using sound.games
  · simpa only [games, binds] using sound.binds
  · simpa only [games] using sound.safe
  · simpa only [games, binds, keys] using sound.signed

theorem writable_of_held (held : store[gameSecret gameId]? = some old.encode) (labels : record.label = old.label)
    (params : record.params = old.params) (format : record.format = old.format)
    (admits : Admits (mark old) (mark record)) :
    record.gameId crypto = gameId ∧ Writable crypto store record := by
  obtain ⟨other, same, own, current, seeded⟩ := sound.games gameId _ held
  obtain rfl := GameRecord.encode_injective same
  have game : record.gameId crypto = gameId := by rw [GameRecord.gameId, params]; exact own
  refine ⟨game, format.trans current, labels ▸ seeded, fun other held' => ?_⟩
  rw [game, held] at held'
  obtain rfl := GameRecord.encode_injective (Option.some.inj held')
  exact ⟨labels.symm, .inr ⟨params.symm, admits⟩⟩

theorem release {rec : Record} (held : store[gameSecret gameId]? = some record.encode)
    (bound : store[bindSecret record.label]? ≠ none) (key : store[keySecret record.label]? = some seed.val)
    (signature : rec = Record.sign crypto seed record.params rec.body)
    (log : Safe (mark record) (moveLog crypto gameId (released ++ [(gameId, rec)]))) :
    Sound crypto ⟨store, released ++ [(gameId, rec)]⟩ where
  games := sound.games
  binds := sound.binds
  safe gameId' other held' := by
    by_cases same : gameId = gameId'
    · subst same
      obtain rfl := GameRecord.encode_injective (Option.some.inj (held.symm.trans held'))
      exact log
    · rw [moveLog_append_other fun same' => absurd same' same]
      exact sound.safe gameId' other held'
  signed entry member := by
    rcases List.mem_append.1 member with early | new
    · exact sound.signed entry early
    · rw [List.mem_singleton.1 new]
      exact ⟨record, seed, held, bound, key, signature⟩

section Reads
variable (reads : secrets.RoundTrips)
include reads

theorem loadGame_eq_some :
    loadGame secrets store gameId = some record ↔ store[gameSecret gameId]? = some record.encode := by
  unfold loadGame
  constructor
  · intro loaded
    cases held : store[gameSecret gameId]? with
    | none => simp [held] at loaded
    | some bytes =>
      obtain ⟨other, rfl, -, format, -⟩ := sound.games gameId bytes held
      rw [held, Option.bind_some, reads.gameRecord, Option.bind_some, migrateRecord_of_format format] at loaded
      rw [Option.some.inj loaded]
  · intro held
    obtain ⟨other, same, -, format, -⟩ := sound.games gameId _ held
    obtain rfl := GameRecord.encode_injective same
    rw [held, Option.bind_some, reads.gameRecord, Option.bind_some, migrateRecord_of_format format]

theorem boundGame_eq_none (unbound : boundGame secrets store label = none) :
    store[bindSecret label]? = none := by
  cases bound : store[bindSecret label]? with
  | none => rfl
  | some bytes =>
    obtain ⟨gameId, record, rfl, held, -⟩ := sound.binds label bytes bound
    have loaded := (sound.loadGame_eq_some reads).2 held
    simp [boundGame, loadBoundGameId, bound, toBytes32_val, loaded] at unbound

theorem boundGame_iff : boundGame secrets store label = some record ↔
    store[bindSecret label]? = some (record.gameId crypto).val ∧
      store[gameSecret (record.gameId crypto)]? = some record.encode := by
  unfold boundGame loadBoundGameId
  constructor
  · intro bound
    cases index : store[bindSecret label]? with
    | none => simp [index] at bound
    | some bytes =>
      obtain ⟨gameId, other, rfl, -⟩ := sound.binds label bytes index
      rw [index, Option.bind_some, toBytes32_val, Option.bind_some, sound.loadGame_eq_some reads] at bound
      obtain ⟨held, same, rfl, -⟩ := sound.games gameId _ bound
      obtain rfl := GameRecord.encode_injective same
      exact ⟨rfl, bound⟩
  · intro both
    rw [both.1, Option.bind_some, toBytes32_val, Option.bind_some]
    exact (sound.loadGame_eq_some reads).2 both.2

theorem boundGame_eq_some (bound : boundGame secrets store label = some record) :
    ∃ gameId, store[gameSecret gameId]? = some record.encode ∧ record.label = label := by
  obtain ⟨index, held⟩ := (sound.boundGame_iff reads).1 bound
  obtain ⟨gameId, other, same, held', named⟩ := sound.binds label _ index
  obtain rfl := FixedBytes.val_injective same
  obtain rfl := GameRecord.encode_injective (Option.some.inj (held.symm.trans held'))
  exact ⟨_, held, named⟩

end Reads

end Sound

theorem decideSign_eq_sign {body : Body} {updated : GameRecord}
    (granted : decideSign crypto record body origin = .sign updated) :
    updated.label = record.label ∧ updated.params = record.params ∧ updated.format = record.format ∧
      Admits (mark record) (mark updated) ∧
      ∀ ply parent uci, body = .move ply parent uci → mark updated = ⟨ply, bodyHash crypto body⟩ := by
  obtain ⟨-, ⟨rfl, again⟩ | ⟨ply, parent, uci, rfl, -, -, above, rfl⟩⟩ := decideSign_cases granted
  · refine ⟨rfl, rfl, rfl, .inr rfl, fun ply parent uci is => ?_⟩
    obtain ⟨-, -, plies, hash⟩ := again ply parent uci is
    rw [mark, plies, hash]
  · refine ⟨rfl, rfl, rfl, .inl above, fun ply' parent' uci' is => ?_⟩
    obtain ⟨rfl, -⟩ := Body.move.inj is
    rfl

theorem safe_of_granted {body : Body} {updated : GameRecord}
    (granted : decideSign crypto record body origin = .sign updated)
    (before : Safe (mark record) (moveLog crypto gameId released)) :
    Safe (mark updated) (moveLog crypto gameId
      (released ++ [(gameId, Record.sign crypto seed record.params body)])) := by
  obtain ⟨-, -, -, admits, moves⟩ := decideSign_eq_sign granted
  cases is : body with
  | move ply parent uci =>
    have marks := moves ply parent uci is
    rw [moveLog_append_move rfl, ← is]
    have after := before.release admits
    rwa [marks] at after ⊢
  | resign | drawOffer _ _ | drawAccept _ _ | drawClaim _ _ =>
    rw [moveLog_append_other (by simp [Record.sign])]
    exact before.of_admits admits

section Steps
variable (sound : Sound crypto ⟨store, released⟩)
include sound

theorem sound_storeKey (absent : store[keySecret label]? = none) (seed : Bytes32) (quality : EntropyQuality) :
    Sound crypto ⟨(storeKey host store origin label seed quality).store, released⟩ := by
  have keyed : Sound crypto ⟨store.insert (keySecret label) seed.val, released⟩ :=
    sound.write_key absent seed
  have graded : Sound crypto ⟨(store.insert (keySecret label) seed.val).insert (qualitySecret label)
      quality.encode, released⟩ :=
    keyed.write_other (stem_qualitySecret label) (by decide)
  unfold storeKey
  cases origin with
  | none =>
    simp only [Writes.start, Writes.set]
    cases host.writes 0 <;> cases host.writes 1 <;> simp_all
  | some originId =>
    have owned : Sound crypto ⟨((store.insert (keySecret label) seed.val).insert (qualitySecret label)
        quality.encode).insert (ownerSecret label) originId.val, released⟩ :=
      graded.write_other (stem_ownerSecret label) (by decide)
    simp only [Writes.start, Writes.set]
    cases host.writes 0 <;> cases host.writes 1 <;> cases host.writes 2 <;> simp_all

variable (reads : secrets.RoundTrips)
include reads

/-- A fresh record is written only where nothing is bound to the label, and over no
record of another label. Every other record continues the one that is held. -/
theorem Sound.writable_of_grant (grant : Grant crypto secrets store origin record) :
    Writable crypto store record := by
  cases grant with
  | again label old bound own =>
    obtain ⟨gameId, held, -⟩ := sound.boundGame_eq_some reads bound
    exact (sound.writable_of_held held rfl rfl rfl (.inr rfl)).2
  | fresh label params contract seed color unread seeded owned ours player =>
    refine ⟨rfl, ⟨seed, loadSeed_eq_some seeded⟩, fun old held => ?_⟩
    exact ⟨ours old ((sound.loadGame_eq_some reads).2 held), .inl (sound.boundGame_eq_none reads unread)⟩
  | rebound label contract old bound own =>
    obtain ⟨gameId, held, -⟩ := sound.boundGame_eq_some reads bound
    exact (sound.writable_of_held held (by rfl) (by rfl) (by rfl) (.inr (by rfl))).2
  | signed gameId body old updated loaded granted =>
    obtain ⟨labels, params, format, admits, -⟩ := decideSign_eq_sign granted
    exact (sound.writable_of_held ((sound.loadGame_eq_some reads).1 loaded) labels params format admits).2

theorem sound_handle (request : Request) :
    Sound crypto ⟨(handle rules crypto reader secrets host store origin request).1, released⟩ := by
  rcases handle_store rules crypto reader secrets host store origin request with
    same | ⟨label, caller, seed, quality, -, absent, -, made⟩ | ⟨record, grant, written⟩
  · rwa [same]
  · rw [made]
    exact sound_storeKey sound absent seed quality
  · rw [written]
    exact sound.write (sound.writable_of_grant reads grant)

/-- Persist first, then release: the record on disk is ahead of every signature. -/
theorem sound_sign (gameId : GameId) (body : Body) :
    Sound crypto ⟨(handleSign rules crypto reader secrets host store origin gameId body).1, released ++
      answered (.sign gameId body) (handleSign rules crypto reader secrets host store origin gameId body).2⟩ := by
  rcases handleSign_cases rules crypto reader secrets host store origin gameId body with
    ⟨refusal, refused⟩ | ⟨record, seed, updated, loaded, seeded, granted, signed⟩
  · simpa [refused, answered] using sound
  obtain ⟨labels, params, format, admits, -⟩ := decideSign_eq_sign granted
  have held := (sound.loadGame_eq_some reads).1 loaded
  obtain ⟨game, writable⟩ := sound.writable_of_held held labels params format admits
  rw [signed]
  simp only [afterWrites]
  split_ifs with stored
  · rw [storeGame_store stored]
    have written := (sound.write_game writable).write_bind (by rw [getElem?_write, if_pos rfl])
    have log : Safe (mark updated) (moveLog crypto gameId
        (released ++ [(gameId, Record.sign crypto seed record.params body)])) :=
      safe_of_granted granted (sound.safe gameId record held)
    have key : ((store.insert (gameSecret (updated.gameId crypto)) updated.encode).insert
        (bindSecret updated.label) (updated.gameId crypto).val)[keySecret updated.label]? =
          some seed.val := by
      rw [key_after_bind, key_after_game, labels]
      exact loadSeed_eq_some seeded
    refine written.release ?_ ?_ key ?_ log
    · rw [game_after_bind, getElem?_write, if_pos (congrArg gameSecret game)]
    · rw [getElem?_write, if_pos rfl]
      simp
    · rw [params]
      rfl
  · have kept : Sound crypto ⟨(storeGame crypto host store updated).store, released⟩ := sound.write writable
    simpa [answered] using kept

end Steps

theorem sound_step (reads : secrets.RoundTrips) {session : Session} (sound : Sound crypto session)
    (call : Call) : Sound crypto (step rules crypto reader secrets session call) := by
  obtain ⟨store, released⟩ := session
  obtain ⟨host, origin, request⟩ := call
  cases request with
  | sign gameId body => exact sound_sign sound reads gameId body
  | _ => simpa [step, answered] using sound_handle sound reads _

theorem sound_serve (reads : secrets.RoundTrips) (calls : List Call) :
    Sound crypto (serve rules crypto reader secrets calls) := by
  have kept : ∀ (calls : List Call) (session : Session), Sound crypto session →
      Sound crypto (calls.foldl (step rules crypto reader secrets) session) := by
    intro calls
    induction calls with
    | nil => exact fun _ sound => sound
    | cons call rest ih => exact fun session sound => ih _ (sound_step reads sound call)
  exact kept calls _ sound_start

theorem requested_of_released (calls : List Call) :
    ∀ entry ∈ (serve rules crypto reader secrets calls).released,
      ∃ call ∈ calls, call.request = .sign entry.1 entry.2.body := by
  induction calls using List.reverseRecOn with
  | nil => simp [serve]
  | append_singleton calls call ih =>
    intro entry member
    rw [serve, List.foldl_append] at member
    rcases List.mem_append.1 member with early | new
    · obtain ⟨earlier, known, request⟩ := ih entry early
      exact ⟨earlier, List.mem_append_left _ known, request⟩
    · refine ⟨call, List.mem_append_right _ (List.mem_singleton_self _), ?_⟩
      obtain ⟨host, origin, request⟩ := call
      cases request with
      | sign gameId body =>
        let earlier := serve rules crypto reader secrets calls
        change entry ∈ answered (.sign gameId body)
          (handleSign rules crypto reader secrets host earlier.store origin gameId body).2 at new
        cases response : (handleSign rules crypto reader secrets host earlier.store origin gameId body).2 with
        | signed rec =>
          rw [response, answered, List.mem_singleton] at new
          obtain ⟨old, seed, updated, -, -, -, rfl⟩ := handleSign_signed response
          rw [new]
          rfl
        | _ => simp [response, answered] at new
      | _ => simp [answered] at new

section Session
variable {session : Session} (sound : Sound crypto session)
  (free : crypto.CollisionFree (bodyHashInput '' {body | ∃ entry ∈ session.released, entry.2.body = body}))
include sound free

theorem eq_of_released {rec rec' : Record} {ply : U16} {parent parent' : RecordId} {uci uci' : String}
    (member : (gameId, rec) ∈ session.released) (member' : (gameId, rec') ∈ session.released)
    (is : rec.body = .move ply parent uci) (is' : rec'.body = .move ply parent' uci') : rec = rec' := by
  obtain ⟨record, seed, held, -, key, signature⟩ := sound.signed _ member
  obtain ⟨record', seed', held', -, key', signature'⟩ := sound.signed _ member'
  obtain rfl := GameRecord.encode_injective (Option.some.inj (held.symm.trans held'))
  obtain rfl := FixedBytes.val_injective (Option.some.inj (key.symm.trans key'))
  have logged : ∀ rec ply parent uci, (gameId, rec) ∈ session.released → rec.body = .move ply parent uci →
      (ply, bodyHash crypto rec.body) ∈ moveLog crypto gameId session.released := by
    intro rec ply parent uci member is
    exact List.mem_filterMap.2 ⟨(gameId, rec), member, by simp [is]⟩
  have hashes := (sound.safe gameId record held).agree _ (logged rec ply parent uci member is) _
    (logged rec' ply parent' uci' member' is') rfl
  have bodies := bodyHashInput_injective
    (free ⟨_, ⟨_, member, rfl⟩, rfl⟩ ⟨_, ⟨_, member', rfl⟩, rfl⟩ hashes)
  calc rec = Record.sign crypto seed record.params rec.body := signature
    _ = Record.sign crypto seed record.params rec'.body := congrArg _ bodies
    _ = rec' := signature'.symm

theorem not_doubled_of_released {params : GameParams} {key : KeyBytes} {color : Color} {state : GameState}
    (owner : params.colorOf key = some color)
    (holds : state.Holds crypto fun rec => rec.signer = key → (params.gameId crypto, rec) ∈ session.released)
    (ply : U16) : ¬state.Doubled params color ply := by
  rintro ⟨signer, id, id', convicted, differs, own, own'⟩
  have same : signer = key :=
    (GameParams.keyOf_of_colorOf convicted).symm.trans (GameParams.keyOf_of_colorOf owner)
  subst same
  have found : ∀ {id}, state.groupAt id = some ⟨signer, .move, ply⟩ → ∃ rec parent uci,
      rec.id crypto = id ∧ (params.gameId crypto, rec) ∈ session.released ∧
        rec.body = .move ply parent uci := by
    intro id own
    cases held : state.records[id]? with
    | none => simp [GameState.groupAt, held] at own
    | some rec =>
      rw [GameState.groupAt_of_get held] at own
      obtain ⟨parent, uci, is, signs⟩ := GameState.groupOf_eq_move.1 own
      obtain ⟨named, released⟩ := holds id rec held
      exact ⟨rec, parent, uci, named, released signs, is⟩
  obtain ⟨rec, parent, uci, rfl, member, is⟩ := found own
  obtain ⟨rec', parent', uci', rfl, member', is'⟩ := found own'
  exact differs (congrArg _ (eq_of_released sound free member member' is is'))

end Session

theorem winner_of_not_doubled {params : GameParams} {color : Color} {state : GameState}
    (honest : ∀ ply, ¬state.Doubled params color ply) (winner : Option Color)
    (forfeited : (state.project rules crypto params).decision = some ⟨winner, .doubleSignForfeit⟩) :
    winner = some color := by
  cases found : state.doubleSigned params with
  | none => exact absurd forfeited (GameState.decision_ne_forfeit found winner)
  | some fraud =>
    rw [Forfeit.project_decision found, Option.some.injEq, Decision.mk.injEq] at forfeited
    have proven := GameState.proven_of_doubleSigned found
    obtain ⟨guilty, doubled⟩ := proven.first
    rw [← forfeited.1, proven.winner]
    refine ⟨⟨fraud.firstPly, ?_⟩, honest⟩
    have other : guilty = color.other := by
      refine (guilty.eq_or_other color).resolve_left ?_
      rintro rfl
      exact honest _ doubled
    rwa [← other]

/-- A signature made for one game does not verify for another. -/
def Separates (crypto : Crypto) : Prop :=
  ∀ seed gameId gameId' body, crypto.verifies (crypto.verifyingKey seed) (signingPayload gameId' body)
    (crypto.sign seed (signingPayload gameId body)).val = true → gameId = gameId'

/-- Over every sequence of requests to a delegate that starts with an empty store, two
moves of one ply released for one game are the same record. So a state into which only
released records of a key have come, whatever the other player adds, never forfeits
against that key; and where signatures are bound to their game, it does not matter for
which game the delegate released them. -/
theorem never_double_signs (rules : Rules) (crypto : Crypto) (reader : Reader) (secrets : SecretReader)
    (calls : List Call) (reads : secrets.RoundTrips)
    (free : crypto.CollisionFree
      (bodyHashInput '' {body | ∃ call ∈ calls, ∃ gameId, call.request = .sign gameId body})) :
    (∀ gameId rec rec' ply parent parent' uci uci',
      (gameId, rec) ∈ (serve rules crypto reader secrets calls).released →
      (gameId, rec') ∈ (serve rules crypto reader secrets calls).released →
      rec.body = .move ply parent uci → rec'.body = .move ply parent' uci' → rec = rec') ∧
    (∀ (params : GameParams) (key : KeyBytes) (color : Color) (start : GameState) (ops : List Op),
      params.colorOf key = some color → start.Keyed crypto →
      (∀ rec ∈ offered start ops, rec.signer = key →
        (params.gameId crypto, rec) ∈ (serve rules crypto reader secrets calls).released) →
      ∀ winner, ((run crypto params start ops).project rules crypto params).decision =
        some ⟨winner, .doubleSignForfeit⟩ → winner = some color) ∧
    (Separates crypto →
      ∀ (params : GameParams) (key : KeyBytes) (color : Color) (start : GameState) (ops : List Op),
      params.colorOf key = some color → start.Keyed crypto → start.allValid crypto params = true →
      (∀ rec ∈ offered start ops, rec.signer = key →
        ∃ gameId, (gameId, rec) ∈ (serve rules crypto reader secrets calls).released) →
      ∀ winner, ((run crypto params start ops).project rules crypto params).decision =
        some ⟨winner, .doubleSignForfeit⟩ → winner = some color) := by
  have sound : Sound crypto (serve rules crypto reader secrets calls) := sound_serve reads calls
  have free : crypto.CollisionFree (bodyHashInput ''
      {body | ∃ entry ∈ (serve rules crypto reader secrets calls).released, entry.2.body = body}) := by
    refine free.mono (Set.image_mono ?_)
    rintro body ⟨entry, member, rfl⟩
    obtain ⟨call, known, request⟩ := requested_of_released calls entry member
    exact ⟨call, known, entry.1, request⟩
  refine ⟨?_, ?_, ?_⟩
  · intro gameId rec rec' ply parent parent' uci uci' member member' is is'
    exact eq_of_released sound free member member' is is'
  · intro params key color start ops owner keyed released
    refine winner_of_not_doubled (not_doubled_of_released sound free owner ?_)
    refine GameState.Holds.run (fun id rec held => ⟨keyed id rec held, ?_⟩) fun rec member _ => ?_
    · exact released rec (List.mem_append_left _ (mem_valuesOf.2 ⟨id, held⟩))
    · exact released rec (List.mem_append_right _ member)
  · intro separates params key color start ops owner keyed valid released
    refine winner_of_not_doubled (not_doubled_of_released sound free owner ?_)
    have bound : ∀ rec ∈ offered start ops, rec.verify crypto params = true → rec.signer = key →
        (params.gameId crypto, rec) ∈ (serve rules crypto reader secrets calls).released := by
      intro rec member verified signs
      obtain ⟨gameId, entry⟩ := released rec member signs
      obtain ⟨record, seed, held, -, -, signature⟩ := sound.signed _ entry
      obtain ⟨other, same, own, -⟩ := sound.games _ _ held
      obtain rfl := GameRecord.encode_injective same
      obtain ⟨-, -, -, checked⟩ := (Record.verify_iff _ _ _).1 verified
      have signature : rec = Record.sign crypto seed record.params rec.body := signature
      rw [congrArg Record.signer signature, congrArg Record.sig signature] at checked
      have games := separates seed (record.gameId crypto) _ rec.body checked
      rwa [← games, own]
    refine GameState.Holds.run (fun id rec held => ⟨keyed id rec held, ?_⟩) fun rec member verified => ?_
    · exact bound rec (List.mem_append_left _ (mem_valuesOf.2 ⟨id, held⟩))
        (GameState.allValid_iff.1 valid id rec held)
    · exact bound rec (List.mem_append_right _ member) verified

theorem sample_separates : Separates Sample.crypto := fun _ _ _ _ checks =>
  Sample.eq_of_verifies (Sample.crypto_signs _ _) checks

def sampleHost : Host := ⟨(zeros, zeros), fun _ => none, fun _ => true⟩

def samplePlayer : Bytes32 :=
  match deriveSeed Sample.crypto .dead (some Sample.whiteKey) "white" with
  | .ok (seed, _) => seed
  | .error _ => zeros

def sampleAccepter : Bytes32 :=
  match deriveSeed Sample.crypto .dead (some Sample.whiteKey) "black" with
  | .ok (seed, _) => seed
  | .error _ => zeros

theorem samplePlayer_derived : deriveSeed Sample.crypto (classifyHostEntropy zeros zeros) (some Sample.whiteKey)
    "white" = .ok (samplePlayer, .degraded) := by decide +kernel

theorem sampleAccepter_derived : deriveSeed Sample.crypto (classifyHostEntropy zeros zeros) (some Sample.whiteKey)
    "black" = .ok (sampleAccepter, .degraded) := by decide +kernel

def sampleParams : GameParams := { Sample.params with white := samplePlayer }

def sampleOpening (uci : String) : Body := .move 1 (sampleParams.genesis Sample.crypto) uci

def sampleCalls : List Call :=
  [⟨sampleHost, none, .createGameKey "white" (some Sample.whiteKey)⟩,
    ⟨sampleHost, none, .bindGame "white" sampleParams zeros⟩,
    ⟨sampleHost, none, .sign (sampleParams.gameId Sample.crypto) (sampleOpening "e2e4")⟩,
    ⟨sampleHost, none, .sign (sampleParams.gameId Sample.crypto) (sampleOpening "d2d4")⟩]

theorem sampleCalls_free : Sample.crypto.CollisionFree
    (bodyHashInput '' {body | ∃ call ∈ sampleCalls, ∃ gameId, call.request = .sign gameId body}) := by
  refine Sample.collisionFree_of_list _ (["e2e4", "d2d4"].map fun uci => bodyHashInput (sampleOpening uci))
    ?_ (by decide +kernel)
  rintro input ⟨body, ⟨call, member, gameId, request⟩, rfl⟩
  simp only [sampleCalls, List.mem_cons, List.not_mem_nil, or_false] at member
  rcases member with rfl | rfl | rfl | rfl
  · cases request
  · cases request
  · obtain ⟨-, rfl⟩ := Request.sign.inj request
    exact List.mem_cons_self
  · obtain ⟨-, rfl⟩ := Request.sign.inj request
    exact List.mem_cons_of_mem _ List.mem_cons_self

def sampleRecord : GameRecord :=
  ⟨GAME_RECORD_FORMAT, "white", sampleParams, .white, none, zeros, none, .degraded, 0, zeros⟩

def sampleKeyed : Store :=
  ((∅ : Store).insert (keySecret "white") samplePlayer.val).insert (qualitySecret "white")
    EntropyQuality.degraded.encode

def sampleBound : Store :=
  (sampleKeyed.insert (gameSecret (sampleRecord.gameId Sample.crypto)) sampleRecord.encode).insert
    (bindSecret "white") (sampleRecord.gameId Sample.crypto).val

theorem sampleKeyed_create :
    (handleCreateGameKey Sample.crypto sampleHost ∅ none "white" (some Sample.whiteKey)).1 = sampleKeyed := by
  simp [handleCreateGameKey, sampleHost, samplePlayer_derived, afterWrites, Writes.start, Writes.set, sampleKeyed]

theorem sampleKeyed_bind :
    (handleBindGame Sample.crypto SecretReader.exact sampleHost sampleKeyed none "white" sampleParams zeros).1 =
      sampleBound := by
  have seeded : loadSeed sampleKeyed "white" = some samplePlayer := by decide +kernel
  have unowned : loadOwner sampleKeyed "white" = none := by decide +kernel
  have unbound : loadBoundGameId sampleKeyed "white" = none := by decide +kernel
  have unused : sampleKeyed[gameSecret (sampleParams.gameId Sample.crypto)]? = none := by decide +kernel
  have graded : loadQuality SecretReader.exact sampleKeyed "white" = some .degraded := by
    have held : sampleKeyed[qualitySecret "white"]? = some EntropyQuality.degraded.encode := by decide +kernel
    rw [loadQuality, held, Option.bind_some, SecretReader.exact_roundTrips.entropyQuality]
  have decided : decideBind Sample.crypto none "white" samplePlayer sampleParams zeros .degraded none =
      .bind sampleRecord := by decide +kernel
  have ours : Sample.crypto.verifyingKey samplePlayer = samplePlayer := rfl
  simp [handleBindGame, seeded, unowned, boundGame, unbound, loadGame, unused, graded, ours, decided,
    sampleHost, storeGame, afterWrites, Writes.start, Writes.set, sampleBound]
  rfl

theorem sampleBound_loaded : loadGame SecretReader.exact sampleBound (sampleParams.gameId Sample.crypto) =
    some sampleRecord := by
  have held : sampleBound[gameSecret (sampleParams.gameId Sample.crypto)]? = some sampleRecord.encode := by
    rw [sampleBound, game_after_bind, getElem?_write, if_pos (by rfl)]
  rw [loadGame, held, Option.bind_some, SecretReader.exact_roundTrips.gameRecord]
  rfl

theorem sampleBound_sign :
    (handleSign Sample.rules Sample.crypto Reader.exact SecretReader.exact sampleHost sampleBound none
      (sampleParams.gameId Sample.crypto) (sampleOpening "e2e4")).2 =
        .signed (Record.sign Sample.crypto samplePlayer sampleParams (sampleOpening "e2e4")) := by
  have seeded : loadSeed sampleBound "white" = some samplePlayer := by
    rw [loadSeed, sampleBound, key_after_bind, key_after_game]
    decide +kernel
  have granted : decideSign Sample.crypto sampleRecord (sampleOpening "e2e4") none =
      .sign { sampleRecord with
        lastSignedPly := 1, lastMoveBodyHash := bodyHash Sample.crypto (sampleOpening "e2e4") } := by
    decide +kernel
  have label : sampleRecord.label = "white" := rfl
  simp [handleSign, sampleBound_loaded, label, seeded, granted, sampleHost, storeGame, afterWrites, Writes.start,
    Writes.set]
  rfl

theorem sampleCalls_released :
    (sampleParams.gameId Sample.crypto,
      Record.sign Sample.crypto samplePlayer sampleParams (sampleOpening "e2e4")) ∈
        (serve Sample.rules Sample.crypto Reader.exact SecretReader.exact sampleCalls).released := by
  simp [serve, sampleCalls, step, handle, sampleKeyed_create, sampleKeyed_bind, sampleBound_sign, answered]

/-- The first opening leaves the delegate, and the second does not. -/
theorem never_double_signs_openings :
    (sampleParams.gameId Sample.crypto,
      Record.sign Sample.crypto samplePlayer sampleParams (sampleOpening "e2e4")) ∈
        (serve Sample.rules Sample.crypto Reader.exact SecretReader.exact sampleCalls).released ∧
    (sampleParams.gameId Sample.crypto,
      Record.sign Sample.crypto samplePlayer sampleParams (sampleOpening "d2d4")) ∉
        (serve Sample.rules Sample.crypto Reader.exact SecretReader.exact sampleCalls).released := by
  refine ⟨sampleCalls_released, fun second => ?_⟩
  have same := (never_double_signs Sample.rules Sample.crypto Reader.exact SecretReader.exact sampleCalls
    SecretReader.exact_roundTrips sampleCalls_free).1 _ _ _ 1 _ _ _ _ sampleCalls_released second rfl rfl
  have differ : sampleOpening "e2e4" ≠ sampleOpening "d2d4" := by decide +kernel
  exact differ (congrArg Record.body same)

end Adjourn.Signing
