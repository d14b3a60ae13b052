import Adjourn.Delegate

/-! What a request can change. A key request writes the entries of a new label, and every
other request writes at most one game record with its index. -/

namespace Adjourn.Delegate
open Cbor OrderedMap

inductive Grant (crypto : Crypto) (secrets : SecretReader) (store : Store) (origin : Option Bytes32) :
    GameRecord → Prop where
  | again (label : String) (old : GameRecord) (bound : boundGame secrets store label = some old)
      (own : old.origin = origin) : Grant crypto secrets store origin old
  | fresh (label : String) (params : GameParams) (contract seed : Bytes32) (color : Color)
      (unread : boundGame secrets store label = none) (seeded : loadSeed store label = some seed)
      (owned : loadOwner store label = origin)
      (ours : ∀ other, loadGame secrets store (params.gameId crypto) = some other → other.label = label)
      (player : params.colorOf (crypto.verifyingKey seed) = some color) :
      Grant crypto secrets store origin
        ⟨GAME_RECORD_FORMAT, label, params, .ofColor color, origin, contract, none,
          (loadQuality secrets store label).getD .degraded, 0, zeros⟩
  | rebound (label : String) (contract : Bytes32) (old : GameRecord)
      (bound : boundGame secrets store label = some old) (own : old.origin = origin) :
      Grant crypto secrets store origin { old with
        contract := contract
        previous := if old.contract = contract then old.previous else some old.contract }
  | signed (gameId : GameId) (body : Body) (old updated : GameRecord)
      (loaded : loadGame secrets store gameId = some old)
      (granted : decideSign crypto old body origin = .sign updated) :
      Grant crypto secrets store origin updated

def storeKey (host : Host) (store : Store) (origin : Option Bytes32) (label : String) (seed : Bytes32)
    (quality : EntropyQuality) : Writes :=
  let keyed := ((Writes.start store).set (host.writes 0) (keySecret label) seed.val).set
    (host.writes 1) (qualitySecret label) quality.encode
  match origin with
  | none => keyed
  | some originId => keyed.set (host.writes 2) (ownerSecret label) originId.val

variable {rules : Rules} {crypto : Crypto} {reader : Reader} {secrets : SecretReader} {host : Host}
  {store : Store} {origin : Option Bytes32} {label : String} {seed : Bytes32} {quality : EntropyQuality}
  {record : GameRecord} {gameId : GameId} {body : Body} {request : Request} {label' : String} {name : Bytes}

theorem afterWrites_fst (writes : Writes) (response : Response) :
    (afterWrites writes response).1 = writes.store := by
  unfold afterWrites
  split_ifs <;> rfl

theorem afterWrites_snd {writes : Writes} {response answer : Response}
    (answered : (afterWrites writes response).2 = answer) (fine : answer ≠ .refused .storeFailed) :
    writes.ok = true ∧ response = answer := by
  unfold afterWrites at answered
  split_ifs at answered with ok
  · exact ⟨ok, answered⟩
  · exact absurd answered.symm fine

theorem loadSeed_eq_some (loaded : loadSeed store label = some seed) :
    store[keySecret label]? = some seed.val := by
  obtain ⟨bytes, key, sized⟩ := Option.bind_eq_some_iff.1 loaded
  unfold toBytes32 at sized
  split_ifs at sized
  obtain rfl := Option.some.inj sized
  exact key

section Writes
variable (host : Host) (store : Store) (record : GameRecord)

theorem storeGame_other (crypto : Crypto) (game : name ≠ gameSecret (record.gameId crypto))
    (bind : name ≠ bindSecret record.label) : (storeGame crypto host store record).store[name]? = store[name]? := by
  unfold storeGame Writes.start Writes.set
  cases host.writes 0 <;> cases host.writes 1 <;> simp [getElem?_write, game.symm, bind.symm]

theorem storeGame_game (crypto : Crypto) :
    (storeGame crypto host store record).store[gameSecret (record.gameId crypto)]? =
      if host.writes 0 then some record.encode else store[gameSecret (record.gameId crypto)]? := by
  unfold storeGame Writes.start Writes.set
  cases host.writes 0 with
  | false => simp
  | true =>
    cases host.writes 1 with
    | false => simp
    | true =>
      simp only [Bool.and_self, if_true]
      rw [game_after_bind, getElem?_write, if_pos rfl]

theorem storeGame_bind (crypto : Crypto) :
    (storeGame crypto host store record).store[bindSecret record.label]? =
      if host.writes 0 && host.writes 1 then some (record.gameId crypto).val
      else store[bindSecret record.label]? := by
  unfold storeGame Writes.start Writes.set
  cases host.writes 0 with
  | false => simp
  | true =>
    cases host.writes 1 with
    | false =>
      simp only [Bool.and_true, Bool.and_false, if_true, Bool.false_eq_true, if_false]
      exact bind_after_game ..
    | true => simp

theorem storeGame_ok (crypto : Crypto) :
    (storeGame crypto host store record).ok = (host.writes 0 && host.writes 1) := by
  unfold storeGame Writes.start Writes.set
  cases host.writes 0 <;> cases host.writes 1 <;> rfl

theorem storeKey_key (origin : Option Bytes32) (label : String) (seed : Bytes32) (quality : EntropyQuality) :
    (storeKey host store origin label seed quality).store[keySecret label]? =
      if host.writes 0 then some seed.val else store[keySecret label]? := by
  have written : (store.insert (keySecret label) seed.val)[keySecret label]? = some seed.val := by
    rw [getElem?_write, if_pos rfl]
  unfold storeKey Writes.start Writes.set
  cases host.writes 0 with
  | false => cases origin <;> simp
  | true =>
    cases origin with
    | none =>
      cases host.writes 1
      · exact written
      · exact (key_after_quality ..).trans written
    | some originId =>
      cases host.writes 1
      · exact written
      · cases host.writes 2
        · exact (key_after_quality ..).trans written
        · exact ((key_after_owner ..).trans (key_after_quality ..)).trans written

theorem storeKey_failed (origin : Option Bytes32) (label : String) (seed : Bytes32) (quality : EntropyQuality)
    (failed : host.writes 0 = false) : (storeKey host store origin label seed quality).store = store := by
  unfold storeKey Writes.start Writes.set
  cases origin <;> simp [failed]

theorem storeKey_done {origin : Option Bytes32} {label : String} {seed : Bytes32} {quality : EntropyQuality}
    (unowned : store[ownerSecret label]? = none)
    (done : (storeKey host store origin label seed quality).ok = true) :
    (storeKey host store origin label seed quality).store[keySecret label]? = some seed.val ∧
      loadOwner (storeKey host store origin label seed quality).store label = origin := by
  have first : host.writes 0 = true := by
    by_contra failed
    unfold storeKey Writes.start Writes.set at done
    cases origin <;> simp [failed] at done
  refine ⟨by rw [storeKey_key, if_pos first], ?_⟩
  unfold storeKey Writes.start Writes.set at done ⊢
  cases origin with
  | none => cases second : host.writes 1 <;> simp_all [loadOwner]
  | some originId =>
    cases second : host.writes 1 <;> cases third : host.writes 2 <;>
      simp_all [loadOwner, toBytes32_val]

theorem storeKey_other (origin : Option Bytes32) (label : String) (seed : Bytes32) (quality : EntropyQuality)
    (key : name ≠ keySecret label) (grade : name ≠ qualitySecret label) (owner : name ≠ ownerSecret label) :
    (storeKey host store origin label seed quality).store[name]? = store[name]? := by
  unfold storeKey Writes.start Writes.set
  cases origin <;> cases host.writes 0 <;> cases host.writes 1 <;> cases host.writes 2 <;>
    simp [getElem?_write, key.symm, grade.symm, owner.symm]

@[simp] theorem storeKey_game (origin : Option Bytes32) (label : String) (seed : Bytes32)
    (quality : EntropyQuality) (gameId : GameId) :
    (storeKey host store origin label seed quality).store[gameSecret gameId]? = store[gameSecret gameId]? :=
  storeKey_other _ _ _ _ _ _ (ne_of_stem (stem_gameSecret _) (stem_keySecret _) (by decide))
    (ne_of_stem (stem_gameSecret _) (stem_qualitySecret _) (by decide))
    (ne_of_stem (stem_gameSecret _) (stem_ownerSecret _) (by decide))

@[simp] theorem storeKey_bind (origin : Option Bytes32) (label label' : String) (seed : Bytes32)
    (quality : EntropyQuality) :
    (storeKey host store origin label seed quality).store[bindSecret label']? = store[bindSecret label']? :=
  storeKey_other _ _ _ _ _ _ (ne_of_stem (stem_bindSecret _) (stem_keySecret _) (by decide))
    (ne_of_stem (stem_bindSecret _) (stem_qualitySecret _) (by decide))
    (ne_of_stem (stem_bindSecret _) (stem_ownerSecret _) (by decide))

theorem storeGame_game_ne (crypto : Crypto) {gameId : GameId} (differs : gameId ≠ record.gameId crypto) :
    (storeGame crypto host store record).store[gameSecret gameId]? = store[gameSecret gameId]? :=
  storeGame_other host store record crypto (mt (gameSecret_inj _ _).1 differs)
    (ne_of_stem (stem_gameSecret _) (stem_bindSecret _) (by decide))

theorem storeGame_bind_ne (crypto : Crypto) {label : String} (differs : label ≠ record.label) :
    (storeGame crypto host store record).store[bindSecret label]? = store[bindSecret label]? :=
  storeGame_other host store record crypto
    (ne_of_stem (stem_bindSecret _) (stem_gameSecret _) (by decide)) (mt (bindSecret_inj _ _).1 differs)

end Writes

section Names
variable (own : name = keySecret label ∨ name = ownerSecret label ∨ name = qualitySecret label)
include own

theorem ne_game (gameId : GameId) : name ≠ gameSecret gameId := by
  rcases own with rfl | rfl | rfl
  · exact ne_of_stem (stem_keySecret _) (stem_gameSecret _) (by decide)
  · exact ne_of_stem (stem_ownerSecret _) (stem_gameSecret _) (by decide)
  · exact ne_of_stem (stem_qualitySecret _) (stem_gameSecret _) (by decide)

theorem ne_bind (label' : String) : name ≠ bindSecret label' := by
  rcases own with rfl | rfl | rfl
  · exact ne_of_stem (stem_keySecret _) (stem_bindSecret _) (by decide)
  · exact ne_of_stem (stem_ownerSecret _) (stem_bindSecret _) (by decide)
  · exact ne_of_stem (stem_qualitySecret _) (stem_bindSecret _) (by decide)

theorem ne_of_label (differs : label ≠ label') :
    name ≠ keySecret label' ∧ name ≠ qualitySecret label' ∧ name ≠ ownerSecret label' := by
  rcases own with rfl | rfl | rfl
  · exact ⟨mt (keySecret_inj _ _).1 differs,
      ne_of_stem (stem_keySecret _) (stem_qualitySecret _) (by decide),
      ne_of_stem (stem_keySecret _) (stem_ownerSecret _) (by decide)⟩
  · exact ⟨ne_of_stem (stem_ownerSecret _) (stem_keySecret _) (by decide),
      ne_of_stem (stem_ownerSecret _) (stem_qualitySecret _) (by decide),
      mt (ownerSecret_inj _ _).1 differs⟩
  · exact ⟨ne_of_stem (stem_qualitySecret _) (stem_keySecret _) (by decide),
      mt (qualitySecret_inj _ _).1 differs,
      ne_of_stem (stem_qualitySecret _) (stem_ownerSecret _) (by decide)⟩

theorem storeGame_kept (host : Host) (store : Store) (record : GameRecord) :
    (storeGame crypto host store record).store[name]? = store[name]? :=
  storeGame_other host store record crypto (ne_game own _) (ne_bind own _)

theorem storeKey_kept (host : Host) (store : Store) (origin : Option Bytes32) (seed : Bytes32)
    (quality : EntropyQuality) (differs : label ≠ label') :
    (storeKey host store origin label' seed quality).store[name]? = store[name]? := by
  obtain ⟨key, grade, owner⟩ := ne_of_label own differs
  exact storeKey_other host store origin label' seed quality key grade owner

end Names

/-- A signature is granted to the game's own caller, and the record is left alone, where
no move is signed that it does not name already, or moved up to the ply that is signed. -/
theorem decideSign_cases {old updated : GameRecord}
    (granted : decideSign crypto old body origin = .sign updated) :
    old.origin = origin ∧
      ((updated = old ∧ ∀ ply parent uci, body = .move ply parent uci →
        ply ≤ MAX_PLY ∧ Side.ofColor (colorAtPly ply) = old.side ∧ old.lastSignedPly = ply ∧
          old.lastMoveBodyHash = bodyHash crypto body) ∨
      ∃ ply parent uci, body = .move ply parent uci ∧
        ply ≤ MAX_PLY ∧ Side.ofColor (colorAtPly ply) = old.side ∧ old.lastSignedPly < ply ∧
          updated = { old with lastSignedPly := ply, lastMoveBodyHash := bodyHash crypto body }) := by
  unfold decideSign at granted
  cases body with
  | move ply parent uci =>
    simp only at granted
    split_ifs at granted with stale foreign tooFar side past same retry
    · refine ⟨not_not.1 foreign, .inl ⟨(SignDecision.sign.inj granted).symm, fun ply' parent' uci' is => ?_⟩⟩
      obtain ⟨rfl, -⟩ := Body.move.inj is
      exact ⟨not_lt.1 tooFar, not_not.1 side, same.symm, retry.2.symm⟩
    · have above : old.lastSignedPly < ply := lt_of_le_of_ne (not_lt.1 past) (Ne.symm same)
      exact ⟨not_not.1 foreign, .inr ⟨ply, parent, uci, rfl, not_lt.1 tooFar, not_not.1 side, above,
        (SignDecision.sign.inj granted).symm⟩⟩
  | resign | drawOffer _ _ | drawAccept _ _ | drawClaim _ _ =>
    simp only at granted
    split_ifs at granted with stale foreign
    exact ⟨not_not.1 foreign, .inl ⟨(SignDecision.sign.inj granted).symm, fun _ _ _ is => by cases is⟩⟩

theorem handleCreateGameKey_cases (crypto : Crypto) (host : Host) (store : Store) (origin : Option Bytes32)
    (label : String) (caller : Option Bytes32) :
    (∃ refusal, handleCreateGameKey crypto host store origin label caller = (store, .refused refusal)) ∨
      ∃ seed quality, store[keySecret label]? = none ∧
        deriveSeed crypto (classifyHostEntropy host.draws.1 host.draws.2) caller label = .ok (seed, quality) ∧
        handleCreateGameKey crypto host store origin label caller =
          afterWrites (storeKey host store origin label seed quality)
            (.gameKey label (crypto.verifyingKey seed) quality) := by
  unfold handleCreateGameKey
  split_ifs with exists'
  · exact .inl ⟨_, rfl⟩
  · have absent : store[keySecret label]? = none := by simpa using exists'
    cases derived : deriveSeed crypto (classifyHostEntropy host.draws.1 host.draws.2) caller label with
    | error refusal => exact .inl ⟨_, rfl⟩
    | ok made => exact .inr ⟨made.1, made.2, absent, rfl, by cases origin <;> rfl⟩

theorem handleBindGame_cases (crypto : Crypto) (secrets : SecretReader) (host : Host) (store : Store)
    (origin : Option Bytes32) (label : String) (params : GameParams) (contract : Bytes32) :
    (∃ refusal, handleBindGame crypto secrets host store origin label params contract =
      (store, .refused refusal)) ∨
      ∃ record, Grant crypto secrets store origin record ∧ loadOwner store label = origin ∧
        handleBindGame crypto secrets host store origin label params contract =
          afterWrites (storeGame crypto host store record) (.bound (record.gameId crypto)) := by
  unfold handleBindGame
  cases seeded : loadSeed store label with
  | none => exact .inl ⟨_, rfl⟩
  | some seed =>
    dsimp only
    split_ifs with foreign taken
    · exact .inl ⟨_, rfl⟩
    · exact .inl ⟨_, rfl⟩
    · have owned : loadOwner store label = origin := not_not.1 foreign
      cases bound : boundGame secrets store label with
      | some old =>
        simp only [decideBind]
        split_ifs with stale other another
        · exact .inl ⟨_, rfl⟩
        · exact .inl ⟨_, rfl⟩
        · exact .inl ⟨_, rfl⟩
        · exact .inr ⟨old, .again label old bound (not_not.1 other), owned, rfl⟩
      | none =>
        cases player : params.colorOf (crypto.verifyingKey seed) with
        | none => exact .inl ⟨.keyNotInParams, by simp only [decideBind, player]⟩
        | some color =>
          have ours : ∀ other, loadGame secrets store (params.gameId crypto) = some other →
              other.label = label := by
            intro other loaded
            by_contra differ
            exact taken (by simp [bound, loaded, differ])
          refine .inr ⟨_, .fresh label params contract seed color bound seeded owned ours player, owned, ?_⟩
          simp only [decideBind, player]

theorem handleRebindGame_cases (crypto : Crypto) (secrets : SecretReader) (host : Host) (store : Store)
    (origin : Option Bytes32) (label : String) (contract : Bytes32) :
    (∃ refusal, handleRebindGame crypto secrets host store origin label contract =
      (store, .refused refusal)) ∨
      ∃ record, Grant crypto secrets store origin record ∧ record.label = label ∧
        handleRebindGame crypto secrets host store origin label contract =
          afterWrites (storeGame crypto host store record) (.bound (record.gameId crypto)) := by
  unfold handleRebindGame
  cases bound : boundGame secrets store label with
  | none => exact .inl ⟨_, rfl⟩
  | some old =>
    simp only [decideRebind]
    split_ifs with stale other another same
    · exact .inl ⟨_, rfl⟩
    · exact .inl ⟨_, rfl⟩
    · exact .inl ⟨_, rfl⟩
    · have grant : Grant crypto secrets store origin _ :=
        .rebound label contract old bound (not_not.1 other)
      rw [if_pos same] at grant
      exact .inr ⟨_, grant, not_not.1 another, rfl⟩
    · have grant : Grant crypto secrets store origin _ :=
        .rebound label contract old bound (not_not.1 other)
      rw [if_neg same] at grant
      exact .inr ⟨_, grant, not_not.1 another, rfl⟩

/-- Persisted before the signature is handed out. -/
theorem handleSign_cases (rules : Rules) (crypto : Crypto) (reader : Reader) (secrets : SecretReader)
    (host : Host) (store : Store) (origin : Option Bytes32) (gameId : GameId) (body : Body) :
    (∃ refusal, handleSign rules crypto reader secrets host store origin gameId body =
      (store, .refused refusal)) ∨
      ∃ old seed updated, loadGame secrets store gameId = some old ∧
        loadSeed store old.label = some seed ∧ decideSign crypto old body origin = .sign updated ∧
        handleSign rules crypto reader secrets host store origin gameId body =
          afterWrites (storeGame crypto host store updated)
            (.signed (Record.sign crypto seed old.params body)) := by
  unfold handleSign
  cases loaded : loadGame secrets store gameId with
  | none => exact .inl ⟨_, rfl⟩
  | some old =>
    cases seeded : loadSeed store old.label with
    | none => exact .inl ⟨.unknownLabel, by simp only [seeded]⟩
    | some seed =>
      simp only [seeded]
      split_ifs with illegal
      · exact .inl ⟨_, rfl⟩
      · cases granted : decideSign crypto old body origin with
        | refuse refusal => exact .inl ⟨_, rfl⟩
        | sign updated => exact .inr ⟨old, seed, updated, rfl, seeded, granted, rfl⟩

theorem handleSign_signed {rec : Record}
    (signed : (handleSign rules crypto reader secrets host store origin gameId body).2 = .signed rec) :
    ∃ old seed updated, loadGame secrets store gameId = some old ∧ loadSeed store old.label = some seed ∧
      decideSign crypto old body origin = .sign updated ∧ rec = Record.sign crypto seed old.params body := by
  rcases handleSign_cases rules crypto reader secrets host store origin gameId body with
    ⟨refusal, refused⟩ | ⟨old, seed, updated, loaded, seeded, granted, answer⟩
  · rw [refused] at signed
    cases signed
  · rw [answer] at signed
    obtain ⟨-, same⟩ := afterWrites_snd signed (by simp)
    exact ⟨old, seed, updated, loaded, seeded, granted, (Response.signed.inj same).symm⟩

theorem handleSign_answer (rules : Rules) (crypto : Crypto) (reader : Reader) (secrets : SecretReader)
    (host : Host) (store : Store) (origin : Option Bytes32) (gameId : GameId) (body : Body) :
    (∀ other, (handleSign rules crypto reader secrets host store origin gameId body).2 ≠ .bound other) ∧
      ∀ games, (handleSign rules crypto reader secrets host store origin gameId body).2 ≠ .games games := by
  rcases handleSign_cases rules crypto reader secrets host store origin gameId body with
    ⟨refusal, refused⟩ | ⟨old, seed, updated, -, -, -, signed⟩
  · rw [refused]
    simp
  · rw [signed, afterWrites]
    split_ifs <;> simp

theorem label_of_summary {shown : GameSummary} (listed : summary crypto secrets store origin label = some shown) :
    shown.label = label := by
  unfold summary at listed
  split_ifs at listed
  obtain ⟨seed, -, rfl⟩ := Option.map_eq_some_iff.1 listed
  cases boundGame secrets store label <;> rfl

theorem handle_store (rules : Rules) (crypto : Crypto) (reader : Reader) (secrets : SecretReader)
    (host : Host) (store : Store) (origin : Option Bytes32) (request : Request) :
    (handle rules crypto reader secrets host store origin request).1 = store ∨
      (∃ label caller seed quality, request = .createGameKey label caller ∧ store[keySecret label]? = none ∧
        deriveSeed crypto (classifyHostEntropy host.draws.1 host.draws.2) caller label = .ok (seed, quality) ∧
        (handle rules crypto reader secrets host store origin request).1 =
          (storeKey host store origin label seed quality).store) ∨
      ∃ record, Grant crypto secrets store origin record ∧
        (handle rules crypto reader secrets host store origin request).1 =
          (storeGame crypto host store record).store := by
  cases request with
  | createGameKey label caller =>
    rw [handle]
    rcases handleCreateGameKey_cases crypto host store origin label caller with
      ⟨refusal, refused⟩ | ⟨seed, quality, absent, derived, made⟩
    · exact .inl (by rw [refused])
    · exact .inr (.inl ⟨label, caller, seed, quality, rfl, absent, derived, by rw [made, afterWrites_fst]⟩)
  | bindGame label params contract =>
    rw [handle]
    rcases handleBindGame_cases crypto secrets host store origin label params contract with
      ⟨refusal, refused⟩ | ⟨record, grant, -, bound⟩
    · exact .inl (by rw [refused])
    · exact .inr (.inr ⟨record, grant, by rw [bound, afterWrites_fst]⟩)
  | rebind label contract =>
    rw [handle]
    rcases handleRebindGame_cases crypto secrets host store origin label contract with
      ⟨refusal, refused⟩ | ⟨record, grant, -, bound⟩
    · exact .inl (by rw [refused])
    · exact .inr (.inr ⟨record, grant, by rw [bound, afterWrites_fst]⟩)
  | sign gameId body =>
    rw [handle]
    rcases handleSign_cases rules crypto reader secrets host store origin gameId body with
      ⟨refusal, refused⟩ | ⟨old, seed, updated, loaded, -, granted, signed⟩
    · exact .inl (by rw [refused])
    · exact .inr (.inr ⟨updated, .signed gameId body old updated loaded granted,
        by rw [signed, afterWrites_fst]⟩)
  | listGames => exact .inl rfl

theorem label_kept
    (own : name = keySecret label ∨ name = ownerSecret label ∨ name = qualitySecret label)
    (present : store[keySecret label]? ≠ none) :
    (handle rules crypto reader secrets host store origin request).1[name]? = store[name]? := by
  rcases handle_store rules crypto reader secrets host store origin request with
    same | ⟨label', caller, seed, quality, -, absent, -, made⟩ | ⟨record, -, written⟩
  · rw [same]
  · rw [made, storeKey_kept own host store origin seed quality]
    intro equal
    exact present (equal ▸ absent)
  · rw [written, storeGame_kept own]

end Adjourn.Delegate
