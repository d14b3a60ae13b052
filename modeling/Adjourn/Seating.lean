import Adjourn.Provenance

/-! A delegate that works: it makes the key, takes its side of the game, and signs what it is asked
for as long as the moves go up in ply. -/

namespace Adjourn.Seating
open Cbor Delegate Signing

variable {crypto : Crypto} {secrets : SecretReader} {store : Store} {log : List (GameId × Record)}
  {record updated : GameRecord} {label : String} {origin : Option Bytes32} {body : Body}

section Books
variable (host : Host) (sound : Sound crypto ⟨store, log⟩) (reads : secrets.RoundTrips)
  (bound : Delegate.boundGame secrets store label = some record)
include sound reads bound

theorem boundGame_signed (granted : decideSign crypto record body origin = .sign updated) :
    Delegate.boundGame secrets (storeGame crypto host store updated).store label =
      some (if host.writes 0 then updated else record) := by
  obtain ⟨index, held⟩ := (sound.boundGame_iff reads).1 bound
  obtain ⟨-, -, rfl⟩ := sound.boundGame_eq_some reads bound
  obtain ⟨labels, params, -⟩ := decideSign_eq_sign granted
  have games : updated.gameId crypto = record.gameId crypto := by rw [GameRecord.gameId, params]; rfl
  have after : Sound crypto ⟨(storeGame crypto host store updated).store, log⟩ :=
    sound.write (sound.writable_of_grant reads
      (.signed (record.gameId crypto) body record updated ((sound.loadGame_eq_some reads).2 held) granted))
  have bind := storeGame_bind host store updated crypto
  have game := storeGame_game host store updated crypto
  rw [labels, games, index, ite_self] at bind
  rw [games] at game
  cases written : host.writes 0 with
  | false =>
    rw [written, if_neg Bool.false_ne_true] at game
    exact (after.boundGame_iff reads).2 ⟨bind, game.trans held⟩
  | true =>
    rw [written, if_pos rfl] at game
    exact (after.boundGame_iff reads).2 ⟨by rw [if_pos rfl, games, bind], by rw [if_pos rfl, games, game]⟩

theorem loadGame_of_bound : loadGame secrets store (record.gameId crypto) = some record :=
  (sound.loadGame_eq_some reads).2 ((sound.boundGame_iff reads).1 bound).2

end Books

/-- The delegate holds the record as the game of its label, and the label's key. -/
structure Sits (crypto : Crypto) (secrets : SecretReader) (seed : Bytes32) (record : GameRecord)
    (session : Session) : Prop where
  sound : Sound crypto session
  seeded : loadSeed session.store record.label = some seed
  bound : Delegate.boundGame secrets session.store record.label = some record

/-- Statements of one side, whose moves go up in ply. -/
def inOrder (color : Color) (last : U16) : List Body → Bool
  | [] => true
  | .move ply _ _ :: rest => colorAtPly ply = color && last < ply && ply ≤ MAX_PLY && inOrder color ply rest
  | _ :: rest => inOrder color last rest

theorem decideSign_of_inOrder (crypto : Crypto) {color : Color} {said : List Body}
    (format : record.format = GAME_RECORD_FORMAT) (side : record.side = .ofColor color)
    (ordered : inOrder color record.lastSignedPly (body :: said) = true) :
    ∃ updated, decideSign crypto record body record.origin = .sign updated ∧ updated.format = GAME_RECORD_FORMAT ∧
      updated.side = .ofColor color ∧ updated.params = record.params ∧ updated.label = record.label ∧
      updated.origin = record.origin ∧ inOrder color updated.lastSignedPly said = true := by
  unfold decideSign
  rw [if_neg (not_not.2 format), if_neg (not_not.2 rfl)]
  cases body with
  | move ply parent uci =>
    simp only [inOrder, Bool.and_eq_true, decide_eq_true_eq] at ordered
    obtain ⟨⟨⟨mover, above⟩, inside⟩, ordered⟩ := ordered
    have ours : Side.ofColor (colorAtPly ply) = record.side := by rw [mover, side]
    dsimp only
    rw [if_neg (not_lt.2 inside), if_neg (not_not.2 ours), if_neg (lt_asymm above), if_neg above.ne']
    exact ⟨_, rfl, format, side, rfl, rfl, rfl, ordered⟩
  | resign | drawOffer _ _ | drawAccept _ _ | drawClaim _ _ =>
    exact ⟨record, rfl, format, side, rfl, rfl, rfl, ordered⟩

def signCall (host : Host) (origin : Option Bytes32) (gameId : GameId) (body : Body) : Call :=
  ⟨host, origin, .sign gameId body⟩

def calls (crypto : Crypto) (host : Host) (origin : Option Bytes32) (label : String) (caller : Option Bytes32)
    (params : GameParams) (contract : Bytes32) (said : List Body) : List Call :=
  [⟨host, origin, .createGameKey label caller⟩, ⟨host, origin, .bindGame label params contract⟩] ++
    said.map (signCall host origin (params.gameId crypto))

section Creating
variable {params : GameParams} {contract : Bytes32} {caller : Option Bytes32} {seed : Bytes32}
  {quality : EntropyQuality} {color : Color} {host : Host} (origin : Option Bytes32)
  (works : ∀ n, host.writes n = true)
  (derives : deriveSeed crypto (classifyHostEntropy host.draws.1 host.draws.2) caller label = .ok (seed, quality))

include derives in
theorem handleCreateGameKey_new :
    handleCreateGameKey crypto host ∅ origin label caller =
      afterWrites (storeKey host ∅ origin label seed quality)
        (.gameKey label (crypto.verifyingKey seed) quality) := by
  have absent : (∅ : Store)[keySecret label]? = none := by simp
  rw [handleCreateGameKey, absent, derives]
  cases origin <;> rfl

include works in
theorem storeKey_works (label : String) (seed : Bytes32) (quality : EntropyQuality) :
    (storeKey host ∅ origin label seed quality).ok = true := by
  unfold storeKey Writes.start Writes.set
  cases origin <;> simp [works]

include works in
theorem recordToBind_new (secrets : SecretReader) (label : String) (contract : Bytes32) (quality : EntropyQuality)
    (player : params.colorOf (crypto.verifyingKey seed) = some color) :
    Binding.recordToBind crypto secrets (storeKey host ∅ origin label seed quality).store origin label params
      contract = .ok ⟨GAME_RECORD_FORMAT, label, params, .ofColor color, origin, contract, none,
        (loadQuality secrets (storeKey host ∅ origin label seed quality).store label).getD .degraded, 0, zeros⟩ := by
  obtain ⟨key, owner⟩ := storeKey_done host ∅ (by simp) (storeKey_works origin works label seed quality)
  have unbound : Delegate.boundGame secrets (storeKey host ∅ origin label seed quality).store label = none := by
    rw [Delegate.boundGame, loadBoundGameId, storeKey_bind]
    simp
  have unused : ∀ other, loadGame secrets (storeKey host ∅ origin label seed quality).store (params.gameId crypto) =
      some other → other.label = label := by
    intro other loaded
    rw [loadGame, storeKey_game] at loaded
    simp at loaded
  refine (Binding.recordToBind_of_unread contract unbound).2 ⟨seed, color, ?_, owner, unused, player, rfl⟩
  rw [loadSeed, key, Option.bind_some, toBytes32_val]

include works derives in
theorem exists_sits (rules : Rules) (reader : Reader) (contract : Bytes32) (reads : secrets.RoundTrips)
    (player : params.colorOf (crypto.verifyingKey seed) = some color) :
    ∃ record, Sits crypto secrets seed record
        (serve rules crypto reader secrets (calls crypto host origin label caller params contract [])) ∧
      (serve rules crypto reader secrets (calls crypto host origin label caller params contract [])).released = [] ∧
      record.format = GAME_RECORD_FORMAT ∧ record.params = params ∧ record.side = .ofColor color ∧
      record.origin = origin ∧ record.lastSignedPly = 0 := by
  have made := handleCreateGameKey_new origin derives
  have bind := recordToBind_new origin works secrets label contract quality player
  have keys := storeKey_works origin works label seed quality
  have key := (storeKey_done host ∅ (by simp) keys).1
  generalize written : storeKey host ∅ origin label seed quality = keyed at made bind keys key
  obtain ⟨store, done⟩ := keyed
  obtain rfl : done = true := keys
  -- the record with which the side is taken
  generalize taken : GameRecord.mk GAME_RECORD_FORMAT label params (.ofColor color) origin contract none
    ((loadQuality secrets store label).getD .degraded) 0 zeros = record at bind
  have stored : (storeGame crypto host store record).ok = true := by
    rw [storeGame_ok, works, works]
    rfl
  have served : serve rules crypto reader secrets (calls crypto host origin label caller params contract []) =
      ⟨(storeGame crypto host store record).store, []⟩ := by
    simp [serve, calls, step, handle, made, afterWrites, Binding.handleBindGame_eq, bind, stored, answered]
  have sound : Sound crypto (serve rules crypto reader secrets
      (calls crypto host origin label caller params contract [])) := sound_serve reads _
  rw [served] at sound ⊢
  refine ⟨record, ⟨sound, ?_, (sound.boundGame_iff reads).2 ⟨?_, ?_⟩⟩, rfl, ?_⟩
  · have named : record.label = label := by rw [← taken]
    rw [named, loadSeed, storeGame_kept (.inl rfl), key, Option.bind_some, toBytes32_val]
  · rw [storeGame_bind, works, works]
    rfl
  · rw [storeGame_game, works]
    rfl
  · subst taken
    exact ⟨rfl, rfl, rfl, rfl, rfl⟩

end Creating

section Working
variable (rules : Rules) (reader : Reader) {seed : Bytes32} {session : Session} {host : Host}
  (reads : secrets.RoundTrips) (works : ∀ n, host.writes n = true) (blind : host.contractState = fun _ => none)
include reads works blind

theorem Sits.sign (sits : Sits crypto secrets seed record session)
    (granted : decideSign crypto record body record.origin = .sign updated) :
    Sits crypto secrets seed updated (step rules crypto reader secrets session
      (signCall host record.origin (record.gameId crypto) body)) ∧
    (step rules crypto reader secrets session (signCall host record.origin (record.gameId crypto) body)).released =
      session.released ++ [(record.gameId crypto, Record.sign crypto seed record.params body)] := by
  have unknown : locallyKnownToBeIllegal rules crypto reader host record body = false := by
    cases body <;> simp [locallyKnownToBeIllegal, blind]
  have signs : handleSign rules crypto reader secrets host session.store record.origin (record.gameId crypto) body =
      ((storeGame crypto host session.store updated).store,
        .signed (Record.sign crypto seed record.params body)) := by
    have stored : (storeGame crypto host session.store updated).ok = true := by
      rw [storeGame_ok, works, works]
      rfl
    have loaded := loadGame_of_bound sits.sound reads sits.bound
    simp [handleSign, loaded, sits.seeded, unknown, granted, afterWrites, stored]
  have after : step rules crypto reader secrets session (signCall host record.origin (record.gameId crypto) body) =
      ⟨(storeGame crypto host session.store updated).store, session.released ++
        [(record.gameId crypto, Record.sign crypto seed record.params body)]⟩ := by
    rw [signCall, step, handle, signs]
    rfl
  have sound : Sound crypto (step rules crypto reader secrets session
      (signCall host record.origin (record.gameId crypto) body)) := sound_step reads sits.sound _
  obtain ⟨labels, -⟩ := decideSign_eq_sign granted
  rw [after] at sound ⊢
  refine ⟨⟨sound, ?_, ?_⟩, rfl⟩
  · rw [labels, loadSeed, storeGame_kept (.inl rfl)]
    exact sits.seeded
  · have bound := boundGame_signed host sits.sound reads sits.bound granted
    rwa [works, if_pos rfl, ← labels] at bound

theorem Sits.released {color : Color} (sits : Sits crypto secrets seed record session)
    (format : record.format = GAME_RECORD_FORMAT) (side : record.side = .ofColor color) (said : List Body)
    (ordered : inOrder color record.lastSignedPly said = true) :
    ((said.map (signCall host record.origin (record.gameId crypto))).foldl (step rules crypto reader secrets)
      session).released =
      session.released ++
        said.map fun body => (record.gameId crypto, Record.sign crypto seed record.params body) := by
  induction said generalizing record session with
  | nil => rw [List.map_nil, List.map_nil, List.append_nil, List.foldl_nil]
  | cons body rest ih =>
    obtain ⟨updated, granted, format', side', params, -, origin, ordered'⟩ :=
      decideSign_of_inOrder crypto format side ordered
    obtain ⟨sits', signed⟩ := sits.sign rules reader reads works blind granted
    have game : updated.gameId crypto = record.gameId crypto := by rw [GameRecord.gameId, params]; rfl
    have later := ih sits' format' side' ordered'
    rw [origin, game, params, signed] at later
    rw [List.map_cons, List.foldl_cons, later, List.append_assoc]
    rfl

end Working

/-- A delegate that works signs what its player asks for, in the order of the plies. -/
theorem released_of_inOrder {params : GameParams} {contract seed : Bytes32} {caller : Option Bytes32}
    {quality : EntropyQuality} {color : Color} {host : Host} (rules : Rules) (reader : Reader)
    (reads : secrets.RoundTrips) (works : ∀ n, host.writes n = true) (blind : host.contractState = fun _ => none)
    (derives : deriveSeed crypto (classifyHostEntropy host.draws.1 host.draws.2) caller label = .ok (seed, quality))
    (player : params.colorOf (crypto.verifyingKey seed) = some color) (said : List Body)
    (ordered : inOrder color 0 said = true) :
    (serve rules crypto reader secrets (calls crypto host origin label caller params contract said)).released =
      said.map fun body => (params.gameId crypto, Record.sign crypto seed params body) := by
  obtain ⟨record, sits, nothing, format, same, side, owner, counter⟩ :=
    exists_sits origin works derives rules reader contract reads player
  have game : record.gameId crypto = params.gameId crypto := by rw [GameRecord.gameId, same]
  have signed := sits.released rules reader reads works blind format side said (by rwa [counter])
  rw [owner, game, same, nothing, List.nil_append] at signed
  rw [← signed, calls, Provenance.serve_append]
  rfl

end Adjourn.Seating
