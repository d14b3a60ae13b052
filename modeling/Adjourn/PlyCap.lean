import Adjourn.Invites

/-! Whether a signature that the delegate hands out is of any use. What is signed and what
verifies is decided in two places: signing checks the ply of a move, verifying the ply of
every body that has one. -/

namespace Adjourn.PlyCap
open Cbor OrderedMap Delegate Signing Bookkeeping Invites

variable {rules : Rules} {crypto : Crypto} {reader : Reader} {secrets : SecretReader} {host : Host}
  {store : Store} {origin : Option Bytes32} {record updated : GameRecord} {gameId : GameId} {body : Body}
  {ply : U16} {parent : RecordId} {uci : String} {seed : Bytes32} {rec : Record} {released : List (GameId × Record)}

/-- The record verifies, and a move is the signer's to make. -/
def Usable (crypto : Crypto) (params : GameParams) (rec : Record) : Prop :=
  rec.verify crypto params = true ∧
    ∀ ply parent uci, rec.body = .move ply parent uci → rec.color params = some (colorAtPly ply)

theorem move_granted (granted : decideSign crypto record (.move ply parent uci) origin = .sign updated) :
    ply ≤ MAX_PLY ∧ Side.ofColor (colorAtPly ply) = record.side := by
  obtain ⟨-, ⟨-, again⟩ | ⟨ply', parent', uci', is, inside, side, -⟩⟩ := decideSign_cases granted
  · obtain ⟨inside, side, -⟩ := again ply parent uci rfl
    exact ⟨inside, side⟩
  · obtain ⟨rfl, -⟩ := Body.move.inj is
    exact ⟨inside, side⟩

theorem ofColor_injective : Function.Injective Side.ofColor := by
  intro color other same
  cases color <;> cases other <;> simp_all [Side.ofColor]

theorem verify_sign (signs : crypto.Signs) {params : GameParams}
    (player : (params.colorOf (crypto.verifyingKey seed)).isSome) :
    (Record.sign crypto seed params body).verify crypto params = true ↔ ∀ ply ∈ body.ply, ply ≤ MAX_PLY := by
  rw [Record.verify_iff]
  constructor
  · rintro ⟨-, inside, -, -⟩
    exact inside
  · intro inside
    exact ⟨player, inside, FixedBytes.length_eq _, signs seed _⟩

theorem signed_by_player (sound : Sound crypto ⟨store, released⟩) (all : AllKept crypto store)
    (reads : secrets.RoundTrips)
    (signed : (handleSign rules crypto reader secrets host store origin gameId body).2 = .signed rec) :
    ∃ (record updated : GameRecord) (seed : Bytes32) (color : Color), loadGame secrets store gameId = some record ∧
      record.gameId crypto = gameId ∧ decideSign crypto record body origin = .sign updated ∧
      rec = Record.sign crypto seed record.params body ∧
      record.params.colorOf (crypto.verifyingKey seed) = some color ∧ record.side = .ofColor color := by
  obtain ⟨record, seed, updated, loaded, seeded, granted, same⟩ := handleSign_signed signed
  have held := (sound.loadGame_eq_some reads).1 loaded
  obtain ⟨other, equal, own, -, -⟩ := sound.games gameId _ held
  obtain rfl := GameRecord.encode_injective equal
  obtain ⟨seed', color, key, player, side⟩ := (all gameId record held).side
  obtain rfl : seed = seed' :=
    FixedBytes.val_injective (Option.some.inj ((loadSeed_eq_some seeded).symm.trans key))
  exact ⟨record, updated, seed, color, loaded, own, granted, same, player, side⟩

theorem usable_iff (signs : crypto.Signs) {color : Color}
    (granted : decideSign crypto record body origin = .sign updated)
    (player : record.params.colorOf (crypto.verifyingKey seed) = some color) (side : record.side = .ofColor color) :
    Usable crypto record.params (Record.sign crypto seed record.params body) ↔
      (body.kind ≠ .move → ∀ ply ∈ body.ply, ply ≤ MAX_PLY) := by
  have known : (record.params.colorOf (crypto.verifyingKey seed)).isSome := by rw [player]; rfl
  rw [Usable, verify_sign signs known]
  constructor
  · exact fun usable _ => usable.1
  · intro inside
    cases body with
    | move ply parent uci =>
      obtain ⟨within', turn⟩ := move_granted granted
      refine ⟨fun other same => Option.some.inj same ▸ within', fun ply' parent' uci' is => ?_⟩
      obtain ⟨rfl, -, -⟩ := Body.move.inj is
      have own : colorAtPly ply = color := ofColor_injective (turn.trans side)
      rw [own]
      exact player
    | resign | drawOffer _ _ | drawAccept _ _ | drawClaim _ _ =>
      exact ⟨inside (by simp [Body.kind]), (fun ply parent uci is => by cases is)⟩

/-- After any requests, a signature that is handed out is usable exactly when the body is no
draw statement past the last ply. The signer is a player of the bound game, and for moves
signing checks both the ply and whose turn it is; of draw statements it checks nothing. -/
theorem signature_usable_iff (rules : Rules) (crypto : Crypto) (reader : Reader) (secrets : SecretReader)
    (calls : List Call) (call : Call) (gameId : GameId) (body : Body) (rec : Record) (reads : secrets.RoundTrips)
    (signs : crypto.Signs) (asked : call.request = .sign gameId body)
    (signed : (handle rules crypto reader secrets call.host (serve rules crypto reader secrets calls).store
      call.origin call.request).2 = .signed rec) :
    ∃ record : GameRecord,
      loadGame secrets (serve rules crypto reader secrets calls).store gameId = some record ∧
      record.gameId crypto = gameId ∧ rec.body = body ∧
      (Usable crypto record.params rec ↔ (body.kind ≠ .move → ∀ ply ∈ body.ply, ply ≤ MAX_PLY)) := by
  have sound : Sound crypto (serve rules crypto reader secrets calls) := sound_serve reads calls
  have all : AllKept crypto (serve rules crypto reader secrets calls).store := allKept_serve reads calls
  rw [asked, handle] at signed
  obtain ⟨record, updated, seed, color, loaded, own, granted, rfl, player, side⟩ :=
    signed_by_player sound all reads signed
  exact ⟨record, loaded, own, rfl, usable_iff signs granted player side⟩

def lateOffer : Body := .drawOffer 4097 (sampleParams.genesis Sample.crypto)

theorem sampleBound_serve : (serve Sample.rules Sample.crypto Reader.exact SecretReader.exact
    (sampleCalls.take 2)).store = sampleBound := by
  simp [serve, sampleCalls, step, handle, sampleKeyed_create, sampleKeyed_bind]

theorem lateOffer_signed :
    (handle Sample.rules Sample.crypto Reader.exact SecretReader.exact sampleHost
      (serve Sample.rules Sample.crypto Reader.exact SecretReader.exact (sampleCalls.take 2)).store none
      (.sign (sampleParams.gameId Sample.crypto) lateOffer)).2 =
        .signed (Record.sign Sample.crypto samplePlayer sampleParams lateOffer) := by
  have seeded : loadSeed sampleBound "white" = some samplePlayer := by
    rw [loadSeed, sampleBound, key_after_bind, key_after_game]
    decide +kernel
  have label : sampleRecord.label = "white" := rfl
  rw [sampleBound_serve]
  simp [handle, handleSign, decideSign, sampleBound_loaded, label, seeded, sampleHost, storeGame, afterWrites,
    Writes.start, Writes.set, locallyKnownToBeIllegal, lateOffer]
  rfl

/-- For that offer, which is signed and cannot be used. -/
theorem signature_usable_iff_lateOffer :
    ∃ record : GameRecord,
      loadGame SecretReader.exact (serve Sample.rules Sample.crypto Reader.exact SecretReader.exact
        (sampleCalls.take 2)).store (sampleParams.gameId Sample.crypto) = some record ∧
      ¬Usable Sample.crypto record.params (Record.sign Sample.crypto samplePlayer sampleParams lateOffer) := by
  obtain ⟨record, loaded, -, -, exact'⟩ := signature_usable_iff Sample.rules Sample.crypto Reader.exact
    SecretReader.exact (sampleCalls.take 2)
    ⟨sampleHost, none, .sign (sampleParams.gameId Sample.crypto) lateOffer⟩ (sampleParams.gameId Sample.crypto)
    lateOffer _ SecretReader.exact_roundTrips Sample.crypto_signs rfl lateOffer_signed
  refine ⟨record, loaded, fun usable => ?_⟩
  exact absurd (exact'.1 usable (by decide) 4097 rfl) (by decide)

/-- The delegate hands out an offer that verifies nowhere: the ply it is made out for is past
the last one of any game. -/
theorem signature_unusable :
    Sample.crypto.Signs ∧
    (handle Sample.rules Sample.crypto Reader.exact SecretReader.exact sampleHost
      (serve Sample.rules Sample.crypto Reader.exact SecretReader.exact (sampleCalls.take 2)).store none
      (.sign (sampleParams.gameId Sample.crypto) lateOffer)).2 =
        .signed (Record.sign Sample.crypto samplePlayer sampleParams lateOffer) ∧
    loadGame SecretReader.exact (serve Sample.rules Sample.crypto Reader.exact SecretReader.exact
      (sampleCalls.take 2)).store (sampleParams.gameId Sample.crypto) = some sampleRecord ∧
    sampleRecord.params = sampleParams ∧
    (Record.sign Sample.crypto samplePlayer sampleParams lateOffer).verify Sample.crypto sampleParams = false := by
  refine ⟨Sample.crypto_signs, lateOffer_signed, ?_, rfl, by decide +kernel⟩
  rw [sampleBound_serve]
  exact sampleBound_loaded

end Adjourn.PlyCap
