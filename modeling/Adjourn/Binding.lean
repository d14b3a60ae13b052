import Adjourn.Signing

/-! What a bind does to the record of the game that its label is already bound to. -/

namespace Adjourn.Binding
open Cbor OrderedMap Delegate

section Bind
variable (crypto : Crypto) (secrets : SecretReader) (host : Host) (store : Store) (origin : Option Bytes32)
  (label : String) (params : GameParams) (contract : Bytes32)

/-- What the handler decides to store, before it writes anything. -/
def recordToBind : Except Refusal GameRecord :=
  match loadSeed store label with
  | none => .error .unknownLabel
  | some seed =>
    if loadOwner store label ≠ origin then .error .wrongOrigin
    else if (boundGame secrets store label).isNone &&
        (loadGame secrets store (params.gameId crypto)).any (fun other => decide (other.label ≠ label)) then
      .error (.alreadyBound (params.gameId crypto))
    else
      match decideBind crypto (boundGame secrets store label) label (crypto.verifyingKey seed) params contract
          ((loadQuality secrets store label).getD .degraded) origin with
      | .refuse refusal => .error refusal
      | .bind record => .ok record

/-- The request is refused and the entry of the bound game keeps its bytes; or what goes
to the store is a record of the game in that entry, with the entry's counter and hash. -/
def Kept (id : GameId) (raw : Bytes) : Prop :=
  ((∃ refusal, (handleBindGame crypto secrets host store origin label params contract).2 = .refused refusal) ∧
      (handleBindGame crypto secrets host store origin label params contract).1[gameSecret id]? = some raw) ∨
    ∃ record old : GameRecord, recordToBind crypto secrets store origin label params contract = .ok record ∧
      secrets.gameRecord raw = some old ∧ record.gameId crypto = old.gameId crypto ∧
      record.lastSignedPly = old.lastSignedPly ∧ record.lastMoveBodyHash = old.lastMoveBodyHash

end Bind

variable {crypto : Crypto} {secrets : SecretReader} {host : Host} {store : Store} {origin : Option Bytes32}
  {label : String} {params : GameParams} {contract : Bytes32} {record existing : GameRecord} {id : GameId}
  {raw : Bytes}

theorem handleBindGame_eq : handleBindGame crypto secrets host store origin label params contract =
    match recordToBind crypto secrets store origin label params contract with
    | .error refusal => (store, .refused refusal)
    | .ok record => afterWrites (storeGame crypto host store record) (.bound (record.gameId crypto)) := by
  unfold handleBindGame recordToBind
  cases loadSeed store label with
  | none => rfl
  | some seed =>
    dsimp only
    split_ifs
    · rfl
    · rfl
    · cases decideBind crypto (boundGame secrets store label) label (crypto.verifyingKey seed) params contract
        ((loadQuality secrets store label).getD .degraded) origin <;> rfl

theorem recordToBind_of_bound (bound : boundGame secrets store label = some existing)
    (stored : recordToBind crypto secrets store origin label params contract = .ok record) :
    record = existing ∧ existing.gameId crypto = params.gameId crypto := by
  unfold recordToBind at stored
  cases seeded : loadSeed store label with
  | none => simp [seeded] at stored
  | some seed =>
    simp only [seeded, bound, decideBind] at stored
    split_ifs at stored with foreign taken stale other another
    cases stored
    exact ⟨rfl, not_not.1 another⟩

theorem recordToBind_of_unread (contract : Bytes32) (unread : boundGame secrets store label = none) :
    recordToBind crypto secrets store origin label params contract = .ok record ↔
      ∃ seed color, loadSeed store label = some seed ∧ loadOwner store label = origin ∧
        (∀ other, loadGame secrets store (params.gameId crypto) = some other → other.label = label) ∧
        params.colorOf (crypto.verifyingKey seed) = some color ∧
        record = ⟨GAME_RECORD_FORMAT, label, params, .ofColor color, origin, contract, none,
          (loadQuality secrets store label).getD .degraded, 0, zeros⟩ := by
  constructor
  · intro stored
    cases seeded : loadSeed store label with
    | none => simp [recordToBind, seeded] at stored
    | some seed =>
      simp only [recordToBind, seeded, unread, Option.isNone_none, Bool.true_and] at stored
      split_ifs at stored with foreign taken
      have ours : ∀ other, loadGame secrets store (params.gameId crypto) = some other → other.label = label := by
        intro other loaded
        by_contra differ
        exact taken (by simp [loaded, differ])
      cases player : params.colorOf (crypto.verifyingKey seed) with
      | none => simp [decideBind, player] at stored
      | some color =>
        simp only [decideBind, player] at stored
        exact ⟨seed, color, rfl, not_not.1 foreign, ours, player, (Except.ok.inj stored).symm⟩
  · rintro ⟨seed, color, seeded, owned, ours, player, rfl⟩
    have free : (loadGame secrets store (params.gameId crypto)).any
        (fun other => decide (other.label ≠ label)) = false := by
      cases loaded : loadGame secrets store (params.gameId crypto) with
      | none => rfl
      | some other => simp [ours other loaded]
    rw [recordToBind, seeded]
    simp only [owned, unread, free, Bool.and_false, decideBind, player, ne_eq, not_true, if_false,
      Bool.false_eq_true]

section Held
variable (bound : loadBoundGameId store label = some id) (held : store[gameSecret id]? = some raw)
include bound held

end Held

def laterRecord : GameRecord :=
  ⟨4, "white", Sample.params, .white, none, zeros, none, .hostBacked, 7, Sample.word 7⟩

/-- A store that comes from another generation of the delegate. -/
def carried : Store :=
  (((∅ : Store).insert (keySecret "white") Sample.whiteKey.val).insert (gameSecret
    (laterRecord.gameId Sample.crypto)) laterRecord.encode).insert (bindSecret "white")
      (laterRecord.gameId Sample.crypto).val

end Adjourn.Binding
