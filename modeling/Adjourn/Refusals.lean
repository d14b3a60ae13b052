import Adjourn.Binding

/-! What a refusal leaves in the store. The writes of a request are joined by `&&` and
nothing takes back the ones before a failure, so it is the first write that matters. -/

namespace Adjourn.Refusals
open Cbor OrderedMap Delegate Binding

section Requests
variable (rules : Rules) (crypto : Crypto) (reader : Reader) (secrets : SecretReader) (host : Host)
  (store : Store) (origin : Option Bytes32)

def gameEntry (record : GameRecord) : Bytes × Bytes :=
  (gameSecret (record.gameId crypto), record.encode)

/-- The first write of a request, where nothing refuses it before. -/
def firstWrite : Request → Option (Bytes × Bytes)
  | .createGameKey label caller =>
    if store[keySecret label]?.isSome then none
    else
      match deriveSeed crypto (classifyHostEntropy host.draws.1 host.draws.2) caller label with
      | .error _ => none
      | .ok (seed, _) => some (keySecret label, seed.val)
  | .bindGame label params contract =>
    match recordToBind crypto secrets store origin label params contract with
    | .error _ => none
    | .ok record => some (gameEntry crypto record)
  | .rebind label contract =>
    match decideRebind (boundGame secrets store label) label contract origin with
    | .refuse _ => none
    | .rebind record => some (gameEntry crypto record)
  | .sign gameId body =>
    match loadGame secrets store gameId with
    | none => none
    | some record =>
      if (loadSeed store record.label).isNone || locallyKnownToBeIllegal rules crypto reader host record body then
        none
      else
        match decideSign crypto record body origin with
        | .refuse _ => none
        | .sign updated => some (gameEntry crypto updated)
  | .listGames => none

/-- Every entry is as it was; and a key request whose writes have failed left no key, so
its label can still be created, and nobody can bind it. -/
structure Untouched (request : Request) (refusal : Refusal) (after : Store) : Prop where
  entries : ∀ name : Bytes, after[name]? = store[name]?
  keyless : ∀ label caller, request = .createGameKey label caller → refusal = .storeFailed →
    after[keySecret label]? = none ∧
    (∀ host' origin' caller', (handle rules crypto reader secrets host' after origin'
      (.createGameKey label caller')).2 ≠ .refused .labelExists) ∧
    ∀ host' origin' params contract, (handle rules crypto reader secrets host' after origin'
      (.bindGame label params contract)).2 = .refused .unknownLabel

end Requests

variable {rules : Rules} {crypto : Crypto} {reader : Reader} {secrets : SecretReader} {host : Host}
  {store : Store} {origin : Option Bytes32} {label : String} {caller : Option Bytes32} {request : Request}
  {refusal : Refusal} {record : GameRecord} {response : Response}

/-- What a request comes to: a refusal or a listing without a write, the writes of a new
key, or the writes of a game record. -/
theorem handle_split (rules : Rules) (crypto : Crypto) (reader : Reader) (secrets : SecretReader)
    (host : Host) (store : Store) (origin : Option Bytes32) (request : Request) :
    (firstWrite rules crypto reader secrets host store origin request = none ∧
      (handle rules crypto reader secrets host store origin request).1 = store) ∨
    (∃ label caller seed quality, request = .createGameKey label caller ∧ store[keySecret label]? = none ∧
      firstWrite rules crypto reader secrets host store origin request = some (keySecret label, seed.val) ∧
      handle rules crypto reader secrets host store origin request =
        afterWrites (storeKey host store origin label seed quality)
          (.gameKey label (crypto.verifyingKey seed) quality)) ∨
    ∃ record response, (∀ refusal, response ≠ .refused refusal) ∧
      firstWrite rules crypto reader secrets host store origin request = some (gameEntry crypto record) ∧
      handle rules crypto reader secrets host store origin request =
        afterWrites (storeGame crypto host store record) response := by
  cases request with
  | createGameKey label caller =>
    rw [handle, handleCreateGameKey, firstWrite]
    split_ifs with exists'
    · exact .inl ⟨rfl, rfl⟩
    · have absent : store[keySecret label]? = none := by simpa using exists'
      cases derived : deriveSeed crypto (classifyHostEntropy host.draws.1 host.draws.2) caller label with
      | error refusal => exact .inl ⟨rfl, rfl⟩
      | ok made =>
        refine .inr (.inl ⟨label, caller, made.1, made.2, rfl, absent, rfl, ?_⟩)
        cases origin <;> rfl
  | bindGame label params contract =>
    rw [handle, handleBindGame_eq, firstWrite]
    cases recordToBind crypto secrets store origin label params contract with
    | error refusal => exact .inl ⟨rfl, rfl⟩
    | ok record => exact .inr (.inr ⟨record, .bound (record.gameId crypto), by simp, rfl, rfl⟩)
  | rebind label contract =>
    rw [handle, handleRebindGame, firstWrite]
    cases decideRebind (boundGame secrets store label) label contract origin with
    | refuse refusal => exact .inl ⟨rfl, rfl⟩
    | rebind record => exact .inr (.inr ⟨record, .bound (record.gameId crypto), by simp, rfl, rfl⟩)
  | sign gameId body =>
    rw [handle, handleSign, firstWrite]
    cases loadGame secrets store gameId with
    | none => exact .inl ⟨rfl, rfl⟩
    | some record =>
      dsimp only
      cases loadSeed store record.label with
      | none => exact .inl ⟨rfl, rfl⟩
      | some seed =>
        simp only [Option.isNone_some, Bool.false_or]
        split_ifs with illegal
        · exact .inl ⟨rfl, rfl⟩
        · cases decideSign crypto record body origin with
          | refuse refusal => exact .inl ⟨rfl, rfl⟩
          | sign updated => exact .inr (.inr ⟨updated, _, by simp, rfl, rfl⟩)
  | listGames => exact .inl ⟨rfl, rfl⟩

theorem storeGame_eq_iff (failed : (storeGame crypto host store record).ok = false) :
    (∀ name : Bytes, (storeGame crypto host store record).store[name]? = store[name]?) ↔
      (host.writes 0 = true → store[(gameEntry crypto record).1]? = some (gameEntry crypto record).2) := by
  rw [storeGame_ok] at failed
  constructor
  · intro kept first
    have written := storeGame_game host store record crypto
    rw [kept, if_pos first] at written
    exact written
  · intro there name
    by_cases game : name = gameSecret (record.gameId crypto)
    · rw [game, storeGame_game]
      split_ifs with first
      · exact (there first).symm
      · rfl
    · by_cases index : name = bindSecret record.label
      · rw [index, storeGame_bind, failed]
        rfl
      · exact storeGame_other host store record crypto game index

theorem storeKey_eq_iff {seed : Bytes32} (quality : EntropyQuality) (absent : store[keySecret label]? = none) :
    (∀ name : Bytes, (storeKey host store origin label seed quality).store[name]? = store[name]?) ↔
      (host.writes 0 = true → store[keySecret label]? = some seed.val) := by
  constructor
  · intro kept first
    have written := storeKey_key host store origin label seed quality
    rw [kept, if_pos first] at written
    exact written
  · intro there name
    have failed : host.writes 0 = false := by
      by_contra first
      rw [Bool.not_eq_false] at first
      have held := there first
      rw [absent] at held
      cases held
    rw [storeKey_failed host store origin label seed quality failed]

theorem deriveSeed_eq_error {entropy : HostEntropy}
    (failed : deriveSeed crypto entropy caller label = .error refusal) : refusal = .noEntropy := by
  unfold deriveSeed at failed
  cases entropy with
  | live draw => cases failed
  | dead =>
    simp only [bind, Except.bind, pure, Except.pure] at failed
    split_ifs at failed
    exact (Except.error.inj failed).symm

theorem create_ne_labelExists (absent : store[keySecret label]? = none) :
    (handle rules crypto reader secrets host store origin (.createGameKey label caller)).2 ≠
      .refused .labelExists := by
  have free : store[keySecret label]?.isSome = false := by rw [absent]; rfl
  rw [handle, handleCreateGameKey, if_neg (by rw [free]; exact Bool.false_ne_true)]
  cases derived : deriveSeed crypto (classifyHostEntropy host.draws.1 host.draws.2) caller label with
  | error refusal => simp [deriveSeed_eq_error derived]
  | ok made =>
    dsimp only [afterWrites]
    split_ifs <;> simp

theorem bind_unknown (params : GameParams) (contract : Bytes32) (absent : store[keySecret label]? = none) :
    (handle rules crypto reader secrets host store origin (.bindGame label params contract)).2 =
      .refused .unknownLabel := by
  have unseeded : loadSeed store label = none := by rw [loadSeed, absent, Option.bind_none]
  rw [handle, handleBindGame, unseeded]

theorem absent_of_storeFailed
    (refused : (handle rules crypto reader secrets host store origin (.createGameKey label caller)).2 =
      .refused .storeFailed) : store[keySecret label]? = none := by
  by_contra present
  have taken : store[keySecret label]?.isSome = true := Option.isSome_iff_ne_none.2 present
  rw [handle, handleCreateGameKey, if_pos taken] at refused
  cases refused

/-- A refusal leaves the store untouched exactly where the first write of the request, if
it comes to one, fails or finds its bytes in the entry already. -/
theorem refusal_untouched_iff (rules : Rules) (crypto : Crypto) (reader : Reader) (secrets : SecretReader)
    (host : Host) (store : Store) (origin : Option Bytes32) (request : Request) (refusal : Refusal)
    (refused : (handle rules crypto reader secrets host store origin request).2 = .refused refusal) :
    Untouched rules crypto reader secrets store request refusal
        (handle rules crypto reader secrets host store origin request).1 ↔
      ∀ entry, firstWrite rules crypto reader secrets host store origin request = some entry →
        host.writes 0 = true → store[entry.1]? = some entry.2 := by
  have entries : Untouched rules crypto reader secrets store request refusal
        (handle rules crypto reader secrets host store origin request).1 ↔
      ∀ name : Bytes,
        (handle rules crypto reader secrets host store origin request).1[name]? = store[name]? := by
    refine ⟨Untouched.entries, fun kept => ⟨kept, ?_⟩⟩
    rintro label caller rfl rfl
    have absent := (kept (keySecret label)).trans (absent_of_storeFailed refused)
    exact ⟨absent, fun _ _ _ => create_ne_labelExists absent, fun _ _ params contract =>
      bind_unknown params contract absent⟩
  rw [entries]
  rcases handle_split rules crypto reader secrets host store origin request with
    ⟨nothing, same⟩ | ⟨label, caller, seed, quality, -, absent, first, made⟩ |
    ⟨record, response, granted, first, made⟩
  · rw [nothing, same]
    simp
  · rw [first, made, afterWrites_fst, storeKey_eq_iff quality absent]
    simp
  · have failed : (storeGame crypto host store record).ok = false := by
      by_contra ok
      rw [Bool.not_eq_false] at ok
      rw [made, afterWrites, if_pos ok] at refused
      exact granted refusal refused
    rw [first, made, afterWrites_fst, storeGame_eq_iff failed]
    simp

def tornHost : Host := { Signing.sampleHost with writes := fun i => decide (i = 0) }

def orphaned : Store := (∅ : Store).insert (keySecret "white") Signing.samplePlayer.val

theorem orphaned_create :
    handle Sample.rules Sample.crypto Reader.exact SecretReader.exact tornHost ∅ (some zeros)
      (.createGameKey "white" (some Sample.whiteKey)) = (orphaned, .refused .storeFailed) := by
  have derived : deriveSeed Sample.crypto (classifyHostEntropy zeros zeros) (some Sample.whiteKey) "white" =
      .ok (Signing.samplePlayer, .degraded) := by decide +kernel
  simp [handle, handleCreateGameKey, tornHost, Signing.sampleHost, derived, afterWrites, Writes.start, Writes.set,
    orphaned]

/-- A web app's key request fails at the second write. It leaves the key, the web app can
no longer create it, and a caller without a name binds it. -/
theorem refusal_leaves_key :
    (∅ : Store)[keySecret "white"]? = none ∧
    handle Sample.rules Sample.crypto Reader.exact SecretReader.exact tornHost ∅ (some zeros)
      (.createGameKey "white" (some Sample.whiteKey)) = (orphaned, .refused .storeFailed) ∧
    orphaned[keySecret "white"]? = some Signing.samplePlayer.val ∧
    (handle Sample.rules Sample.crypto Reader.exact SecretReader.exact Signing.sampleHost orphaned (some zeros)
      (.createGameKey "white" (some Sample.whiteKey))).2 = .refused .labelExists ∧
    (handle Sample.rules Sample.crypto Reader.exact SecretReader.exact Signing.sampleHost orphaned none
      (.bindGame "white" Signing.sampleParams zeros)).2 =
        .bound (Signing.sampleParams.gameId Sample.crypto) := by
  have held : orphaned[keySecret "white"]? = some Signing.samplePlayer.val := by
    rw [orphaned, getElem?_write, if_pos rfl]
  refine ⟨rfl, orphaned_create, held, ?_, ?_⟩
  · rw [handle, handleCreateGameKey, if_pos (by rw [held]; rfl)]
  · have seeded : loadSeed orphaned "white" = some Signing.samplePlayer := by
      rw [loadSeed, held, Option.bind_some, toBytes32_val]
    have unowned : loadOwner orphaned "white" = none := by decide +kernel
    have unbound : boundGame SecretReader.exact orphaned "white" = none := by
      have absent : loadBoundGameId orphaned "white" = none := by decide +kernel
      rw [boundGame, absent, Option.bind_none]
    have unused : ∀ other, loadGame SecretReader.exact orphaned (Signing.sampleParams.gameId Sample.crypto) =
        some other → other.label = "white" := by
      have absent : orphaned[gameSecret (Signing.sampleParams.gameId Sample.crypto)]? = none := by
        decide +kernel
      intro other loaded
      rw [loadGame, absent] at loaded
      cases loaded
    have player : Signing.sampleParams.colorOf (Sample.crypto.verifyingKey Signing.samplePlayer) = some .white := by
      decide +kernel
    rw [handle, handleBindGame_eq, (recordToBind_of_unread zeros unbound).2
      ⟨_, _, seeded, unowned, unused, player, rfl⟩]
    rfl

/-- Where the key itself cannot be written, the request leaves nothing. -/
theorem refusal_untouched_iff_key :
    (handle Sample.rules Sample.crypto Reader.exact SecretReader.exact
      { Signing.sampleHost with writes := fun _ => false } ∅ (some zeros)
      (.createGameKey "white" (some Sample.whiteKey))).1[keySecret "white"]? = none := by
  refine ((refusal_untouched_iff Sample.rules Sample.crypto Reader.exact SecretReader.exact
    { Signing.sampleHost with writes := fun _ => false } ∅ (some zeros)
    (.createGameKey "white" (some Sample.whiteKey)) .storeFailed ?_).2 fun _ _ failed => by cases failed).entries _
  have derived : deriveSeed Sample.crypto (classifyHostEntropy zeros zeros) (some Sample.whiteKey) "white" =
      .ok (Signing.samplePlayer, .degraded) := by decide +kernel
  simp [handle, handleCreateGameKey, Signing.sampleHost, derived, afterWrites, Writes.start, Writes.set]

end Adjourn.Refusals
