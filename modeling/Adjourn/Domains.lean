import Adjourn.Invites
import Adjourn.Origins

/-! What is hashed and what is signed. Each purpose has a domain tag of its own, and behind
the tag the parts of a statement are delimited, so bytes made for one game, signer, body or
purpose are made for no other. -/

namespace Adjourn.Domains
open Cbor Invites Origins

inductive Purpose where
  | gameId
  | genesis
  | record
  | sigDigest
  | body
  | keygen
  deriving DecidableEq

def Purpose.inputs (crypto : Crypto) : Purpose → Set Bytes
  | .gameId => Set.range gameInput
  | .genesis => Set.range (GameParams.genesisInput crypto)
  | .record => Set.range Record.idInput
  | .sigDigest => Set.range Record.sigDigestInput
  | .body => Set.range bodyHashInput
  | .keygen => {input | ∃ host caller label, input = keygenInput host caller label}

def Purpose.domain : Purpose → Bytes
  | .gameId => DOMAIN_GAME
  | .genesis => DOMAIN_GENESIS
  | .record => DOMAIN_REC
  | .sigDigest => DOMAIN_SIGDIGEST
  | .body => DOMAIN_BODY
  | .keygen => DOMAIN_KEYGEN

/-- Under a key a signature is good for at most one of the payloads. -/
def SignsOnce (crypto : Crypto) (payloads : Set Bytes) : Prop :=
  ∀ key sig, ∀ payload ∈ payloads, ∀ other ∈ payloads,
    crypto.verifies key payload sig = true → crypto.verifies key other sig = true → payload = other

variable {crypto : Crypto} {purpose purpose' : Purpose} {input : Bytes} {params params' : GameParams}
  {rec : Record}

theorem hashed_inputs (crypto : Crypto) :
    (∀ params : GameParams, ∃ input ∈ Purpose.gameId.inputs crypto, params.gameId crypto = crypto.sha256 input) ∧
    (∀ params : GameParams, ∃ input ∈ Purpose.genesis.inputs crypto, params.genesis crypto = crypto.sha256 input) ∧
    (∀ rec : Record, ∃ input ∈ Purpose.record.inputs crypto, rec.id crypto = crypto.sha256 input) ∧
    (∀ rec : Record, ∃ input ∈ Purpose.sigDigest.inputs crypto, rec.sigDigest crypto = crypto.sha256 input) ∧
    (∀ body : Body, ∃ input ∈ Purpose.body.inputs crypto, bodyHash crypto body = crypto.sha256 input) ∧
    ∀ host caller label seed quality, deriveSeed crypto host caller label = .ok (seed, quality) →
      ∃ input ∈ Purpose.keygen.inputs crypto, seed = crypto.sha256 input := by
  refine ⟨fun params => ⟨_, ⟨params, rfl⟩, rfl⟩, fun params => ⟨_, ⟨params, rfl⟩, rfl⟩,
    fun rec => ⟨_, ⟨rec, rfl⟩, rfl⟩, fun rec => ⟨_, ⟨rec, rfl⟩, rfl⟩, fun body => ⟨_, ⟨body, rfl⟩, rfl⟩, ?_⟩
  intro host caller label seed quality derived
  exact ⟨_, ⟨host, caller, label, rfl⟩, deriveSeed_eq_ok derived⟩

theorem exists_domain_append (member : input ∈ purpose.inputs crypto) :
    ∃ rest, input = purpose.domain ++ rest := by
  cases purpose with
  | gameId =>
    obtain ⟨params, rfl⟩ := member
    exact ⟨_, by simp only [gameInput, Purpose.domain, List.append_assoc]; rfl⟩
  | genesis =>
    obtain ⟨params, rfl⟩ := member
    exact ⟨_, rfl⟩
  | record =>
    obtain ⟨rec, rfl⟩ := member
    exact ⟨_, by simp only [Record.idInput, Purpose.domain, List.append_assoc]; rfl⟩
  | sigDigest =>
    obtain ⟨rec, rfl⟩ := member
    exact ⟨_, rfl⟩
  | body =>
    obtain ⟨body, rfl⟩ := member
    exact ⟨_, rfl⟩
  | keygen =>
    obtain ⟨host, caller, label, rfl⟩ := member
    exact ⟨_, by simp only [keygenInput, Purpose.domain, List.append_assoc]; rfl⟩

/-- Thirteen bytes of a domain tag tell which it is: two more than the tags share. -/
theorem domain_separates (same : purpose.domain.take 13 = purpose'.domain.take 13) : purpose = purpose' := by
  have separate : ∀ purpose ∈ [Purpose.gameId, .genesis, .record, .sigDigest, .body, .keygen],
      ∀ other ∈ [Purpose.gameId, .genesis, .record, .sigDigest, .body, .keygen],
        purpose.domain.take 13 = other.domain.take 13 → purpose = other := by decide +kernel
  have listed : ∀ purpose : Purpose, purpose ∈ [Purpose.gameId, .genesis, .record, .sigDigest, .body, .keygen] := by
    intro purpose
    cases purpose <;> decide
  exact separate _ (listed _) _ (listed _) same

theorem thirteen_le_domain (purpose : Purpose) : 13 ≤ purpose.domain.length := by
  cases purpose <;> decide +kernel

theorem take_of_mem_inputs (member : input ∈ purpose.inputs crypto) :
    input.take 13 = purpose.domain.take 13 := by
  obtain ⟨rest, rfl⟩ := exists_domain_append member
  exact List.take_append_of_le_length (thirteen_le_domain purpose)

theorem purpose_unique (member : input ∈ purpose.inputs crypto) (member' : input ∈ purpose'.inputs crypto) :
    purpose = purpose' :=
  domain_separates ((take_of_mem_inputs member).symm.trans (take_of_mem_inputs member'))

theorem params_of_gameId (free : crypto.CollisionFree {gameInput params, gameInput params'})
    (same : params.gameId crypto = params'.gameId crypto) : params = params' :=
  gameInput_injective (free (Set.mem_insert _ _) (Set.mem_insert_of_mem _ rfl) same)

theorem gameId_of_verifies
    (once : SignsOnce crypto
      {signingPayload (params.gameId crypto) rec.body, signingPayload (params'.gameId crypto) rec.body})
    (valid : rec.verify crypto params = true) (valid' : rec.verify crypto params' = true) :
    params.gameId crypto = params'.gameId crypto := by
  obtain ⟨-, -, -, signed⟩ := (Record.verify_iff crypto params rec).1 valid
  obtain ⟨-, -, -, signed'⟩ := (Record.verify_iff crypto params' rec).1 valid'
  have payloads := once rec.signer rec.sig _ (Set.mem_insert _ _) _ (Set.mem_insert_of_mem _ rfl) signed signed'
  exact (signingPayload_injective payloads).1

/-- A signing payload determines the game id and the body, a hashed record the signer and
the body, and a hashed byte string what it was hashed for. So where the two games' ids do
not collide and a signature is good for one payload only, a record that verifies under
some parameters verifies under no others. -/
theorem statements_bound (crypto : Crypto) :
    (∀ (params params' : GameParams) (body body' : Body),
      signingPayload (params.gameId crypto) body = signingPayload (params'.gameId crypto) body' →
        params.gameId crypto = params'.gameId crypto ∧ body = body') ∧
    (∀ rec rec' : Record, rec.idInput = rec'.idInput → rec.signer = rec'.signer ∧ rec.body = rec'.body) ∧
    (∀ (purpose purpose' : Purpose) (input : Bytes),
      input ∈ purpose.inputs crypto → input ∈ purpose'.inputs crypto → purpose = purpose') ∧
    ∀ (params params' : GameParams) (rec : Record),
      crypto.CollisionFree {gameInput params, gameInput params'} →
      SignsOnce crypto
        {signingPayload (params.gameId crypto) rec.body, signingPayload (params'.gameId crypto) rec.body} →
      rec.verify crypto params = true → params ≠ params' → rec.verify crypto params' = false := by
  refine ⟨fun _ _ _ _ same => signingPayload_injective same, fun _ _ same => Record.idInput_inj same,
    fun _ _ _ member member' => purpose_unique member member', ?_⟩
  intro params params' rec free once valid differs
  by_contra also
  exact differs (params_of_gameId free (gameId_of_verifies once valid (Bool.not_eq_false _ ▸ also)))

def rematch : GameParams := { Sample.params with nonce := ⟨List.replicate 16 8, List.length_replicate⟩ }

theorem rematch_free :
    Sample.crypto.CollisionFree {gameInput Sample.params, gameInput rematch} := by
  refine Sample.collisionFree_of_list _ [gameInput Sample.params, gameInput rematch] ?_ (by decide +kernel)
  intro input member
  simpa using member

theorem rematch_signsOnce : SignsOnce Sample.crypto
    {signingPayload (Sample.params.gameId Sample.crypto) Sample.opening.body,
      signingPayload (rematch.gameId Sample.crypto) Sample.opening.body} := by
  intro key sig payload member other member' signed signed'
  obtain rfl | rfl := member <;> obtain rfl | rfl := member' <;>
    rw [Sample.eq_of_verifies signed signed']

/-- For the opening of a game, and the same players' next game. -/
theorem statements_bound_rematch : Sample.opening.verify Sample.crypto rematch = false :=
  (statements_bound Sample.crypto).2.2.2 Sample.params rematch Sample.opening rematch_free rematch_signsOnce
    (by decide +kernel) (by decide)

end Adjourn.Domains
