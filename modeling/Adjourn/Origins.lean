import Adjourn.Signing

/-! One delegate, many callers. A label answers to the caller that made it, and so does
everything the store holds for it. -/

namespace Adjourn.Origins
open Cbor OrderedMap Delegate Signing

def hostBytes : HostEntropy → Bytes32
  | .live draw => draw
  | .dead => zeros

/-- What the seed of a label is hashed from. -/
def keygenInput (host : HostEntropy) (caller : Option Bytes32) (label : String) : Bytes :=
  DOMAIN_KEYGEN ++ (hostBytes host).val ++
    ((caller.filter fun bytes => decide (bytes ≠ zeros)).getD zeros).val ++
    (bigEndian 4 (utf8 label).length).reverse ++ utf8 label

def keygenInputs (calls : List Call) : Set Bytes :=
  {input | ∃ call ∈ calls, ∃ label caller, call.request = .createGameKey label caller ∧
    input = keygenInput (classifyHostEntropy call.host.draws.1 call.host.draws.2) caller label}

/-- What the origins of callers rest on. A label without a key has no owner; a game
record has the origin of its label's owner; and a key was hashed for its own label. -/
structure Guarded (crypto : Crypto) (inputs : Set Bytes) (store : Store) : Prop where
  owners : ∀ label, store[keySecret label]? = none → store[ownerSecret label]? = none
  origins : ∀ (gameId : GameId) (record : GameRecord), store[gameSecret gameId]? = some record.encode →
    record.origin = loadOwner store record.label
  seeds : ∀ label bytes, store[keySecret label]? = some bytes → ∃ host caller,
    keygenInput host caller label ∈ inputs ∧ bytes = (crypto.sha256 (keygenInput host caller label)).val

/-- The entries of a label, games included, are the same in both stores. -/
structure Untouched (label : String) (before after : Store) : Prop where
  key : after[keySecret label]? = before[keySecret label]?
  owner : after[ownerSecret label]? = before[ownerSecret label]?
  quality : after[qualitySecret label]? = before[qualitySecret label]?
  bind : after[bindSecret label]? = before[bindSecret label]?
  games : ∀ (gameId : GameId) (record : GameRecord), record.label = label →
    (after[gameSecret gameId]? = some record.encode ↔ before[gameSecret gameId]? = some record.encode)

def bindsLabel : Request → Option String
  | .bindGame label _ _ | .rebind label _ => some label
  | .createGameKey _ _ | .sign _ _ | .listGames => none

/-- An answer that uses nothing of a label's: no signature by its key, no binding of it or
of a game that is its own, and no mention in a list of games. -/
structure Silent (crypto : Crypto) (label : String) (publicKey : KeyBytes) (store : Store) (request : Request)
    (response : Response) : Prop where
  signed : ∀ rec, response = .signed rec → rec.signer ≠ publicKey
  bound : ∀ gameId, response = .bound gameId → bindsLabel request ≠ some label ∧
    ∀ record : GameRecord, store[gameSecret gameId]? = some record.encode → record.label ≠ label
  games : ∀ games, response = .games games → ∀ summary ∈ games, summary.label ≠ label

variable {rules : Rules} {crypto : Crypto} {reader : Reader} {secrets : SecretReader} {host : Host}
  {store : Store} {origin : Option Bytes32} {label label' : String} {seed : Bytes32}
  {quality : EntropyQuality} {record : GameRecord} {request : Request} {inputs : Set Bytes}
  {released : List (GameId × Record)}

theorem deriveSeed_eq_ok {entropy : HostEntropy} {caller : Option Bytes32}
    (derived : deriveSeed crypto entropy caller label = .ok (seed, quality)) :
    seed = crypto.sha256 (keygenInput entropy caller label) := by
  unfold deriveSeed at derived
  cases entropy with
  | live draw =>
    simp only [bind, Except.bind, pure, Except.pure] at derived
    cases derived
    rfl
  | dead =>
    simp only [bind, Except.bind, pure, Except.pure] at derived
    split_ifs at derived
    cases derived
    rfl

theorem label_of_keygenInput {entropy entropy' : HostEntropy} {caller caller' : Option Bytes32}
    (same : keygenInput entropy caller label = keygenInput entropy' caller' label') : label = label' := by
  unfold keygenInput at same
  refine utf8_injective (List.append_inj' same ?_).2
  have lengths := congrArg List.length same
  simp only [List.length_append, List.length_reverse, bigEndian_length, FixedBytes.length_eq] at lengths
  omega

theorem loadOwner_kept (present : store[keySecret label]? ≠ none) :
    loadOwner (handle rules crypto reader secrets host store origin request).1 label = loadOwner store label := by
  rw [loadOwner, loadOwner, label_kept (.inr (.inl rfl)) present]

section Answers
variable {publicKey : KeyBytes}

theorem silent_refused (refusal : Refusal) : Silent crypto label publicKey store request (.refused refusal) where
  signed rec answer := by cases answer
  bound gameId answer := by cases answer
  games games answer := by cases answer

theorem Silent.afterWrites (writes : Writes) {response : Response}
    (silent : Silent crypto label publicKey store request response) :
    Silent crypto label publicKey store request (Delegate.afterWrites writes response).2 := by
  unfold Delegate.afterWrites
  split_ifs
  · exact silent
  · exact silent_refused _

theorem silent_listGames (foreign : loadOwner store label ≠ origin) :
    Silent crypto label publicKey store request (handleListGames crypto secrets store origin) where
  signed rec answer := by cases answer
  bound gameId answer := by cases answer
  games games answer listed member same := by
    obtain rfl := Response.games.inj answer
    obtain ⟨label', -, shown⟩ := List.mem_filterMap.1 member
    have named := label_of_summary shown
    unfold summary at shown
    split_ifs at shown with hidden
    rw [← named, same] at hidden
    exact foreign (not_not.1 hidden)

end Answers

section Invariant
variable (sound : Sound crypto ⟨store, released⟩) (guarded : Guarded crypto inputs store)
include sound guarded

theorem Guarded.owned (reads : secrets.RoundTrips) (grant : Grant crypto secrets store origin record) :
    record.origin = origin ∧ loadOwner store record.label = origin := by
  cases grant with
  | again label old bound own =>
    obtain ⟨gameId, held, -⟩ := sound.boundGame_eq_some reads bound
    exact ⟨own, (guarded.origins gameId _ held).symm.trans own⟩
  | fresh label params contract seed color unread seeded owned ours player => exact ⟨rfl, owned⟩
  | rebound label contract old bound own =>
    obtain ⟨gameId, held, -⟩ := sound.boundGame_eq_some reads bound
    exact ⟨own, (guarded.origins gameId _ held).symm.trans own⟩
  | signed gameId body old updated loaded granted =>
    have held := (sound.loadGame_eq_some reads).1 loaded
    obtain ⟨own, ⟨same, -⟩ | ⟨ply, parent, uci, -, -, -, -, same⟩⟩ := decideSign_cases granted
    · rw [same]
      exact ⟨own, (guarded.origins gameId _ held).symm.trans own⟩
    · rw [same]
      exact ⟨own, (guarded.origins gameId _ held).symm.trans own⟩

theorem Guarded.storeKey (absent : store[keySecret label]? = none) (entropy : HostEntropy)
    (caller : Option Bytes32) (derived : seed = crypto.sha256 (keygenInput entropy caller label))
    (known : keygenInput entropy caller label ∈ inputs) :
    Guarded crypto inputs (storeKey host store origin label seed quality).store where
  owners label' missing := by
    by_cases same : label' = label
    · subst same
      rw [storeKey_key] at missing
      split_ifs at missing with first
      rw [storeKey_failed _ _ _ _ _ _ (Bool.eq_false_iff.2 first)]
      exact guarded.owners label' missing
    · rw [storeKey_kept (.inl rfl) host store origin seed quality same] at missing
      rw [storeKey_kept (.inr (.inl rfl)) host store origin seed quality same]
      exact guarded.owners label' missing
  origins gameId record held := by
    rw [storeKey_game] at held
    obtain ⟨other, same, -, -, seed', key⟩ := sound.games gameId _ held
    obtain rfl := GameRecord.encode_injective same
    have differs : record.label ≠ label := by
      intro equal
      rw [equal, absent] at key
      cases key
    rw [loadOwner, storeKey_kept (.inr (.inl rfl)) host store origin seed quality differs]
    exact guarded.origins gameId record held
  seeds label' bytes held := by
    by_cases same : label' = label
    · subst same
      rw [storeKey_key] at held
      split_ifs at held with first
      · obtain rfl := Option.some.inj held
        exact ⟨entropy, caller, known, by rw [derived]⟩
      · rw [absent] at held
        cases held
    · rw [storeKey_kept (.inl rfl) host store origin seed quality same] at held
      exact guarded.seeds label' bytes held

theorem Guarded.storeGame (reads : secrets.RoundTrips) (grant : Grant crypto secrets store origin record) :
    Guarded crypto inputs (storeGame crypto host store record).store where
  owners label missing := by
    rw [storeGame_kept (.inl rfl)] at missing
    rw [storeGame_kept (.inr (.inl rfl))]
    exact guarded.owners label missing
  origins gameId other held := by
    rw [loadOwner, storeGame_kept (.inr (.inl rfl)), ← loadOwner]
    obtain ⟨own, owned⟩ := guarded.owned sound reads grant
    by_cases same : gameId = record.gameId crypto
    · subst same
      rw [storeGame_game] at held
      split_ifs at held
      · obtain rfl := GameRecord.encode_injective (Option.some.inj held)
        exact own.trans owned.symm
      · exact guarded.origins _ other held
    · rw [storeGame_game_ne _ _ _ _ same] at held
      exact guarded.origins gameId other held
  seeds label bytes held := by
    rw [storeGame_kept (.inl rfl)] at held
    exact guarded.seeds label bytes held

theorem Guarded.handle (reads : secrets.RoundTrips)
    (known : ∀ label caller, request = .createGameKey label caller →
      keygenInput (classifyHostEntropy host.draws.1 host.draws.2) caller label ∈ inputs) :
    Guarded crypto inputs (handle rules crypto reader secrets host store origin request).1 := by
  rcases handle_store rules crypto reader secrets host store origin request with
    same | ⟨label, caller, seed, quality, asked, absent, derived, made⟩ | ⟨record, grant, written⟩
  · rwa [same]
  · rw [made]
    exact guarded.storeKey sound absent _ caller (deriveSeed_eq_ok derived) (known label caller asked)
  · rw [written]
    exact guarded.storeGame sound reads grant

end Invariant

theorem guarded_start : Guarded crypto inputs ∅ where
  owners label missing := by simp
  origins gameId record held := by simp at held
  seeds label bytes held := by simp at held

theorem guarded_foldl (reads : secrets.RoundTrips) (calls : List Call) (session : Session)
    (sound : Sound crypto session) (guarded : Guarded crypto inputs session.store)
    (known : keygenInputs calls ⊆ inputs) :
    Guarded crypto inputs (calls.foldl (step rules crypto reader secrets) session).store ∧
      ∀ label, session.store[keySecret label]? ≠ none →
        (calls.foldl (step rules crypto reader secrets) session).store[keySecret label]? =
            session.store[keySecret label]? ∧
          loadOwner (calls.foldl (step rules crypto reader secrets) session).store label =
            loadOwner session.store label := by
  induction calls generalizing session with
  | nil => exact ⟨guarded, fun _ _ => ⟨rfl, rfl⟩⟩
  | cons call rest ih =>
    have first : Guarded crypto inputs (step rules crypto reader secrets session call).store := by
      refine guarded.handle sound reads fun label caller asked => known ?_
      exact ⟨call, List.mem_cons_self, label, caller, asked, rfl⟩
    have later : keygenInputs rest ⊆ inputs := by
      refine Set.Subset.trans (fun input member => ?_) known
      obtain ⟨other, late, rest'⟩ := member
      exact ⟨other, List.mem_cons_of_mem _ late, rest'⟩
    obtain ⟨guarded', kept⟩ := ih _ (sound_step reads sound call) first later
    refine ⟨guarded', fun label present => ?_⟩
    have key : (step rules crypto reader secrets session call).store[keySecret label]? =
        session.store[keySecret label]? := label_kept (.inl rfl) present
    have owner : loadOwner (step rules crypto reader secrets session call).store label =
        loadOwner session.store label := loadOwner_kept present
    obtain ⟨key', owner'⟩ := kept label (by rwa [key])
    exact ⟨key'.trans key, owner'.trans owner⟩

section Foreign
variable (sound : Sound crypto ⟨store, released⟩) (guarded : Guarded crypto inputs store)
  (reads : secrets.RoundTrips) (present : store[keySecret label]? = some seed.val)
  (foreign : loadOwner store label ≠ origin)
include sound guarded reads foreign

theorem label_ne_of_grant (grant : Grant crypto secrets store origin record) : record.label ≠ label := by
  intro same
  have owned := (guarded.owned sound reads grant).2
  rw [same] at owned
  exact foreign owned

theorem silent_bound {publicKey : KeyBytes} (grant : Grant crypto secrets store origin record)
    (other : bindsLabel request ≠ some label) :
    Silent crypto label publicKey store request (.bound (record.gameId crypto)) where
  signed rec answer := by cases answer
  bound gameId answer := by
    obtain rfl := Response.bound.inj answer
    refine ⟨other, fun held at' => ?_⟩
    rw [((sound.writable_of_grant reads grant).continues held at').1]
    exact label_ne_of_grant sound guarded reads foreign grant
  games games answer := by cases answer

theorem untouched_storeGame (grant : Grant crypto secrets store origin record) :
    Untouched label store (storeGame crypto host store record).store where
  key := storeGame_kept (.inl rfl) host store record
  owner := storeGame_kept (.inr (.inl rfl)) host store record
  quality := storeGame_kept (.inr (.inr rfl)) host store record
  bind := storeGame_bind_ne host store record crypto
    (label_ne_of_grant sound guarded reads foreign grant).symm
  games gameId other named := by
    have differs := label_ne_of_grant sound guarded reads foreign grant
    by_cases same : gameId = record.gameId crypto
    · subst same
      rw [storeGame_game]
      split_ifs
      · constructor
        · intro equal
          rw [← GameRecord.encode_injective (Option.some.inj equal)] at named
          exact absurd named differs
        · intro held
          have labels := ((sound.writable_of_grant reads grant).continues other held).1
          exact absurd (labels.symm.trans named) differs
      · exact Iff.rfl
    · rw [storeGame_game_ne _ _ _ _ same]

include present

theorem untouched_handle :
    Untouched label store (handle rules crypto reader secrets host store origin request).1 := by
  have here : store[keySecret label]? ≠ none := by simp [present]
  rcases handle_store rules crypto reader secrets host store origin request with
    same | ⟨label', caller, seed', quality, -, absent, -, made⟩ | ⟨record, grant, written⟩
  · rw [same]
    exact ⟨rfl, rfl, rfl, rfl, fun _ _ _ => Iff.rfl⟩
  · rw [made]
    have differs : label ≠ label' := fun equal => here (equal ▸ absent)
    refine ⟨storeKey_kept (.inl rfl) _ _ _ _ _ differs, storeKey_kept (.inr (.inl rfl)) _ _ _ _ _ differs,
      storeKey_kept (.inr (.inr rfl)) _ _ _ _ _ differs, storeKey_bind .., fun gameId other _ => ?_⟩
    rw [storeKey_game]
  · rw [written]
    exact untouched_storeGame sound guarded reads foreign grant

variable (free : crypto.CollisionFree inputs) (distinct : Set.InjOn crypto.verifyingKey (crypto.sha256 '' inputs))
include free distinct

theorem signer_ne_of_signed {gameId : GameId} {body : Body} {rec : Record}
    (signed : (handleSign rules crypto reader secrets host store origin gameId body).2 = .signed rec) :
    rec.signer ≠ crypto.verifyingKey seed := by
  obtain ⟨old, seed', updated, loaded, seeded, granted, rfl⟩ := handleSign_signed signed
  intro keys
  have differs : old.label ≠ label := by
    intro equal
    have own := (guarded.origins gameId old ((sound.loadGame_eq_some reads).1 loaded)).symm.trans
      (decideSign_cases granted).1
    rw [equal] at own
    exact foreign own
  obtain ⟨entropy, caller, known, value⟩ := guarded.seeds label _ present
  obtain ⟨entropy', caller', known', value'⟩ := guarded.seeds old.label _ (loadSeed_eq_some seeded)
  obtain rfl := FixedBytes.val_injective value
  obtain rfl := FixedBytes.val_injective value'
  have hashes := distinct ⟨_, known', rfl⟩ ⟨_, known, rfl⟩ keys
  exact differs (label_of_keygenInput (free known' known hashes))

theorem silent_handle : Silent crypto label (crypto.verifyingKey seed) store request
    (handle rules crypto reader secrets host store origin request).2 := by
  cases request with
  | createGameKey label' caller =>
    rw [handle]
    rcases handleCreateGameKey_cases crypto host store origin label' caller with
      ⟨refusal, refused⟩ | ⟨seed', quality, -, -, made⟩
    · rw [refused]
      exact silent_refused refusal
    · rw [made]
      exact Silent.afterWrites _ ⟨by simp, by simp, by simp⟩
  | bindGame label' params contract =>
    rw [handle]
    rcases handleBindGame_cases crypto secrets host store origin label' params contract with
      ⟨refusal, refused⟩ | ⟨record, grant, owned, bound⟩
    · rw [refused]
      exact silent_refused refusal
    · rw [bound]
      refine Silent.afterWrites _ (silent_bound sound guarded reads foreign grant fun same => ?_)
      rw [← Option.some.inj same] at foreign
      exact foreign owned
  | rebind label' contract =>
    rw [handle]
    rcases handleRebindGame_cases crypto secrets host store origin label' contract with
      ⟨refusal, refused⟩ | ⟨record, grant, labels, bound⟩
    · rw [refused]
      exact silent_refused refusal
    · rw [bound]
      refine Silent.afterWrites _ (silent_bound sound guarded reads foreign grant fun same => ?_)
      exact label_ne_of_grant sound guarded reads foreign grant (labels.trans (Option.some.inj same))
  | sign gameId body =>
    refine ⟨fun rec answer => signer_ne_of_signed sound guarded reads present foreign free distinct answer,
      fun gameId' answer => ?_, fun games answer => ?_⟩ <;> rw [handle] at answer
    · exact absurd answer ((handleSign_answer ..).1 gameId')
    · exact absurd answer ((handleSign_answer ..).2 games)
  | listGames => exact silent_listGames foreign

end Foreign

theorem keygenInputs_mono {calls calls' : List Call} (fewer : ∀ call ∈ calls, call ∈ calls') :
    keygenInputs calls ⊆ keygenInputs calls' := by
  intro input member
  obtain ⟨call, known, rest⟩ := member
  exact ⟨call, fewer call known, rest⟩

theorem owned_of_made {session : Session} {creation : Call} {caller : Option Bytes32} {publicKey : KeyBytes}
    (guarded : Guarded crypto inputs session.store) (asked : creation.request = .createGameKey label caller)
    (made : (handle rules crypto reader secrets creation.host session.store creation.origin
      creation.request).2 = .gameKey label publicKey quality) :
    ∃ seed : Bytes32,
      (step rules crypto reader secrets session creation).store[keySecret label]? = some seed.val ∧
      loadOwner (step rules crypto reader secrets session creation).store label = creation.origin ∧
      publicKey = crypto.verifyingKey seed := by
  have stored : (step rules crypto reader secrets session creation).store =
      (handleCreateGameKey crypto creation.host session.store creation.origin label caller).1 := by
    rw [step, asked]
    rfl
  rw [asked, handle] at made
  rw [stored]
  rcases handleCreateGameKey_cases crypto creation.host session.store creation.origin label caller with
    ⟨refusal, refused⟩ | ⟨seed, quality', absent, -, written⟩
  · rw [refused] at made
    cases made
  · rw [written] at made ⊢
    obtain ⟨done, same⟩ := afterWrites_snd made (by simp)
    obtain ⟨-, rfl, -⟩ := Response.gameKey.inj same
    rw [afterWrites_fst]
    obtain ⟨keyed, owned⟩ := storeKey_done _ _ (guarded.owners label absent) done
    exact ⟨seed, keyed, owned, rfl⟩

/-- Whoever has made a label is the only caller that it answers to: from then on, no
request of another caller is answered with anything of the label's, and none changes an
entry of it, whatever writes have failed before. -/
theorem origin_isolation (rules : Rules) (crypto : Crypto) (reader : Reader) (secrets : SecretReader)
    (earlier later : List Call) (creation call : Call) (label : String) (caller : Option Bytes32)
    (publicKey : KeyBytes) (quality : EntropyQuality) (reads : secrets.RoundTrips)
    (free : crypto.CollisionFree (keygenInputs (earlier ++ creation :: later)))
    (distinct : Set.InjOn crypto.verifyingKey
      (crypto.sha256 '' keygenInputs (earlier ++ creation :: later)))
    (asked : creation.request = .createGameKey label caller)
    (made : (handle rules crypto reader secrets creation.host
      (serve rules crypto reader secrets earlier).store creation.origin creation.request).2 =
        .gameKey label publicKey quality)
    (foreign : call.origin ≠ creation.origin) :
    Silent crypto label publicKey
        (serve rules crypto reader secrets (earlier ++ creation :: later)).store call.request
        (handle rules crypto reader secrets call.host
          (serve rules crypto reader secrets (earlier ++ creation :: later)).store call.origin call.request).2 ∧
      Untouched label (serve rules crypto reader secrets (earlier ++ creation :: later)).store
        (handle rules crypto reader secrets call.host
          (serve rules crypto reader secrets (earlier ++ creation :: later)).store call.origin
          call.request).1 := by
  have split : serve rules crypto reader secrets (earlier ++ creation :: later) =
      later.foldl (step rules crypto reader secrets)
        (step rules crypto reader secrets (serve rules crypto reader secrets earlier) creation) := by
    rw [serve, List.foldl_append, List.foldl_cons]
    rfl
  have soon : keygenInputs earlier ⊆ keygenInputs (earlier ++ creation :: later) :=
    keygenInputs_mono fun other member => List.mem_append_left _ member
  have now : keygenInputs [creation] ⊆ keygenInputs (earlier ++ creation :: later) :=
    keygenInputs_mono fun other member => by simp [List.mem_singleton.1 member]
  have late : keygenInputs later ⊆ keygenInputs (earlier ++ creation :: later) :=
    keygenInputs_mono fun other member => List.mem_append_right _ (List.mem_cons_of_mem _ member)
  have sound : Sound crypto (serve rules crypto reader secrets earlier) := sound_serve reads earlier
  have guarded : Guarded crypto _ (serve rules crypto reader secrets earlier).store :=
    (guarded_foldl reads earlier _ sound_start guarded_start soon).1
  obtain ⟨seed, keyed, owned, rfl⟩ := owned_of_made guarded asked made
  have stepped : Guarded crypto _
      (step rules crypto reader secrets (serve rules crypto reader secrets earlier) creation).store :=
    (guarded_foldl reads [creation] _ sound guarded now).1
  obtain ⟨guarded', kept⟩ := guarded_foldl reads later _ (sound_step reads sound creation) stepped late
  obtain ⟨key, owner⟩ := kept label (by simp [keyed])
  rw [← split] at guarded' key owner
  have final : Sound crypto (serve rules crypto reader secrets (earlier ++ creation :: later)) :=
    sound_serve reads _
  have outside : loadOwner (serve rules crypto reader secrets (earlier ++ creation :: later)).store label ≠
      call.origin := by
    rw [owner, owned]
    exact foreign.symm
  exact ⟨silent_handle final guarded' reads (key.trans keyed) outside free distinct,
    untouched_handle final guarded' reads (key.trans keyed) outside⟩

def sampleCreation : Call :=
  ⟨sampleHost, some (Sample.word 9), .createGameKey "white" (some Sample.whiteKey)⟩

def sampleIntrusion : Call := ⟨sampleHost, none, .bindGame "white" sampleParams zeros⟩

theorem origin_isolation_intrusion :
    Silent Sample.crypto "white" samplePlayer
        (serve Sample.rules Sample.crypto Reader.exact SecretReader.exact [sampleCreation]).store
        sampleIntrusion.request
        (handle Sample.rules Sample.crypto Reader.exact SecretReader.exact sampleHost
          (serve Sample.rules Sample.crypto Reader.exact SecretReader.exact [sampleCreation]).store none
          sampleIntrusion.request).2 ∧
      Untouched "white"
        (serve Sample.rules Sample.crypto Reader.exact SecretReader.exact [sampleCreation]).store
        (handle Sample.rules Sample.crypto Reader.exact SecretReader.exact sampleHost
          (serve Sample.rules Sample.crypto Reader.exact SecretReader.exact [sampleCreation]).store none
          sampleIntrusion.request).1 := by
  have derived : deriveSeed Sample.crypto (classifyHostEntropy zeros zeros) (some Sample.whiteKey) "white" =
      .ok (samplePlayer, .degraded) := by decide +kernel
  refine origin_isolation Sample.rules Sample.crypto Reader.exact SecretReader.exact [] [] sampleCreation
    sampleIntrusion "white" (some Sample.whiteKey) samplePlayer .degraded SecretReader.exact_roundTrips
    ?_ (fun a _ b _ same => same) rfl ?_ (by simp [sampleIntrusion, sampleCreation])
  · refine Sample.collisionFree_of_list _ [keygenInput .dead (some Sample.whiteKey) "white"] ?_
      (by simp)
    rintro input ⟨other, only, label, caller, asked, rfl⟩
    rw [List.mem_singleton.1 only] at asked ⊢
    obtain ⟨rfl, rfl⟩ := Request.createGameKey.inj asked
    have dead : classifyHostEntropy sampleCreation.host.draws.1 sampleCreation.host.draws.2 = .dead := by
      decide +kernel
    rw [dead]
    exact List.mem_singleton_self _
  · have ours : Sample.crypto.verifyingKey samplePlayer = samplePlayer := rfl
    simp [sampleCreation, handle, handleCreateGameKey, serve, sampleHost, derived, ours, afterWrites,
      Writes.start, Writes.set]

end Adjourn.Origins
