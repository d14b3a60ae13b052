import Adjourn.Bookkeeping
import Adjourn.Origins

/-! How good a key is. The quality of a key is found once, when its seed is derived, and is
then copied from entry to entry; a key that had no host entropy is never reported as
backed by the host. -/

namespace Adjourn.Quality
open Cbor OrderedMap Delegate Signing Origins

def Ungraded (store : Store) : Prop :=
  ∀ label, store[keySecret label]? = none → store[qualitySecret label]? = none

/-- What is held about a label whose key had no host entropy. -/
structure Modest (label : String) (store : Store) : Prop where
  key : store[keySecret label]? ≠ none
  quality : store[qualitySecret label]? = none ∨
    store[qualitySecret label]? = some (EntropyQuality.encode .degraded)
  games : ∀ (gameId : GameId) (record : GameRecord), store[gameSecret gameId]? = some record.encode →
    record.label = label → record.entropy = .degraded

structure Plain (label : String) (response : Response) : Prop where
  key : ∀ publicKey, response ≠ .gameKey label publicKey .hostBacked
  games : ∀ games, response = .games games → ∀ summary ∈ games, summary.label = label →
    summary.entropy ≠ some .hostBacked

variable {rules : Rules} {crypto : Crypto} {reader : Reader} {secrets : SecretReader} {host : Host}
  {store : Store} {origin : Option Bytes32} {label label' : String} {seed : Bytes32} {caller : Option Bytes32}
  {quality : EntropyQuality} {record : GameRecord} {request : Request} {released : List (GameId × Record)}

theorem plain_refused (refusal : Refusal) : Plain label (.refused refusal) where
  key publicKey same := by cases same
  games games same := by cases same

theorem plain_bound (gameId : GameId) : Plain label (.bound gameId) where
  key publicKey same := by cases same
  games games same := by cases same

theorem Plain.afterWrites (writes : Writes) {response : Response} (plain : Plain label response) :
    Plain label (Delegate.afterWrites writes response).2 := by
  unfold Delegate.afterWrites
  split_ifs
  · exact plain
  · exact plain_refused _

theorem deriveSeed_dead (derived : deriveSeed crypto .dead caller label = .ok (seed, quality)) :
    quality = .degraded ∧ ∃ bytes, caller = some bytes ∧ bytes ≠ zeros := by
  unfold deriveSeed at derived
  simp only [bind, Except.bind, pure, Except.pure] at derived
  split_ifs at derived with nothing
  obtain ⟨-, rfl⟩ := Prod.mk.inj (Except.ok.inj derived)
  refine ⟨rfl, ?_⟩
  cases caller with
  | none => simp at nothing
  | some bytes =>
    refine ⟨bytes, rfl, fun same => nothing ?_⟩
    simp [same]

theorem storeKey_quality (host : Host) (store : Store) (origin : Option Bytes32) (label : String) (seed : Bytes32)
    (quality : EntropyQuality) :
    (storeKey host store origin label seed quality).store[qualitySecret label]? = store[qualitySecret label]? ∨
      host.writes 0 = true ∧
        (storeKey host store origin label seed quality).store[qualitySecret label]? = some quality.encode := by
  have keyed : ∀ value,
      (store.insert (keySecret label) value)[qualitySecret label]? = store[qualitySecret label]? :=
    fun value => getElem?_write_ne (stem_keySecret _) (stem_qualitySecret _) (by decide)
  have graded : ∀ (store : Store) value,
      (store.insert (qualitySecret label) value)[qualitySecret label]? = some value := fun store value => by
    rw [getElem?_write, if_pos rfl]
  have owned : ∀ (store : Store) value,
      (store.insert (ownerSecret label) value)[qualitySecret label]? = store[qualitySecret label]? :=
    fun store value => getElem?_write_ne (stem_ownerSecret _) (stem_qualitySecret _) (by decide)
  cases first : host.writes 0 with
  | false => exact .inl (by rw [storeKey_failed _ _ _ _ _ _ first])
  | true =>
    unfold storeKey Writes.start Writes.set
    simp only [first, Bool.and_self, if_true]
    cases host.writes 1 with
    | false =>
      left
      cases origin <;> exact keyed _
    | true =>
      right
      refine ⟨trivial, ?_⟩
      cases origin with
      | none => exact graded _ _
      | some originId =>
        cases host.writes 2
        · exact graded _ _
        · exact (owned _ _).trans (graded _ _)

theorem Ungraded.handle (ungraded : Ungraded store) :
    Ungraded (handle rules crypto reader secrets host store origin request).1 := by
  intro label absent
  rcases handle_store rules crypto reader secrets host store origin request with
    same | ⟨label', caller, seed, quality, -, absent', -, made⟩ | ⟨record, -, written⟩
  · rw [same] at absent ⊢
    exact ungraded label absent
  · rw [made] at absent ⊢
    by_cases own : label = label'
    · subst own
      rw [storeKey_key] at absent
      split_ifs at absent with first
      rcases storeKey_quality host store origin label seed quality with kept | ⟨done, -⟩
      · rw [kept]
        exact ungraded label absent'
      · exact absurd done first
    · rw [storeKey_kept (.inl rfl) host store origin seed quality own] at absent
      rw [storeKey_kept (.inr (.inr rfl)) host store origin seed quality own]
      exact ungraded label absent
  · rw [written, storeGame_kept (.inl rfl)] at absent
    rw [written, storeGame_kept (.inr (.inr rfl))]
    exact ungraded label absent

theorem ungraded_serve (calls : List Call) : Ungraded (serve rules crypto reader secrets calls).store := by
  have kept : ∀ session : Session, Ungraded session.store →
      Ungraded (calls.foldl (step rules crypto reader secrets) session).store := by
    induction calls with
    | nil => exact fun _ ungraded => ungraded
    | cons call rest ih => exact fun session ungraded => ih _ ungraded.handle
  exact kept _ fun label _ => by simp

section Kept
variable (sound : Sound crypto ⟨store, released⟩) (modest : Modest label store) (reads : secrets.RoundTrips)
include modest reads

theorem Modest.loadQuality :
    loadQuality secrets store label = none ∨ loadQuality secrets store label = some .degraded := by
  rcases modest.quality with none' | degraded
  · exact .inl (by rw [Adjourn.loadQuality, none', Option.bind_none])
  · exact .inr (by rw [Adjourn.loadQuality, degraded, Option.bind_some, reads.entropyQuality])

include sound

theorem Modest.grant (grant : Grant crypto secrets store origin record) (named : record.label = label) :
    record.entropy = .degraded := by
  cases grant with
  | again _ old bound own =>
    obtain ⟨gameId, held, -⟩ := sound.boundGame_eq_some reads bound
    exact modest.games gameId record held named
  | fresh _ params contract seed color unread seeded owned ours player =>
    obtain rfl : _ = label := named
    rcases modest.loadQuality reads with none' | degraded
    · exact congrArg (fun found => found.getD .degraded) none'
    · exact congrArg (fun found => found.getD .degraded) degraded
  | rebound _ contract old bound own =>
    obtain ⟨gameId, held, -⟩ := sound.boundGame_eq_some reads bound
    exact modest.games gameId old held named
  | signed gameId body old updated loaded granted =>
    have held := (sound.loadGame_eq_some reads).1 loaded
    have continues := (Bookkeeping.continues_of_sign granted).1
    rw [continues.entropy]
    exact modest.games gameId old held (continues.label.symm.trans named)

theorem Modest.handle : Modest label (handle rules crypto reader secrets host store origin request).1 where
  key := by
    rw [label_kept (.inl rfl) modest.key]
    exact modest.key
  quality := by
    rw [label_kept (.inr (.inr rfl)) modest.key]
    exact modest.quality
  games gameId other held named := by
    rcases handle_store rules crypto reader secrets host store origin request with
      same | ⟨label', caller, seed, quality, -, absent, -, made⟩ | ⟨record, grant, written⟩
    · rw [same] at held
      exact modest.games gameId other held named
    · rw [made, storeKey_game] at held
      exact modest.games gameId other held named
    · rw [written] at held
      by_cases here : gameId = record.gameId crypto
      · subst here
        rw [storeGame_game] at held
        split_ifs at held
        · obtain rfl := GameRecord.encode_injective (Option.some.inj held)
          exact modest.grant sound reads grant named
        · exact modest.games _ other held named
      · rw [storeGame_game_ne _ _ _ _ here] at held
        exact modest.games gameId other held named

theorem Modest.summary {shown : GameSummary}
    (listed : Delegate.summary crypto secrets store origin label = some shown) :
    shown.entropy ≠ some .hostBacked := by
  unfold Delegate.summary at listed
  split_ifs at listed
  obtain ⟨seed, -, rfl⟩ := Option.map_eq_some_iff.1 listed
  cases bound : boundGame secrets store label with
  | some record =>
    obtain ⟨gameId, held, named⟩ := sound.boundGame_eq_some reads bound
    simp [modest.games gameId record held named]
  | none =>
    rcases modest.loadQuality reads with none' | degraded
    · simp [none']
    · simp [degraded]

theorem Modest.plain : Plain label (Delegate.handle rules crypto reader secrets host store origin request).2 := by
  cases request with
  | createGameKey label' caller =>
    rw [Delegate.handle]
    rcases handleCreateGameKey_cases crypto host store origin label' caller with
      ⟨refusal, refused⟩ | ⟨seed, quality, absent, -, made⟩
    · rw [refused]
      exact plain_refused refusal
    · rw [made]
      refine Plain.afterWrites _ ⟨fun publicKey same => ?_, (fun games same => by cases same)⟩
      obtain ⟨rfl, -, -⟩ := Response.gameKey.inj same
      exact modest.key absent
  | bindGame label' params contract =>
    rw [Delegate.handle]
    rcases handleBindGame_cases crypto secrets host store origin label' params contract with
      ⟨refusal, refused⟩ | ⟨record, -, -, bound⟩
    · rw [refused]
      exact plain_refused refusal
    · rw [bound]
      exact Plain.afterWrites _ (plain_bound _)
  | rebind label' contract =>
    rw [Delegate.handle]
    rcases handleRebindGame_cases crypto secrets host store origin label' contract with
      ⟨refusal, refused⟩ | ⟨record, -, -, bound⟩
    · rw [refused]
      exact plain_refused refusal
    · rw [bound]
      exact Plain.afterWrites _ (plain_bound _)
  | sign gameId body =>
    rw [Delegate.handle]
    rcases handleSign_cases rules crypto reader secrets host store origin gameId body with
      ⟨refusal, refused⟩ | ⟨old, seed, updated, -, -, -, signed⟩
    · rw [refused]
      exact plain_refused refusal
    · rw [signed]
      exact Plain.afterWrites _ ⟨(fun publicKey same => by cases same), (fun games same => by cases same)⟩
  | listGames =>
    refine ⟨(fun publicKey same => by cases same), fun games same shown member named => ?_⟩
    obtain rfl := Response.games.inj same
    obtain ⟨label', -, listed⟩ := List.mem_filterMap.1 member
    obtain rfl : label' = label := (label_of_summary listed).symm.trans named
    exact modest.summary sound reads listed

end Kept

structure Derived (rules : Rules) (crypto : Crypto) (reader : Reader) (secrets : SecretReader) (label : String)
    (store : Store) (call : Call) : Prop where
  dead : classifyHostEntropy call.host.draws.1 call.host.draws.2 = .dead
  absent : store[keySecret label]? = none
  present : (handle rules crypto reader secrets call.host store call.origin call.request).1[keySecret label]? ≠ none

section Origin
variable {call : Call}

theorem Derived.created (derived : Derived rules crypto reader secrets label store call) :
    ∃ caller seed, call.request = .createGameKey label caller ∧
      deriveSeed crypto .dead caller label = .ok (seed, .degraded) ∧
      (handle rules crypto reader secrets call.host store call.origin call.request).1 =
        (storeKey call.host store call.origin label seed .degraded).store := by
  obtain ⟨dead, absent, present⟩ := derived
  rcases handle_store rules crypto reader secrets call.host store call.origin call.request with
    same | ⟨label', caller, seed, quality, asked, absent', made, written⟩ | ⟨record, -, written⟩
  · rw [same] at present
    exact absurd absent present
  · rw [dead] at made
    obtain rfl := (deriveSeed_dead made).1
    by_cases own : label = label'
    · subst own
      exact ⟨caller, seed, asked, made, written⟩
    · rw [written, storeKey_kept (.inl rfl) _ _ _ _ _ own] at present
      exact absurd absent present
  · rw [written, storeGame_kept (.inl rfl)] at present
    exact absurd absent present

theorem Derived.modest (sound : Sound crypto ⟨store, released⟩) (ungraded : Ungraded store)
    (derived : Derived rules crypto reader secrets label store call) :
    Modest label (handle rules crypto reader secrets call.host store call.origin call.request).1 := by
  obtain ⟨caller, seed, -, -, written⟩ := derived.created
  refine ⟨derived.present, ?_, ?_⟩
  · rw [written]
    rcases storeKey_quality call.host store call.origin label seed .degraded with kept | ⟨-, graded⟩
    · exact .inl (kept.trans (ungraded label derived.absent))
    · exact .inr graded
  · intro gameId record held named
    rw [written, storeKey_game] at held
    obtain ⟨other, equal, -, -, seed', key⟩ := sound.games gameId _ held
    obtain rfl := GameRecord.encode_injective equal
    rw [named, derived.absent] at key
    cases key

theorem Derived.plain (derived : Derived rules crypto reader secrets label store call) :
    Plain label (handle rules crypto reader secrets call.host store call.origin call.request).2 := by
  obtain ⟨caller, seed, asked, made, -⟩ := derived.created
  rw [asked, handle]
  rcases handleCreateGameKey_cases crypto call.host store call.origin label caller with
    ⟨refusal, refused⟩ | ⟨seed', quality, -, made', answered⟩
  · rw [refused]
    exact plain_refused refusal
  · rw [derived.dead, made] at made'
    obtain ⟨-, rfl⟩ := Prod.mk.inj (Except.ok.inj made')
    rw [answered]
    exact Plain.afterWrites _ ⟨(fun publicKey same => by cases same), (fun games same => by cases same)⟩

end Origin

theorem modest_foldl (reads : secrets.RoundTrips) (calls : List Call) (session : Session)
    (sound : Sound crypto session) (modest : Modest label session.store) :
    Modest label (calls.foldl (step rules crypto reader secrets) session).store := by
  induction calls generalizing session with
  | nil => exact modest
  | cons call rest ih => exact ih _ (sound_step reads sound call) (modest.handle sound reads)

theorem serve_append (before calls : List Call) : serve rules crypto reader secrets (before ++ calls) =
    calls.foldl (step rules crypto reader secrets) (serve rules crypto reader secrets before) :=
  List.foldl_append

theorem handleCreateGameKey_dead (dead : classifyHostEntropy host.draws.1 host.draws.2 = .dead)
    (nothing : ∀ bytes, caller = some bytes → bytes = zeros) :
    ∃ refusal, handleCreateGameKey crypto host store origin label caller = (store, .refused refusal) := by
  rcases handleCreateGameKey_cases crypto host store origin label caller with
    refused | ⟨seed, quality, -, made, -⟩
  · exact refused
  · rw [dead] at made
    obtain ⟨-, bytes, given, nonzero⟩ := deriveSeed_dead made
    exact absurd (nothing bytes given) nonzero

/-- A label whose seed was derived without a host source is never reported as backed by the
host: not in the answer to its caller nor in any answer later, and not in a stored game
record, whatever is asked in between and whichever writes fail. And without a host source
and with nothing, or zeros, from the caller, nothing is stored. -/
theorem quality_not_overstated (rules : Rules) (crypto : Crypto) (reader : Reader) (secrets : SecretReader)
    (reads : secrets.RoundTrips) :
    (∀ (before after : List Call) (call : Call) (label : String),
      Derived rules crypto reader secrets label (serve rules crypto reader secrets before).store call →
        Plain label (handle rules crypto reader secrets call.host (serve rules crypto reader secrets before).store
          call.origin call.request).2 ∧
        (∀ (gameId : GameId) (record : GameRecord),
          (serve rules crypto reader secrets (before ++ call :: after)).store[gameSecret gameId]? =
            some record.encode → record.label = label → record.entropy ≠ .hostBacked) ∧
        ∀ last : Call, Plain label (handle rules crypto reader secrets last.host
          (serve rules crypto reader secrets (before ++ call :: after)).store last.origin last.request).2) ∧
    ∀ (host : Host) (store : Store) (origin : Option Bytes32) (label : String) (caller : Option Bytes32),
      classifyHostEntropy host.draws.1 host.draws.2 = .dead → (∀ bytes, caller = some bytes → bytes = zeros) →
        ∃ refusal, handle rules crypto reader secrets host store origin (.createGameKey label caller) =
          (store, .refused refusal) := by
  refine ⟨fun before after call label derived => ?_, ?_⟩
  · have sound : Sound crypto (serve rules crypto reader secrets before) := sound_serve reads before
    have made := derived.modest sound (ungraded_serve before)
    have modest : Modest label (serve rules crypto reader secrets (before ++ call :: after)).store := by
      rw [serve_append]
      exact modest_foldl reads after _ (sound_step reads sound call) made
    have sound' : Sound crypto (serve rules crypto reader secrets (before ++ call :: after)) := sound_serve reads _
    refine ⟨derived.plain, fun gameId record held named => ?_, fun last => modest.plain sound' reads⟩
    rw [modest.games gameId record held named]
    decide
  · intro host store origin label caller dead nothing
    exact handleCreateGameKey_dead dead nothing

/-- For a key made from the caller's bytes alone, in the list after a game was bound. -/
theorem quality_not_overstated_listed : Plain "white" (handle Sample.rules Sample.crypto Reader.exact
    SecretReader.exact sampleHost (serve Sample.rules Sample.crypto Reader.exact SecretReader.exact
      [⟨sampleHost, none, .createGameKey "white" (some Sample.whiteKey)⟩,
        ⟨sampleHost, none, .bindGame "white" sampleParams zeros⟩]).store none .listGames).2 := by
  have derived : Derived Sample.rules Sample.crypto Reader.exact SecretReader.exact "white" ∅
      ⟨sampleHost, none, .createGameKey "white" (some Sample.whiteKey)⟩ := by
    refine ⟨by decide, by simp, ?_⟩
    rw [handle, sampleKeyed_create]
    simp [sampleKeyed]
  exact ((quality_not_overstated Sample.rules Sample.crypto Reader.exact SecretReader.exact
    SecretReader.exact_roundTrips).1 [] _ _ "white" derived).2.2 ⟨sampleHost, none, .listGames⟩

end Adjourn.Quality
