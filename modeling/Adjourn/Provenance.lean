import Adjourn.Binding
import Adjourn.Origins

/-! Where a released signature and a game record come from: the request they answer, and who
asked. -/

namespace Adjourn.Provenance
open Cbor OrderedMap NormalForm Delegate Signing Origins

variable {rules : Rules} {crypto : Crypto} {reader : Reader} {secrets : SecretReader} {calls : List Call}
  {entry : GameId × Record}

/-- The call that an entry answers, between those served before it and those after it. -/
def Answers (rules : Rules) (crypto : Crypto) (reader : Reader) (secrets : SecretReader)
    (earlier : List Call) (call : Call) (entry : GameId × Record) : Prop :=
  call.request = .sign entry.1 entry.2.body ∧
    (handleSign rules crypto reader secrets call.host (serve rules crypto reader secrets earlier).store
      call.origin entry.1 entry.2.body).2 = .signed entry.2

theorem serve_append (earlier later : List Call) :
    serve rules crypto reader secrets (earlier ++ later) =
      later.foldl (step rules crypto reader secrets) (serve rules crypto reader secrets earlier) := by
  rw [serve, List.foldl_append]
  rfl

theorem released_step (session : Session) (call : Call) :
    (step rules crypto reader secrets session call).released = session.released ++ answered call.request
      (handle rules crypto reader secrets call.host session.store call.origin call.request).2 := rfl

theorem released_grows (earlier later : List Call) :
    (serve rules crypto reader secrets earlier).released <+:
      (serve rules crypto reader secrets (earlier ++ later)).released := by
  induction later using List.reverseRecOn with
  | nil => rw [List.append_nil]
  | append_singleton later call ih =>
    rw [← List.append_assoc, serve_append]
    exact ih.trans (List.prefix_append _ _)

theorem answers_of_step {earlier : List Call} {call : Call} (member : entry ∈ answered call.request
    (handle rules crypto reader secrets call.host (serve rules crypto reader secrets earlier).store call.origin
      call.request).2) : Answers rules crypto reader secrets earlier call entry := by
  obtain ⟨host, origin, request⟩ := call
  cases request with
  | sign gameId body =>
    have answer : handle rules crypto reader secrets host (serve rules crypto reader secrets earlier).store
        origin (.sign gameId body) =
      handleSign rules crypto reader secrets host (serve rules crypto reader secrets earlier).store origin
        gameId body := rfl
    dsimp only at member
    rw [answer] at member
    cases response : (handleSign rules crypto reader secrets host
        (serve rules crypto reader secrets earlier).store origin gameId body).2 with
    | signed rec =>
      rw [response, answered, List.mem_singleton] at member
      obtain ⟨old, seed, updated, -, -, -, made⟩ := handleSign_signed response
      have body_eq : rec.body = body := by rw [made]; rfl
      subst member
      refine ⟨by rw [body_eq], ?_⟩
      rw [body_eq]
      exact response
    | _ => simp [response, answered] at member
  | _ => simp [answered] at member

theorem exists_answers (released : entry ∈ (serve rules crypto reader secrets calls).released) :
    ∃ earlier call later, calls = earlier ++ call :: later ∧
      Answers rules crypto reader secrets earlier call entry := by
  induction calls using List.reverseRecOn with
  | nil => simp [serve] at released
  | append_singleton calls call ih =>
    rw [serve_append] at released
    rcases List.mem_append.1 released with early | new
    · obtain ⟨earlier, other, later, rfl, answers⟩ := ih early
      exact ⟨earlier, other, later ++ [call], by simp, answers⟩
    · exact ⟨calls, call, [], rfl, answers_of_step new⟩

section Games
variable {host : Host} {store : Store} {origin : Option Bytes32} {request : Request} {gameId : GameId}
  {record written : GameRecord}

theorem record_of_storeGame
    (held : (storeGame crypto host store written).store[gameSecret gameId]? = some record.encode) :
    record = written ∨ store[gameSecret gameId]? = some record.encode := by
  by_cases same : gameId = written.gameId crypto
  · subst same
    rw [storeGame_game] at held
    split_ifs at held
    · exact .inl (GameRecord.encode_injective (Option.some.inj held)).symm
    · exact .inr held
  · rw [storeGame_game_ne host store written crypto same] at held
    exact .inr held

theorem params_of_handle {released : List (GameId × Record)} (sound : Sound crypto ⟨store, released⟩)
    (reads : secrets.RoundTrips) (held : (handle rules crypto reader secrets host store origin request).1[gameSecret
      gameId]? = some record.encode) :
    (∃ (other : GameId) (old : GameRecord), store[gameSecret other]? = some old.encode ∧ record.params = old.params) ∨
      ∃ label contract, request = .bindGame label record.params contract := by
  have kept : store[gameSecret gameId]? = some record.encode → ∃ (other : GameId) (old : GameRecord),
      store[gameSecret other]? = some old.encode ∧ record.params = old.params :=
    fun before => ⟨gameId, record, before, rfl⟩
  cases request with
  | createGameKey label caller =>
    rw [handle] at held
    rcases handleCreateGameKey_cases crypto host store origin label caller with
      ⟨refusal, refused⟩ | ⟨seed, quality, -, -, made⟩
    · rw [refused] at held
      exact .inl (kept held)
    · rw [made, afterWrites_fst, storeKey_game] at held
      exact .inl (kept held)
  | bindGame label params contract =>
    rw [handle, Binding.handleBindGame_eq] at held
    cases decided : Binding.recordToBind crypto secrets store origin label params contract with
    | error refusal =>
      rw [decided] at held
      exact .inl (kept held)
    | ok written =>
      rw [decided] at held
      dsimp only at held
      rw [afterWrites_fst] at held
      rcases record_of_storeGame held with rfl | before
      · cases bound : boundGame secrets store label with
        | some old =>
          obtain ⟨rfl, -⟩ := Binding.recordToBind_of_bound bound decided
          obtain ⟨other, there, -⟩ := sound.boundGame_eq_some reads bound
          exact .inl ⟨other, _, there, rfl⟩
        | none =>
          obtain ⟨seed, color, -, -, -, -, rfl⟩ := (Binding.recordToBind_of_unread contract bound).1 decided
          exact .inr ⟨label, contract, rfl⟩
      · exact .inl (kept before)
  | rebind label contract =>
    rw [handle, handleRebindGame] at held
    cases bound : boundGame secrets store label with
    | none =>
      rw [bound] at held
      exact .inl (kept held)
    | some old =>
      obtain ⟨other, there, -⟩ := sound.boundGame_eq_some reads bound
      simp only [bound, decideRebind] at held
      split_ifs at held
      · exact .inl (kept held)
      · exact .inl (kept held)
      · exact .inl (kept held)
      all_goals
        dsimp only at held
        rw [afterWrites_fst] at held
        rcases record_of_storeGame held with rfl | before
        · exact .inl ⟨other, old, there, rfl⟩
        · exact .inl (kept before)
  | sign asked body =>
    rw [handle] at held
    rcases handleSign_cases rules crypto reader secrets host store origin asked body with
      ⟨refusal, refused⟩ | ⟨old, seed, updated, loaded, -, granted, signed⟩
    · rw [refused] at held
      exact .inl (kept held)
    · rw [signed, afterWrites_fst] at held
      rcases record_of_storeGame held with rfl | before
      · have there := (sound.loadGame_eq_some reads).1 loaded
        obtain ⟨-, ⟨same, -⟩ | ⟨ply, parent, uci, -, -, -, -, moved⟩⟩ := decideSign_cases granted
        · exact .inl ⟨asked, old, there, by rw [same]⟩
        · exact .inl ⟨asked, old, there, by rw [moved]⟩
      · exact .inl (kept before)
  | listGames => exact .inl (kept held)

theorem params_requested (reads : secrets.RoundTrips)
    (held : (serve rules crypto reader secrets calls).store[gameSecret gameId]? = some record.encode) :
    ∃ call ∈ calls, ∃ label contract, call.request = .bindGame label record.params contract := by
  induction calls using List.reverseRecOn generalizing gameId record with
  | nil => simp [serve] at held
  | append_singleton calls call ih =>
    rw [serve_append] at held
    rcases params_of_handle (sound_serve reads calls) reads held with
      ⟨other, old, there, same⟩ | ⟨label, contract, asked⟩
    · obtain ⟨call', member, label, contract, asked⟩ := ih there
      exact ⟨call', List.mem_append_left _ member, label, contract, by rw [asked, same]⟩
    · exact ⟨call, List.mem_append_right _ (List.mem_singleton_self _), label, contract, asked⟩

end Games

/-- A statement signed by the key of a label was asked for by the caller that had made the
label, whichever requests were served before and in between. -/
theorem asked_by_maker (reads : secrets.RoundTrips) {earlier later : List Call} {creation : Call} {label : String}
    {caller : Option Bytes32} {publicKey : KeyBytes} {quality : EntropyQuality}
    (free : crypto.CollisionFree (keygenInputs (earlier ++ creation :: later)))
    (distinct : Set.InjOn crypto.verifyingKey (crypto.sha256 '' keygenInputs (earlier ++ creation :: later)))
    (asked : creation.request = .createGameKey label caller)
    (made : (handle rules crypto reader secrets creation.host
      (serve rules crypto reader secrets earlier).store creation.origin creation.request).2 =
        .gameKey label publicKey quality)
    (released : entry ∈ (serve rules crypto reader secrets (earlier ++ creation :: later)).released)
    (signs : entry.2.signer = publicKey) :
    ∃ call ∈ earlier ++ creation :: later,
      call.request = .sign entry.1 entry.2.body ∧ call.origin = creation.origin := by
  have guards : ∀ first rest, earlier ++ creation :: later = first ++ rest →
      Guarded crypto (keygenInputs (earlier ++ creation :: later))
        (serve rules crypto reader secrets first).store ∧
      ∀ label, (serve rules crypto reader secrets first).store[keySecret label]? ≠ none →
        (serve rules crypto reader secrets (earlier ++ creation :: later)).store[keySecret label]? =
            (serve rules crypto reader secrets first).store[keySecret label]? ∧
          loadOwner (serve rules crypto reader secrets (earlier ++ creation :: later)).store label =
            loadOwner (serve rules crypto reader secrets first).store label := by
    intro first rest split
    have early : keygenInputs first ⊆ keygenInputs (earlier ++ creation :: later) :=
      keygenInputs_mono fun call member => split ▸ List.mem_append_left _ member
    have late : keygenInputs rest ⊆ keygenInputs (earlier ++ creation :: later) :=
      keygenInputs_mono fun call member => split ▸ List.mem_append_right _ member
    have guarded : Guarded crypto (keygenInputs (earlier ++ creation :: later))
        (serve rules crypto reader secrets first).store :=
      (guarded_foldl reads first _ sound_start guarded_start early).1
    refine ⟨guarded, ?_⟩
    rw [split, serve_append]
    exact (guarded_foldl reads rest _ (sound_serve reads first) guarded late).2
  -- the label's key and owner, from its creation on
  obtain ⟨guarded, -⟩ := guards earlier (creation :: later) rfl
  obtain ⟨seed, keyed, owned, rfl⟩ := owned_of_made guarded asked made
  have stepped : step rules crypto reader secrets (serve rules crypto reader secrets earlier) creation =
      serve rules crypto reader secrets (earlier ++ [creation]) := (serve_append earlier [creation]).symm
  rw [stepped] at keyed owned
  obtain ⟨guarded', kept⟩ := guards (earlier ++ [creation]) later (by simp)
  obtain ⟨-, owner⟩ := kept label (by simp [keyed])
  obtain ⟨_, creator, known, value⟩ := guarded'.seeds label _ keyed
  -- the key, and the owner, that the request was served with
  obtain ⟨before, call, after, split, request, signed⟩ := exists_answers released
  obtain ⟨old, seed', updated, loaded, seeded, granted, signature⟩ := handleSign_signed signed
  have keys : crypto.verifyingKey seed' = crypto.verifyingKey seed := by
    rw [← signs, signature]
    rfl
  obtain ⟨guarded'', kept'⟩ := guards before (call :: after) split
  have present := loadSeed_eq_some seeded
  obtain ⟨_, creator', known', value'⟩ := guarded''.seeds old.label _ present
  obtain rfl := FixedBytes.val_injective value
  obtain rfl := FixedBytes.val_injective value'
  have labels : old.label = label :=
    label_of_keygenInput (free known' known (distinct ⟨_, known', rfl⟩ ⟨_, known, rfl⟩ keys))
  obtain ⟨-, owner'⟩ := kept' old.label (by simp [present])
  have own := guarded''.origins _ old (((sound_serve reads before).loadGame_eq_some reads).1 loaded)
  refine ⟨call, by rw [split]; simp, request, ?_⟩
  calc call.origin = old.origin := (decideSign_cases granted).1.symm
    _ = loadOwner (serve rules crypto reader secrets before).store old.label := own
    _ = loadOwner (serve rules crypto reader secrets (earlier ++ creation :: later)).store label := by
      rw [← owner', labels]
    _ = creation.origin := owner.trans owned

end Adjourn.Provenance
