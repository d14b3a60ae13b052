import Adjourn.Draws
import Adjourn.Sync
import Adjourn.Takeback

/-! Peers in sync. Sync compares normal forms while a client projects the stored bytes
as they are: forfeits, resignations, the chain and the board agree, and draw statements
agree exactly where eviction keeps one that counts. -/

namespace Adjourn.InSync
open Std (ExtTreeMap)
open Cbor OrderedMap TopK NormalForm GameState Contract

variable {rules : Rules} {crypto : Crypto} {reader : Reader} {params : GameParams} {records : Set Record}
  {offers : List Record} {state other : GameState} {color : Color}

section Universe
variable (free : crypto.CollisionFree (Record.idInput '' records))
  (inside : ∀ rec ∈ offers, rec ∈ records)
include free inside

theorem resignedBy_iff (between : Between crypto params offers state) :
    state.resignedBy params color = true ↔
      ∃ rec ∈ offers, rec.verify crypto params = true ∧ rec.body = .resign ∧
        rec.color params = some color := by
  simp only [resignedBy, List.any_eq_true, mem_valuesOf, decide_eq_true_eq]
  constructor
  · rintro ⟨rec, ⟨id, held⟩, body, owner⟩
    obtain ⟨-, valid, member⟩ := between.sound id rec held
    exact ⟨rec, member, valid, body, owner⟩
  · rintro ⟨rec, member, valid, body, owner⟩
    have ungrouped : groupOf rec = none := by simp [groupOf, body, Body.ply]
    have kept : rec.id crypto ∈ cut (groupIn crypto params offers) (fun group => group.kind.k)
        (offerIds crypto params offers) := by
      refine mem_cut.2 ⟨mem_offerIds.2 ⟨rec, member, valid, rfl⟩, ?_⟩
      simp [groupIn_of_mem free inside member valid, ungrouped]
    obtain ⟨rec', held, signers, bodies⟩ := between.exists_held free inside member kept
    exact ⟨rec', ⟨_, held⟩, bodies.trans body, by rw [Record.color, signers]; exact owner⟩

theorem same_view (first : Between crypto params offers state) (second : Between crypto params offers other) :
    state.doubleSigned params = other.doubleSigned params ∧
      state.finalWalk rules crypto params = other.finalWalk rules crypto params ∧
      state.resigned params = other.resigned params := by
  have doubled : ∀ color ply, state.Doubled params color ply ↔ other.Doubled params color ply :=
    fun color ply => (first.doubled_iff free inside).trans (second.doubled_iff free inside).symm
  have frauds := doubleSigned_congr doubled
  refine ⟨frauds, ?_, ?_⟩
  · have early : ∀ w : Walk rules,
        (∀ stop ∈ (other.doubleSigned params).map Fraud.firstPly, w.ply < stop) →
          ∀ color, ¬other.Doubled params color w.ply := by
      intro w before color bad
      obtain ⟨fraud, found⟩ := Option.isSome_iff_exists.1 (doubleSigned_isSome.2 ⟨color, w.ply, bad⟩)
      have late := before fraud.firstPly (by simp [found])
      exact absurd ((proven_of_doubleSigned found).least color w.ply bad) (not_le.2 late)
    have steps : walkStep rules state params ((other.doubleSigned params).map Fraud.firstPly) =
        walkStep rules other params ((other.doubleSigned params).map Fraud.firstPly) := by
      funext w
      refine Option.ext fun w' => ?_
      simp only [walkStep_eq_some]
      refine and_congr_right fun _ => and_congr_right fun before => ?_
      have clean := early w before
      have clean' : ∀ color, ¬state.Doubled params color w.ply :=
        fun color bad => clean color ((doubled color _).1 bad)
      refine exists_congr fun id => exists_congr fun mv => and_congr_left fun _ =>
        ⟨fun unique => ?_, fun unique => ?_⟩
      · exact Takeback.candidates_eq free inside second clean (fun _ member => member) first unique
      · exact Takeback.candidates_eq free inside first clean' (fun _ member => member) second unique
    rw [finalWalk, finalWalk, frauds, walk, walk, steps]
  · have same : ∀ color, state.resignedBy params color = other.resignedBy params color := fun color =>
      Bool.eq_iff_iff.2 ((resignedBy_iff free inside first).trans (resignedBy_iff free inside second).symm)
    rw [resigned, resigned, same, same]

end Universe

section View
variable (rules : Rules) (crypto : Crypto) (params : GameParams) (state : GameState)

/-- Where a draw statement counts, one that counts is first in its group: a claim, or
failing any claim an acceptance together with its offer. -/
def DrawsKept : Prop :=
  (state.Grounded rules crypto params ∧ (∃ id, state.LiveClaim rules crypto params id) →
    state.ForemostClaim rules crypto params) ∧
  (¬(state.Grounded rules crypto params ∧ ∃ id, state.LiveClaim rules crypto params id) →
    (∃ id offer, state.LiveAccept rules crypto params id offer) → state.ForemostPair rules crypto params)

end View

theorem decision_eq_iff_draws (frauds : state.doubleSigned params = other.doubleSigned params)
    (walks : state.finalWalk rules crypto params = other.finalWalk rules crypto params)
    (resignations : state.resigned params = other.resigned params) :
    (state.project rules crypto params).decision = (other.project rules crypto params).decision ↔
      (state.Undecided rules crypto params →
        ((state.Grounded rules crypto params ∧ ∃ id, state.LiveClaim rules crypto params id) ↔
          other.Grounded rules crypto params ∧ ∃ id, other.LiveClaim rules crypto params id) ∧
        (¬(state.Grounded rules crypto params ∧ ∃ id, state.LiveClaim rules crypto params id) →
          ((∃ id offer, state.LiveAccept rules crypto params id offer) ↔
            ∃ id offer, other.LiveAccept rules crypto params id offer))) := by
  rw [decision_eq_iff frauds walks resignations, isSome_liveClaim, isSome_liveClaim, liveClaim_eq_none,
    Bool.eq_iff_iff, liveAgreement_iff, liveAgreement_iff]

section Universe
variable (free : crypto.CollisionFree (Record.idInput '' records))
include free

theorem filterValid_eq_evict (keyed : state.Keyed crypto) (valid : state.allValid crypto params = true)
    (inside : ∀ rec ∈ valuesOf state.records, rec ∈ records) :
    state.filterValid crypto params = state.evict :=
  (Convergence.represents_filterValid free inside).unique ((Between.start keyed valid).evict free inside)

theorem view_filterValid (keyed : state.Keyed crypto) (valid : state.allValid crypto params = true)
    (inside : ∀ rec ∈ valuesOf state.records, rec ∈ records) :
    state.doubleSigned params = (state.filterValid crypto params).doubleSigned params ∧
      state.finalWalk rules crypto params = (state.filterValid crypto params).finalWalk rules crypto params ∧
      state.resigned params = (state.filterValid crypto params).resigned params :=
  same_view free inside (Between.start keyed valid) (Convergence.represents_filterValid free inside).between

/-- A stored state is decided like its normal form exactly where eviction keeps a draw
statement that counts. -/
theorem decision_filterValid_iff (keyed : state.Keyed crypto)
    (valid : state.allValid crypto params = true)
    (inside : ∀ rec ∈ valuesOf state.records, rec ∈ records) :
    (state.project rules crypto params).decision =
        ((state.filterValid crypto params).project rules crypto params).decision ↔
      (state.Undecided rules crypto params → DrawsKept rules crypto params state) := by
  obtain ⟨frauds, walks, resignations⟩ := view_filterValid free keyed valid inside
  rw [decision_eq_iff_draws frauds walks resignations]
  rw [filterValid_eq_evict free keyed valid inside] at walks ⊢
  rw [liveClaim_evict walks.symm, liveAccept_evict walks.symm, DrawsKept]
  refine forall_congr' fun _ => ?_
  constructor
  · rintro ⟨claims, accepts⟩
    exact ⟨claims.1, fun silent => (accepts silent).1⟩
  · rintro ⟨claims, accepts⟩
    refine ⟨⟨claims, ?_⟩, fun silent => ⟨accepts silent, ?_⟩⟩
    · rintro ⟨grounded, id, live, -⟩
      exact ⟨grounded, id, live⟩
    · rintro ⟨id, offer, live, -⟩
      exact ⟨id, offer, live⟩

end Universe

def fetchState (crypto : Crypto) (reader : Reader) (bytes : Bytes) : Option GameState :=
  if bytes.isEmpty then some .empty else GameState.decode crypto reader bytes

theorem fetchState_eq_some {bytes : Bytes} :
    fetchState crypto reader bytes = some state ↔ decodeState crypto reader bytes = .ok state := by
  unfold fetchState decodeState GameState.decode
  split_ifs with nothing
  · rw [Option.some.injEq, Except.ok.injEq]
  · cases GameState.deserialize crypto reader bytes <;> simp [Except.mapError, Except.toOption]

theorem fetchState_encode (reads : reader.RoundTrips) (keyed : state.Keyed crypto) :
    fetchState crypto reader state.encode = some state :=
  fetchState_eq_some.2 (decodeState_encode reads keyed)

section Bytes
variable {parameters bytes : Bytes} (read : decodeParams reader parameters = .ok params)
include read

theorem accepted (accepts : validateState crypto reader parameters bytes = .ok .valid) :
    ∃ state, decodeState crypto reader bytes = .ok state ∧ fetchState crypto reader bytes = some state ∧
      state.Keyed crypto ∧ state.allValid crypto params = true := by
  unfold validateState at accepts
  cases nothing : bytes.isEmpty with
  | true => exact ⟨.empty, by simp [decodeState, nothing], by simp [fetchState, nothing], keyed_empty _, rfl⟩
  | false =>
    rw [nothing, if_neg Bool.false_ne_true, read] at accepts
    cases decodes : decodeState crypto reader bytes with
    | error fault => simp [decodes, bind, Except.bind] at accepts
    | ok state =>
      simp only [decodes, bind, Except.bind, pure, Except.pure, Except.ok.injEq] at accepts
      have valid : state.allValid crypto params = true := by
        by_contra invalid
        simp [invalid] at accepts
      exact ⟨state, rfl, fetchState_eq_some.2 decodes, keyed_decodeState decodes, valid⟩

/-- A summary names every id of the normal form with the digest of its signature, so
equal summaries are equal normal forms. -/
theorem filterValid_eq_of_summary {bytes' : Bytes}
    (free : crypto.CollisionFree (Record.idInput '' records))
    (digests : crypto.CollisionFree (Record.sigDigestInput '' records))
    (inside : ∀ rec ∈ valuesOf state.records, rec ∈ records)
    (inside' : ∀ rec ∈ valuesOf other.records, rec ∈ records)
    (decodes : decodeState crypto reader bytes = .ok state)
    (decodes' : decodeState crypto reader bytes' = .ok other)
    (same : summarizeState crypto reader parameters bytes = summarizeState crypto reader parameters bytes') :
    state.filterValid crypto params = other.filterValid crypto params := by
  rw [summarizeState_eq read decodes, summarizeState_eq read decodes'] at same
  have summaries := Summary.encode_injective (Except.ok.inj same)
  have mine : Represents crypto params _ _ := Convergence.represents_filterValid free inside
  have theirs : Represents crypto params _ _ := Convergence.represents_filterValid free inside'
  refine ext_getElem? fun id => ?_
  have entry := congrArg (fun summary : Summary => summary[id]?) summaries
  simp only [Sync.getElem?_summarize] at entry
  cases held : (state.filterValid crypto params).records[id]? with
  | none => simpa [held, eq_comm] using entry
  | some rec =>
    rw [held, Option.map_some, eq_comm, Option.map_eq_some_iff] at entry
    obtain ⟨rec', held', digest⟩ := entry
    obtain ⟨own, -, member⟩ := mine.between.sound id rec held
    obtain ⟨own', -, member'⟩ := theirs.between.sound id rec' held'
    have known := inside rec member
    have known' := inside' rec' member'
    have sigs := Record.sigDigestInput_inj (digests ⟨rec', known', rfl⟩ ⟨rec, known, rfl⟩ digest)
    rw [held', eq_of_id free known' known (own'.trans own.symm) sigs]

end Bytes

/-- A stored state and its normal form, and two stored states with one summary, always
project to the same chain, ply and position; they are decided alike exactly where their
draw statements agree, which for a state and its normal form is where eviction keeps
one that counts. -/
theorem in_sync_iff (rules : Rules) (crypto : Crypto) (reader : Reader) (parameters : Bytes)
    (params : GameParams) (records : Set Record) (read : decodeParams reader parameters = .ok params)
    (free : crypto.CollisionFree (Record.idInput '' records))
    (digests : crypto.CollisionFree (Record.sigDigestInput '' records)) :
    (∀ state : GameState, state.Keyed crypto → state.allValid crypto params = true →
      (∀ rec ∈ valuesOf state.records, rec ∈ records) →
      (state.project rules crypto params).chain =
          ((state.filterValid crypto params).project rules crypto params).chain ∧
        (state.project rules crypto params).ply =
          ((state.filterValid crypto params).project rules crypto params).ply ∧
        (state.project rules crypto params).fen =
          ((state.filterValid crypto params).project rules crypto params).fen ∧
        ((state.project rules crypto params).decision =
            ((state.filterValid crypto params).project rules crypto params).decision ↔
          (state.Undecided rules crypto params → DrawsKept rules crypto params state))) ∧
    (∀ (stored stored' : Bytes) (state other : GameState),
      validateState crypto reader parameters stored = .ok .valid →
      validateState crypto reader parameters stored' = .ok .valid →
      summarizeState crypto reader parameters stored = summarizeState crypto reader parameters stored' →
      fetchState crypto reader stored = some state → fetchState crypto reader stored' = some other →
      (∀ rec ∈ valuesOf state.records ++ valuesOf other.records, rec ∈ records) →
      (state.project rules crypto params).chain = (other.project rules crypto params).chain ∧
        (state.project rules crypto params).ply = (other.project rules crypto params).ply ∧
        (state.project rules crypto params).fen = (other.project rules crypto params).fen ∧
        ((state.project rules crypto params).decision = (other.project rules crypto params).decision ↔
          (state.Undecided rules crypto params →
            ((state.Grounded rules crypto params ∧ ∃ id, state.LiveClaim rules crypto params id) ↔
              other.Grounded rules crypto params ∧ ∃ id, other.LiveClaim rules crypto params id) ∧
            (¬(state.Grounded rules crypto params ∧ ∃ id, state.LiveClaim rules crypto params id) →
              ((∃ id offer, state.LiveAccept rules crypto params id offer) ↔
                ∃ id offer, other.LiveAccept rules crypto params id offer))))) := by
  constructor
  · intro state keyed valid inside
    obtain ⟨-, walks, -⟩ : _ ∧ state.finalWalk rules crypto params = _ ∧ _ :=
      view_filterValid free keyed valid inside
    obtain ⟨chains, plies, fens⟩ := project_eq_of_walk walks
    exact ⟨chains, plies, fens, decision_filterValid_iff free keyed valid inside⟩
  · intro stored stored' state other accepts accepts' same fetched fetched' inside
    obtain ⟨inA, inB⟩ := List.forall_mem_append.1 inside
    obtain ⟨a, decodes, fetchedA, keyed, valid⟩ := accepted read accepts
    obtain ⟨b, decodes', fetchedB, keyed', valid'⟩ := accepted read accepts'
    obtain rfl : a = state := Option.some.inj (fetchedA.symm.trans fetched)
    obtain rfl : b = other := Option.some.inj (fetchedB.symm.trans fetched')
    obtain ⟨frauds, walks, resignations⟩ : _ ∧ a.finalWalk rules crypto params = _ ∧ _ :=
      view_filterValid free keyed valid inA
    obtain ⟨frauds', walks', resignations'⟩ : _ ∧ b.finalWalk rules crypto params = _ ∧ _ :=
      view_filterValid free keyed' valid' inB
    rw [filterValid_eq_of_summary read free digests inA inB decodes decodes' same] at frauds walks resignations
    have walks := walks.trans walks'.symm
    obtain ⟨chains, plies, fens⟩ := project_eq_of_walk walks
    exact ⟨chains, plies, fens,
      decision_eq_iff_draws (frauds.trans frauds'.symm) walks (resignations.trans resignations'.symm)⟩

theorem crowded_free : Sample.crypto.CollisionFree
    (Record.idInput '' {rec | rec ∈ [Sample.offer, Sample.decoy, Sample.acceptance]}) :=
  Sample.collisionFree_image _ _ (by decide +kernel)

theorem crowded_inside : ∀ rec ∈ valuesOf Sample.crowded.records,
    rec ∈ {rec | rec ∈ [Sample.offer, Sample.decoy, Sample.acceptance]} := by
  decide +kernel

/-- Two peers store an accepted draw, one with a second offer that evicts the accepted
one. Both states validate and have one summary; the clients see a draw and an open game. -/
theorem in_sync_crowded :
    validateState Sample.crypto Reader.exact Sample.params.encode Sample.crowded.encode = .ok .valid ∧
    validateState Sample.crypto Reader.exact Sample.params.encode
      (Sample.crowded.filterValid Sample.crypto Sample.params).encode = .ok .valid ∧
    summarizeState Sample.crypto Reader.exact Sample.params.encode Sample.crowded.encode =
      summarizeState Sample.crypto Reader.exact Sample.params.encode
        (Sample.crowded.filterValid Sample.crypto Sample.params).encode ∧
    (fetchState Sample.crypto Reader.exact Sample.crowded.encode).map (fun state =>
      (state.project Sample.rules Sample.crypto Sample.params).decision) =
        some (some ⟨none, .drawAgreement⟩) ∧
    (fetchState Sample.crypto Reader.exact
      (Sample.crowded.filterValid Sample.crypto Sample.params).encode).map (fun state =>
        (state.project Sample.rules Sample.crypto Sample.params).decision) = some none := by
  have reads := Reader.exact_roundTrips
  have read := decodeParams_encode reads Sample.params
  have keyed : Sample.crowded.Keyed Sample.crypto :=
    (((keyed_empty _).absorbForTest _).absorbForTest _).absorbForTest _
  have valid : Sample.crowded.allValid Sample.crypto Sample.params = true := by decide +kernel
  have normal : Represents Sample.crypto Sample.params _ _ :=
    Convergence.represents_filterValid crowded_free crowded_inside
  refine ⟨validateState_encode reads read keyed valid,
    validateState_encode reads read normal.keyed normal.allValid, ?_, ?_, ?_⟩
  · rw [summarizeState_eq read (decodeState_encode reads keyed),
      summarizeState_eq read (decodeState_encode reads normal.keyed),
      Sync.Represents.filterValid_eq crowded_free crowded_inside normal]
  · rw [fetchState_encode reads keyed]
    decide +kernel
  · rw [fetchState_encode reads normal.keyed]
    decide +kernel

theorem in_sync_iff_crowded :
    (Sample.crowded.project Sample.rules Sample.crypto Sample.params).decision =
        ((Sample.crowded.filterValid Sample.crypto Sample.params).project
          Sample.rules Sample.crypto Sample.params).decision ↔
      (Sample.crowded.Undecided Sample.rules Sample.crypto Sample.params →
        DrawsKept Sample.rules Sample.crypto Sample.params Sample.crowded) := by
  refine ((in_sync_iff Sample.rules Sample.crypto Reader.exact Sample.params.encode Sample.params
    {rec | rec ∈ [Sample.offer, Sample.decoy, Sample.acceptance]}
    (decodeParams_encode Reader.exact_roundTrips Sample.params) crowded_free
    (Sample.collisionFree_image _ _ (by decide +kernel))).1 Sample.crowded ?_ ?_ crowded_inside).2.2.2
  · exact (((keyed_empty _).absorbForTest _).absorbForTest _).absorbForTest _
  · decide +kernel

end Adjourn.InSync
