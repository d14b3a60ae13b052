import Adjourn.NormalForm
import Adjourn.Sample

/-! A player's records as the rest of the world sees them: what anybody else sends changes
nothing about them, not even a signature. -/

namespace Adjourn.Isolation
open Std (ExtTreeMap)
open OrderedMap TopK NormalForm GameState

def recordsBy (signer : KeyBytes) (state : GameState) : ExtTreeMap RecordId Record :=
  state.records.filter fun _ rec => decide (rec.signer = signer)

/-- What absorbing leaves under an id: the verifying offer with the smallest signature or,
where no offer verifies, the forgery that was there. -/
def Holder (crypto : Crypto) (params : GameParams) (origin : GameState) (offers : List Record)
    (rec : Record) : Prop :=
  Standing crypto params offers rec ∨ origin.records[rec.id crypto]? = some rec ∧
    ∀ other ∈ offers, other.id crypto = rec.id crypto → other.verify crypto params = false

/-- A state on its way from a start that may hold anything. -/
structure Absorbing (crypto : Crypto) (params : GameParams) (origin : GameState) (offers : List Record)
    (state : GameState) : Prop where
  started : ∀ rec ∈ valuesOf origin.records, rec ∈ offers
  holds : ∀ (id : RecordId) (rec : Record), state.records[id]? = some rec ↔
    rec.id crypto = id ∧ Holder crypto params origin offers rec

variable {crypto : Crypto} {params : GameParams} {records : Set Record} {origin state other : GameState}
  {offers offers' batch : List Record} {rec : Record} {signer : KeyBytes} {op op' : Op}

theorem getElem?_recordsBy {id : RecordId} :
    (recordsBy signer state)[id]? = some rec ↔ state.records[id]? = some rec ∧ rec.signer = signer := by
  rw [recordsBy, ExtTreeMap.getElem?_filter', Option.filter_eq_some_iff, decide_eq_true_eq]

theorem recordsBy_congr (same : ∀ (id : RecordId) (rec : Record), rec.signer = signer →
    (state.records[id]? = some rec ↔ other.records[id]? = some rec)) :
    recordsBy signer state = recordsBy signer other := by
  refine ExtTreeMap.ext_getElem? fun id => Option.ext fun rec => ?_
  rw [getElem?_recordsBy, getElem?_recordsBy]
  exact and_congr_left (same id rec)

theorem holder_congr (same : ∀ other : Record, other.verify crypto params = true →
      other.id crypto = rec.id crypto → (other ∈ offers ↔ other ∈ offers')) :
    Holder crypto params origin offers rec ↔ Holder crypto params origin offers' rec := by
  have one : ∀ a b : List Record, (∀ other : Record, other.verify crypto params = true →
      other.id crypto = rec.id crypto → (other ∈ a ↔ other ∈ b)) →
        Holder crypto params origin a rec → Holder crypto params origin b rec := by
    intro a b same holder
    rcases holder with standing | forged
    · obtain ⟨member, valid, smallest⟩ := standing
      exact .inl ⟨(same rec valid rfl).1 member, valid, fun other offered ok own =>
        smallest other ((same other ok own).2 offered) ok own⟩
    · refine .inr ⟨forged.1, fun other offered own => ?_⟩
      by_contra ok
      rw [Bool.not_eq_false] at ok
      exact absurd (forged.2 other ((same other ok own).2 offered) own) (by simp [ok])
  exact ⟨one offers offers' same, one offers' offers fun other ok own => (same other ok own).symm⟩

theorem Absorbing.begin (crypto : Crypto) (params : GameParams) {origin : GameState} (keyed : origin.Keyed crypto) :
    Absorbing crypto params origin (valuesOf origin.records) origin where
  started _ member := member
  holds id rec := by
    constructor
    · intro held
      obtain rfl := keyed id rec held
      have alone : ∀ other ∈ valuesOf origin.records, other.id crypto = rec.id crypto → other = rec := by
        intro other member same
        obtain ⟨id', held'⟩ := mem_valuesOf.1 member
        rw [← keyed id' other held', same, held] at held'
        exact (Option.some.inj held').symm
      refine ⟨rfl, ?_⟩
      by_cases valid : rec.verify crypto params = true
      · exact .inl ⟨mem_valuesOf.2 ⟨_, held⟩, valid, fun other member _ same =>
          (congrArg Record.sig (alone other member same)).ge⟩
      · refine .inr ⟨held, fun other member same => ?_⟩
        rw [alone other member same]
        exact Bool.eq_false_iff.2 valid
    · intro own
      obtain ⟨rfl, standing | forged⟩ := own
      · obtain ⟨id', held⟩ := mem_valuesOf.1 standing.1
        rwa [keyed id' rec held]
      · exact forged.1

theorem Absorbing.eq_iff_holder (absorbing : Absorbing crypto params origin offers state)
    (displaces : state.Displaces crypto params rec) {last : Record} (same : last.id crypto = rec.id crypto) :
    rec = last ↔ Holder crypto params origin (offers ++ [rec]) last := by
  obtain ⟨valid, wins⟩ := displaces
  have beats : ∀ other ∈ offers, other.verify crypto params = true → other.id crypto = rec.id crypto →
      rec.sig < other.sig := by
    intro other offered ok own
    obtain ⟨least, standing, own'⟩ := exists_standing (mem_offerIds.2 ⟨other, offered, ok, own⟩)
    have held := (absorbing.holds (rec.id crypto) least).2 ⟨own', .inl standing⟩
    calc rec.sig < least.sig := (wins least held).2 standing.2.1
      _ ≤ other.sig := standing.2.2 other offered ok (own.trans own'.symm)
  constructor
  · intro equal
    subst equal
    refine .inl ⟨by simp, valid, fun other offered ok own => ?_⟩
    rcases List.mem_append.1 offered with early | late
    · exact (beats other early ok own).le
    · rw [List.mem_singleton.1 late]
  · intro holder
    rcases holder with standing | forged
    · obtain ⟨member, ok, smallest⟩ := standing
      rcases List.mem_append.1 member with early | late
      · have less := beats last early ok same
        exact absurd (smallest rec (by simp) valid same.symm) (not_le.2 less)
      · exact (List.mem_singleton.1 late).symm
    · exact absurd (forged.2 rec (by simp) same.symm) (by simp [valid])

theorem Absorbing.mem_offers (absorbing : Absorbing crypto params origin offers state)
    (holder : Holder crypto params origin offers rec) : rec ∈ offers := by
  rcases holder with standing | forged
  · exact standing.1
  · exact absorbing.started rec (mem_valuesOf.2 ⟨_, forged.1⟩)

section Universe
variable (free : crypto.CollisionFree (Record.idInput '' records))
include free

theorem Absorbing.held_iff_holder (inside : ∀ other ∈ offers ++ [rec], other ∈ records)
    (absorbing : Absorbing crypto params origin offers state) (valid : rec.verify crypto params = true)
    (displaces : ¬state.Displaces crypto params rec) {last : Record} (same : last.id crypto = rec.id crypto) :
    state.records[rec.id crypto]? = some last ↔ Holder crypto params origin (offers ++ [rec]) last := by
  have known := inside rec (by simp)
  obtain ⟨held, atId, stays⟩ := exists_unbeaten valid displaces
  obtain ⟨own, holder⟩ := (absorbing.holds _ held).1 atId
  have offered := absorbing.mem_offers holder
  have known' := inside held (List.mem_append_left _ offered)
  have smaller : held.verify crypto params = true ∧ held.sig ≤ rec.sig := by
    by_cases sigs : held.sig = rec.sig
    · rw [eq_of_id free known' known own sigs]
      exact ⟨valid, le_rfl⟩
    · exact stays sigs
  obtain ⟨ok, le⟩ := smaller
  have standing : Standing crypto params offers held := by
    refine holder.resolve_right fun forged => ?_
    exact absurd (forged.2 held offered rfl) (by simp [ok])
  have least : ∀ other ∈ offers ++ [rec], other.verify crypto params = true →
      other.id crypto = held.id crypto → held.sig ≤ other.sig := by
    intro other member ok' own'
    rcases List.mem_append.1 member with early | late
    · exact standing.2.2 other early ok' own'
    · rw [List.mem_singleton.1 late]
      exact le
  constructor
  · intro atId'
    obtain rfl := Option.some.inj (atId.symm.trans atId')
    exact .inl ⟨List.mem_append_left _ offered, ok, least⟩
  · intro holder'
    rcases holder' with standing' | forged
    · obtain ⟨member, ok', smallest⟩ := standing'
      have sigs : held.sig = last.sig :=
        le_antisymm (least last member ok' (same.trans own.symm))
          (smallest held (List.mem_append_left _ offered) ok (own.trans same.symm))
      rw [atId, eq_of_id free known' (inside last member) (own.trans same.symm) sigs]
    · exact absurd (forged.2 rec (by simp) same.symm) (by simp [valid])

theorem Absorbing.absorb (inside : ∀ other ∈ offers ++ [rec], other ∈ records)
    (absorbing : Absorbing crypto params origin offers state) :
    Absorbing crypto params origin (offers ++ [rec]) (state.absorb crypto params rec) where
  started other member := List.mem_append_left _ (absorbing.started other member)
  holds id last := by
    by_cases valid : rec.verify crypto params = true
    swap
    · have idle : ¬state.Displaces crypto params rec := fun displaces => valid displaces.1
      rw [GameState.absorb_of_not_displaces idle, absorbing.holds]
      refine and_congr_right fun _ => holder_congr fun other ok _ => ?_
      have apart : other ≠ rec := fun same => valid (same ▸ ok)
      simp [apart]
    by_cases same : rec.id crypto = id
    · subst same
      by_cases displaces : state.Displaces crypto params rec
      · rw [GameState.absorb_of_displaces displaces, ExtTreeMap.getElem?_insert_self, Option.some.injEq]
        constructor
        · intro equal
          exact ⟨congrArg (Record.id crypto) equal.symm,
            (absorbing.eq_iff_holder displaces (congrArg (Record.id crypto) equal.symm)).1 equal⟩
        · intro both
          exact (absorbing.eq_iff_holder displaces both.1).2 both.2
      · rw [GameState.absorb_of_not_displaces displaces]
        constructor
        · intro atId
          have own := ((absorbing.holds _ last).1 atId).1
          exact ⟨own, (absorbing.held_iff_holder free inside valid displaces own).1 atId⟩
        · intro both
          exact (absorbing.held_iff_holder free inside valid displaces both.1).2 both.2
    · have elsewhere : (state.absorb crypto params rec).records[id]? = state.records[id]? := by
        by_cases displaces : state.Displaces crypto params rec
        · rw [GameState.absorb_of_displaces displaces, ExtTreeMap.getElem?_insert, if_neg]
          exact fun equal => same (compare_eq_iff_eq.1 equal)
        · rw [GameState.absorb_of_not_displaces displaces]
      rw [elsewhere, absorbing.holds]
      refine and_congr_right fun own => holder_congr fun other ok own' => ?_
      have apart : other ≠ rec := fun equal => same ((equal ▸ own').trans own)
      simp [apart]

theorem Absorbing.absorbAll (batch : List Record) (inside : ∀ other ∈ offers ++ batch, other ∈ records)
    (absorbing : Absorbing crypto params origin offers state) :
    Absorbing crypto params origin (offers ++ batch) (batch.foldl (GameState.absorb crypto params) state) := by
  induction batch generalizing offers state with
  | nil => simpa using absorbing
  | cons rec rest ih =>
    rw [List.foldl_cons, List.append_cons]
    rw [List.append_cons] at inside
    exact ih inside (absorbing.absorb free fun other member => inside other (List.mem_append_left _ member))

end Universe

theorem evict_congr (same : ∀ (id : RecordId) (rec : Record), rec.signer = signer →
    (state.records[id]? = some rec ↔ other.records[id]? = some rec)) (id : RecordId) (rec : Record)
    (own : rec.signer = signer) :
    state.evict.records[id]? = some rec ↔ other.evict.records[id]? = some rec := by
  have one : ∀ a b : GameState, (∀ (id : RecordId) (rec : Record), rec.signer = signer →
      (a.records[id]? = some rec ↔ b.records[id]? = some rec)) → a.evict.records[id]? = some rec →
        b.evict.records[id]? = some rec := by
    intro a b same left
    obtain ⟨held, kept⟩ := getElem?_evict_eq_some.1 left
    have held' := (same id rec own).1 held
    refine getElem?_evict_eq_some.2 ⟨held', mem_cut.2 ⟨mem_ids.2 ⟨rec, held'⟩, fun group atId => ?_⟩⟩
    rw [groupAt_of_get held'] at atId
    have few := (mem_cut.1 kept).2 group ((groupAt_of_get held).trans atId)
    refine (Finset.card_le_card fun rival member => ?_).trans_lt few
    obtain ⟨-, inGroup, less⟩ := Finset.mem_filter.1 member
    obtain ⟨rec', atRival, group'⟩ := Option.bind_eq_some_iff.1 inGroup
    have own' : rec'.signer = signer :=
      (signer_of_groupOf group').symm.trans ((signer_of_groupOf atId).trans own)
    have atRival' := (same rival rec' own').2 atRival
    exact Finset.mem_filter.2 ⟨mem_ids.2 ⟨rec', atRival'⟩, (groupAt_of_get atRival').trans group', less⟩
  exact ⟨one state other same, one other state fun id rec own => (same id rec own).symm⟩

/-- Two calls that bring the same verifying records of a signer leave him with the same
records, whatever else they bring. -/
theorem signer_isolation (crypto : Crypto) (params : GameParams) (state : GameState) (signer : KeyBytes)
    (op op' : Op) (keyed : state.Keyed crypto)
    (free : crypto.CollisionFree
      (Record.idInput '' {rec | rec ∈ valuesOf state.records ++ (op.records ++ op'.records)}))
    (same : ∀ rec : Record, rec.verify crypto params = true → rec.signer = signer →
      (rec ∈ op.records ↔ rec ∈ op'.records)) :
    recordsBy signer (op.apply crypto params state) = recordsBy signer (op'.apply crypto params state) := by
  have inside : ∀ rec ∈ valuesOf state.records ++ op.records,
      rec ∈ valuesOf state.records ++ (op.records ++ op'.records) := by
    intro rec member
    simp only [List.mem_append] at member ⊢
    tauto
  have inside' : ∀ rec ∈ valuesOf state.records ++ op'.records,
      rec ∈ valuesOf state.records ++ (op.records ++ op'.records) := by
    intro rec member
    simp only [List.mem_append] at member ⊢
    tauto
  have first := (Absorbing.begin crypto params keyed).absorbAll free op.records inside
  have second := (Absorbing.begin crypto params keyed).absorbAll free op'.records inside'
  refine recordsBy_congr ?_
  rw [Op.apply_eq, Op.apply_eq]
  refine fun id rec own => evict_congr (fun id rec own => ?_) id rec own
  -- under an id of the signer's there is nothing but his records
  have alike : rec ∈ valuesOf state.records ++ (op.records ++ op'.records) →
      (Holder crypto params state (valuesOf state.records ++ op.records) rec ↔
        Holder crypto params state (valuesOf state.records ++ op'.records) rec) := by
    intro known
    refine holder_congr fun other ok atId => ?_
    have either : other ∈ op.records ↔ other ∈ op'.records := by
      constructor
      · intro sent
        have signers := (Record.id_inj free (inside other (List.mem_append_right _ sent)) known atId).1
        exact (same other ok (signers.trans own)).1 sent
      · intro sent
        have signers := (Record.id_inj free (inside' other (List.mem_append_right _ sent)) known atId).1
        exact (same other ok (signers.trans own)).2 sent
    rw [List.mem_append, List.mem_append, either]
  rw [first.holds, second.holds]
  constructor
  · intro both
    exact ⟨both.1, (alike (inside rec (first.mem_offers both.2))).1 both.2⟩
  · intro both
    exact ⟨both.1, (alike (inside' rec (second.mem_offers both.2))).2 both.2⟩

/-- White's offers, a forgery among them, leave Black's answer as it is. -/
theorem signer_isolation_flood :
    recordsBy Sample.blackKey
        ((Op.applyDelta [Sample.reply]).apply Sample.crypto Sample.params Sample.poisoned) =
      recordsBy Sample.blackKey
        ((Op.applyDelta [Sample.forgery, Sample.offer, Sample.reply, Sample.decoy]).apply
          Sample.crypto Sample.params Sample.poisoned) := by
  refine signer_isolation Sample.crypto Sample.params Sample.poisoned Sample.blackKey _ _
    ((keyed_empty _).absorbForTest _) (Sample.collisionFree_image _ _ (by decide +kernel)) ?_
  have whites : ∀ rec ∈ [Sample.forgery, Sample.offer, Sample.reply, Sample.decoy],
      rec.signer = Sample.blackKey → rec ∈ [Sample.reply] := by decide +kernel
  intro rec _ own
  refine ⟨fun member => ?_, fun member => whites rec member own⟩
  rw [List.mem_singleton.1 member]
  simp [Op.records]

end Adjourn.Isolation
