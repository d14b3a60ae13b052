import Adjourn.Sync

/-! States that nobody has vetted: whatever a decoder returns, forged records and
overfull groups included. What a merge does to each slot of such a state, and why a
delta does the same. -/

namespace Adjourn.Unvetted
open Std (ExtTreeMap)
open OrderedMap TopK NormalForm GameState

def Takes (crypto : Crypto) (params : GameParams) (held : Option Record) (rec : Record) : Prop :=
  rec.verify crypto params = true ∧
    ∀ other ∈ held, other.sig ≠ rec.sig ∧ (other.verify crypto params = true → rec.sig < other.sig)

instance decidableTakes (crypto : Crypto) (params : GameParams) (held : Option Record) (rec : Record) :
    Decidable (Takes crypto params held rec) :=
  inferInstanceAs (Decidable (_ ∧ ∀ other ∈ held, _))

/-- What a slot holds after a record for it has been absorbed. -/
def resolve (crypto : Crypto) (params : GameParams) (held : Option Record) (rec : Record) : Option Record :=
  if Takes crypto params held rec then some rec else held

def absorbed (crypto : Crypto) (params : GameParams) (state other : GameState) : GameState :=
  (valuesOf other.records).foldl (GameState.absorb crypto params) state

variable {crypto : Crypto} {params : GameParams} {records : Set Record} {state other a b : GameState}
  {rec rec' : Record} {held : Option Record} {id : RecordId} {batch : List Record}

theorem merged_eq (state other : GameState) :
    state.merged crypto params other = (absorbed crypto params state other).evict := rfl

theorem resolve_of_sig (same : rec'.sig = rec.sig) : resolve crypto params (some rec') rec = some rec' :=
  if_neg fun takes => (takes.2 rec' rfl).1 same

theorem resolve_resolve : resolve crypto params (resolve crypto params held rec) rec =
    resolve crypto params held rec := by
  by_cases takes : Takes crypto params held rec
  · have taken : resolve crypto params held rec = some rec := if_pos takes
    rw [taken, resolve_of_sig rfl]
  · have kept : resolve crypto params held rec = held := if_neg takes
    rw [kept, kept]

theorem getElem?_absorb (state : GameState) (rec : Record) (id : RecordId) :
    (state.absorb crypto params rec).records[id]? =
      if rec.id crypto = id then resolve crypto params state.records[id]? rec else state.records[id]? := by
  by_cases takes : state.Displaces crypto params rec
  · rw [absorb_of_displaces takes, ExtTreeMap.getElem?_insert]
    simp only [compare_eq_iff_eq]
    split_ifs with own
    · subst own
      exact (if_pos takes).symm
    · rfl
  · rw [absorb_of_not_displaces takes]
    split_ifs with own
    · subst own
      exact (if_neg takes).symm
    · rfl

theorem getElem?_foldl_absorb_of_ne (absent : ∀ rec ∈ batch, rec.id crypto ≠ id) :
    (batch.foldl (GameState.absorb crypto params) state).records[id]? = state.records[id]? := by
  induction batch generalizing state with
  | nil => rfl
  | cons first rest ih =>
    rw [List.foldl_cons, ih fun rec member => absent rec (List.mem_cons_of_mem _ member), getElem?_absorb,
      if_neg (absent first List.mem_cons_self)]

theorem getElem?_foldl_absorb_of_mem (distinct : (batch.map (Record.id crypto)).Nodup) (member : rec ∈ batch) :
    (batch.foldl (GameState.absorb crypto params) state).records[rec.id crypto]? =
      resolve crypto params state.records[rec.id crypto]? rec := by
  induction batch generalizing state with
  | nil => cases member
  | cons first rest ih =>
    obtain ⟨fresh, distinct'⟩ := List.nodup_cons.1 distinct
    rw [List.foldl_cons]
    rcases List.mem_cons.1 member with rfl | later
    · rw [getElem?_foldl_absorb_of_ne, getElem?_absorb, if_pos rfl]
      intro other inside same
      exact fresh (List.mem_map.2 ⟨other, inside, same⟩)
    · rw [ih distinct' later, getElem?_absorb, if_neg]
      intro same
      exact fresh (List.mem_map.2 ⟨rec, later, same.symm⟩)

theorem ids_of_keyed (keyed : other.Keyed crypto) :
    (valuesOf other.records).map (Record.id crypto) = other.records.toList.map Prod.fst := by
  rw [valuesOf, List.map_map]
  refine List.map_congr_left fun entry member => ?_
  exact keyed entry.1 entry.2 (ExtTreeMap.mem_toList_iff_getElem?_eq_some.1 member)

theorem ids_nodup (keyed : other.Keyed crypto) :
    ((valuesOf other.records).map (Record.id crypto)).Nodup := by
  rw [ids_of_keyed keyed]
  exact (keys_sorted other.records).imp ne_of_lt

theorem getElem?_absorbed_none (keyed : other.Keyed crypto) (absent : other.records[id]? = none) :
    (absorbed crypto params state other).records[id]? = state.records[id]? := by
  refine getElem?_foldl_absorb_of_ne fun rec member same => ?_
  obtain ⟨key, held⟩ := mem_valuesOf.1 member
  rw [← same, keyed key rec held, held] at absent
  cases absent

theorem getElem?_absorbed_some (keyed : other.Keyed crypto) (held : other.records[id]? = some rec) :
    (absorbed crypto params state other).records[id]? = resolve crypto params state.records[id]? rec := by
  rw [← keyed id rec held]
  exact getElem?_foldl_absorb_of_mem (ids_nodup keyed) (mem_valuesOf.2 ⟨id, held⟩)

theorem delta_ids_nodup (keyed : a.Keyed crypto) (summary : Summary) :
    ((a.deltaAgainst crypto summary).map (Record.id crypto)).Nodup := by
  refine (ids_nodup keyed).sublist (List.Sublist.map _ ?_)
  exact List.filter_sublist.map _

/-- A record that the delta leaves out is held byte for byte: absorbing it would change
nothing. -/
theorem foldl_delta (digests : crypto.CollisionFree (Record.sigDigestInput '' records))
    (inside : ∀ rec ∈ valuesOf a.records ++ valuesOf b.records, rec ∈ records) (keyed : a.Keyed crypto) :
    (a.deltaAgainst crypto (b.summarize crypto)).foldl (GameState.absorb crypto params) b =
      absorbed crypto params b a := by
  apply GameState.ext_getElem?
  intro id
  cases held : a.records[id]? with
  | none =>
    rw [getElem?_absorbed_none keyed held]
    refine getElem?_foldl_absorb_of_ne fun rec member same => ?_
    obtain ⟨key, atKey, -⟩ := Sync.mem_deltaAgainst.1 member
    rw [← same, keyed key rec atKey, atKey] at held
    cases held
  | some rec =>
    rw [getElem?_absorbed_some keyed held]
    by_cases sent : rec ∈ a.deltaAgainst crypto (b.summarize crypto)
    · rw [← keyed id rec held]
      exact getElem?_foldl_absorb_of_mem (delta_ids_nodup keyed (b.summarize crypto)) sent
    · have skipped : (b.summarize crypto)[id]? = some (rec.sigDigest crypto) := by
        by_contra differs
        exact sent (Sync.mem_deltaAgainst.2 ⟨id, held, differs⟩)
      rw [Sync.getElem?_summarize, Option.map_eq_some_iff] at skipped
      obtain ⟨mine, atId, digest⟩ := skipped
      have known := inside mine (List.mem_append_right _ (mem_valuesOf.2 ⟨id, atId⟩))
      have known' := inside rec (List.mem_append_left _ (mem_valuesOf.2 ⟨id, held⟩))
      have sigs := Record.sigDigestInput_inj (digests ⟨mine, known, rfl⟩ ⟨rec, known', rfl⟩ digest)
      rw [atId, resolve_of_sig sigs, ← atId]
      refine getElem?_foldl_absorb_of_ne fun other member same => ?_
      obtain ⟨key, atKey, -⟩ := Sync.mem_deltaAgainst.1 member
      have own : key = id := (keyed key other atKey).symm.trans same
      rw [own, held] at atKey
      exact sent (Option.some.inj atKey ▸ member)

theorem absorbed_again (keyedA : a.Keyed crypto)
    (same : (absorbed crypto params b a).evict.records[id]? = (absorbed crypto params b a).records[id]?) :
    (absorbed crypto params (absorbed crypto params b a).evict a).records[id]? =
      (absorbed crypto params b a).records[id]? := by
  cases theirs : a.records[id]? with
  | none => rw [getElem?_absorbed_none keyedA theirs, same]
  | some rec => rw [getElem?_absorbed_some keyedA theirs, same, getElem?_absorbed_some keyedA theirs, resolve_resolve]

section Groups
variable (keyedA : a.Keyed crypto) (keyedB : b.Keyed crypto)
include keyedA keyedB

theorem mem_of_absorbed (held : (absorbed crypto params b a).records[id]? = some rec) :
    rec.id crypto = id ∧ (a.records[id]? = some rec ∨ b.records[id]? = some rec) := by
  cases theirs : a.records[id]? with
  | none =>
    rw [getElem?_absorbed_none keyedA theirs] at held
    exact ⟨keyedB id rec held, .inr held⟩
  | some other =>
    rw [getElem?_absorbed_some keyedA theirs, resolve] at held
    split_ifs at held
    · exact ⟨keyedA id rec (theirs.trans held), .inl held⟩
    · exact ⟨keyedB id rec held, .inr held⟩

theorem keyed_absorbed : (absorbed crypto params b a).Keyed crypto :=
  fun _ _ held => (mem_of_absorbed keyedA keyedB held).1

theorem keyed_evicted : (absorbed crypto params b a).evict.Keyed crypto :=
  fun id rec held => keyed_absorbed keyedA keyedB id rec (getElem?_evict_eq_some.1 held).1

variable (free : crypto.CollisionFree (Record.idInput '' records))
  (inside : ∀ rec ∈ valuesOf a.records ++ valuesOf b.records, rec ∈ records)
include free inside

theorem groupOf_eq (first : a.records[id]? = some rec ∨ b.records[id]? = some rec)
    (second : a.records[id]? = some rec' ∨ b.records[id]? = some rec') : groupOf rec = groupOf rec' := by
  have known : ∀ rec, a.records[id]? = some rec ∨ b.records[id]? = some rec →
      rec.id crypto = id ∧ rec ∈ records := by
    rintro rec (held | held)
    · exact ⟨keyedA id rec held, inside rec (List.mem_append_left _ (mem_valuesOf.2 ⟨id, held⟩))⟩
    · exact ⟨keyedB id rec held, inside rec (List.mem_append_right _ (mem_valuesOf.2 ⟨id, held⟩))⟩
  obtain ⟨own, member⟩ := known rec first
  obtain ⟨own', member'⟩ := known rec' second
  obtain ⟨signers, bodies⟩ := Record.id_inj free member member' (own.trans own'.symm)
  exact groupOf_congr signers bodies

/-- Absorbing the same state again brings back what eviction has dropped, and eviction
drops it again. -/
theorem keptIds_again : (absorbed crypto params (absorbed crypto params b a).evict a).keptIds =
    (absorbed crypto params b a).keptIds := by
  have upper : (absorbed crypto params (absorbed crypto params b a).evict a).ids ⊆
      (absorbed crypto params b a).ids := by
    intro id member
    obtain ⟨rec, held⟩ := mem_ids.1 member
    cases first : (absorbed crypto params b a).records[id]? with
    | some rec' => exact mem_ids.2 ⟨rec', first⟩
    | none =>
      have dropped : (absorbed crypto params b a).evict.records[id]? = none := by
        rw [getElem?_evict, first, ite_self]
      rw [absorbed_again keyedA (dropped.trans first.symm), first] at held
      cases held
  have lower : (absorbed crypto params b a).keptIds ⊆
      (absorbed crypto params (absorbed crypto params b a).evict a).ids := by
    intro id kept
    obtain ⟨rec, held⟩ := mem_ids.1 (cut_subset kept)
    refine mem_ids.2 ⟨rec, ?_⟩
    rw [absorbed_again keyedA (by rw [getElem?_evict, if_pos kept]), held]
  have groups : ∀ id ∈ (absorbed crypto params (absorbed crypto params b a).evict a).ids,
      (absorbed crypto params (absorbed crypto params b a).evict a).groupAt id =
        (absorbed crypto params b a).groupAt id := by
    intro id member
    obtain ⟨rec, held⟩ := mem_ids.1 member
    obtain ⟨rec', held'⟩ := mem_ids.1 (upper member)
    obtain ⟨-, origin⟩ := mem_of_absorbed keyedA (keyed_evicted keyedA keyedB) held
    have origin : a.records[id]? = some rec ∨ b.records[id]? = some rec := by
      rcases origin with theirs | before
      · exact .inl theirs
      · exact (mem_of_absorbed keyedA keyedB (getElem?_evict_eq_some.1 before).1).2
    rw [groupAt_of_get held, groupAt_of_get held']
    exact groupOf_eq keyedA keyedB free inside origin (mem_of_absorbed keyedA keyedB held').2
  rw [keptIds, cut_congr groups]
  exact cut_of_between lower upper

theorem merged_again : (b.merged crypto params a).merged crypto params a = b.merged crypto params a := by
  rw [merged_eq, merged_eq]
  apply GameState.ext_getElem?
  intro id
  rw [getElem?_evict, keptIds_again keyedA keyedB free inside, getElem?_evict]
  split_ifs with kept
  · exact absorbed_again keyedA (by rw [getElem?_evict, if_pos kept])
  · rfl

end Groups

/-- For any two keyed states, whatever they hold: applying the delta against a peer's
summary is merging the whole state, and merging it once more changes nothing. -/
theorem delta_is_merge (crypto : Crypto) (params : GameParams) (a b : GameState)
    (free : crypto.CollisionFree
      (Record.idInput '' {rec | rec ∈ valuesOf a.records ++ valuesOf b.records}))
    (digests : crypto.CollisionFree
      (Record.sigDigestInput '' {rec | rec ∈ valuesOf a.records ++ valuesOf b.records}))
    (keyedA : a.Keyed crypto) (keyedB : b.Keyed crypto) :
    b.applyDelta crypto params (a.deltaAgainst crypto (b.summarize crypto)) = b.merged crypto params a ∧
    (b.applyDelta crypto params (a.deltaAgainst crypto (b.summarize crypto))).merged crypto params a =
      b.applyDelta crypto params (a.deltaAgainst crypto (b.summarize crypto)) := by
  have inside : ∀ rec ∈ valuesOf a.records ++ valuesOf b.records,
      rec ∈ {rec | rec ∈ valuesOf a.records ++ valuesOf b.records} := fun rec member => member
  have first : b.applyDelta crypto params (a.deltaAgainst crypto (b.summarize crypto)) =
      b.merged crypto params a := congrArg GameState.evict (foldl_delta digests inside keyedA)
  rw [first]
  exact ⟨rfl, merged_again keyedA keyedB free inside⟩

/-- A peer that holds a forgery is brought the forgery's original and another record. -/
theorem delta_is_merge_forgery :
    (GameState.empty.absorbForTest Sample.crypto Sample.forgery).applyDelta Sample.crypto Sample.params
        (((GameState.empty.absorbForTest Sample.crypto Sample.opening).absorbForTest Sample.crypto
          Sample.queenPawn).deltaAgainst Sample.crypto
            ((GameState.empty.absorbForTest Sample.crypto Sample.forgery).summarize Sample.crypto)) =
      (GameState.empty.absorbForTest Sample.crypto Sample.forgery).merged Sample.crypto Sample.params
        ((GameState.empty.absorbForTest Sample.crypto Sample.opening).absorbForTest Sample.crypto
          Sample.queenPawn) := by
  refine (delta_is_merge Sample.crypto Sample.params _ _ ?_ ?_
    (((keyed_empty _).absorbForTest _).absorbForTest _) ((keyed_empty _).absorbForTest _)).1
  · exact Sample.collisionFree_image _ _ (by decide +kernel)
  · exact Sample.collisionFree_image _ _ (by decide +kernel)

end Adjourn.Unvetted
