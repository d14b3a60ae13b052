import Adjourn.Eviction

/-! What a state is after any deliveries: the surviving records of everything ever
offered to it. -/

namespace Adjourn
open Std (ExtTreeMap)
open OrderedMap TopK

theorem Record.id_inj {crypto : Crypto} {records : Set Record}
    (free : crypto.CollisionFree (Record.idInput '' records)) {rec other : Record}
    (known : rec ∈ records) (known' : other ∈ records) (same : rec.id crypto = other.id crypto) :
    rec.signer = other.signer ∧ rec.body = other.body :=
  Record.idInput_inj (free ⟨rec, known, rfl⟩ ⟨other, known', rfl⟩ same)

theorem groupOf_congr {rec other : Record} (signers : rec.signer = other.signer)
    (bodies : rec.body = other.body) : groupOf rec = groupOf other := by
  simp only [groupOf, signers, bodies]

theorem signer_of_groupOf {rec : Record} {group : Group} (own : groupOf rec = some group) :
    group.signer = rec.signer := by
  obtain ⟨ply, -, rfl⟩ := Option.map_eq_some_iff.1 own
  rfl

namespace GameState

/-- Every record is held under its own id, as every constructor of the source does it. -/
def Keyed (crypto : Crypto) (state : GameState) : Prop :=
  ∀ (id : RecordId) (rec : Record), state.records[id]? = some rec → rec.id crypto = id

theorem keyed_empty (crypto : Crypto) : empty.Keyed crypto := by
  intro id rec held
  simp [empty] at held

theorem Keyed.absorbForTest {crypto : Crypto} {state : GameState} (keyed : state.Keyed crypto)
    (rec : Record) : (state.absorbForTest crypto rec).Keyed crypto := by
  intro id held
  rw [GameState.absorbForTest, ExtTreeMap.getElem?_insert]
  split_ifs with same
  · rintro ⟨rfl⟩
    exact compare_eq_iff_eq.mp same
  · exact keyed id held

theorem Keyed.foldl_absorbForTest {crypto : Crypto} {state : GameState} (keyed : state.Keyed crypto)
    (list : List Record) : (list.foldl (GameState.absorbForTest crypto) state).Keyed crypto := by
  induction list generalizing state with
  | nil => exact keyed
  | cons rec rest ih => exact ih (keyed.absorbForTest rec)

theorem allValid_iff {crypto : Crypto} {params : GameParams} {state : GameState} :
    state.allValid crypto params = true ↔
      ∀ (id : RecordId) (rec : Record), state.records[id]? = some rec → rec.verify crypto params = true := by
  simp only [allValid, List.all_eq_true, mem_valuesOf]
  exact ⟨fun all id rec held => all rec ⟨id, held⟩, fun all rec ⟨id, held⟩ => all id rec held⟩

/-- When a record offered to a state takes its slot. -/
def Displaces (crypto : Crypto) (params : GameParams) (state : GameState) (rec : Record) : Prop :=
  rec.verify crypto params = true ∧ ∀ held, state.records[rec.id crypto]? = some held →
    held.sig ≠ rec.sig ∧ (held.verify crypto params = true → rec.sig < held.sig)

variable {crypto : Crypto} {params : GameParams} {state : GameState} {rec : Record}

theorem absorb_of_displaces (displaces : state.Displaces crypto params rec) :
    state.absorb crypto params rec = ⟨state.records.insert (rec.id crypto) rec⟩ := by
  obtain ⟨valid, wins⟩ := displaces
  unfold absorb
  cases held : state.records[rec.id crypto]? with
  | none => simp [held, valid]
  | some existing =>
    obtain ⟨differs, smaller⟩ := wins existing held
    by_cases known : existing.verify crypto params = true
    · simp [held, valid, differs, known, smaller known]
    · simp [held, valid, differs, known]

theorem absorb_of_not_displaces (kept : ¬state.Displaces crypto params rec) :
    state.absorb crypto params rec = state := by
  unfold absorb
  cases held : state.records[rec.id crypto]? with
  | none =>
    have forged : rec.verify crypto params = false := by
      by_contra valid
      exact kept ⟨by simpa using valid, by simp [held]⟩
    simp [forged]
  | some existing =>
    by_cases same : existing.sig = rec.sig
    · simp [held, same]
    · by_cases valid : rec.verify crypto params = true
      · have stays : existing.verify crypto params = true ∧ existing.sig ≤ rec.sig := by
          by_contra loses
          refine kept ⟨valid, fun other atId => ?_⟩
          obtain rfl : existing = other := Option.some.inj (held.symm.trans atId)
          exact ⟨same, fun known => not_le.1 fun le => loses ⟨known, le⟩⟩
        simp [held, valid, stays.1, stays.2]
      · simp [valid]

end GameState

/-- One call of the public interface that changes a state. -/
inductive Op where
  | merge (other : GameState)
  | applyDelta (delta : Delta)
  | insertVerified (rec : Record)
  | evict

namespace Op

def records : Op → List Record
  | .merge other => valuesOf other.records
  | .applyDelta delta => delta
  | .insertVerified rec => [rec]
  | .evict => []

def apply (crypto : Crypto) (params : GameParams) (state : GameState) : Op → GameState
  | .merge other => state.merge crypto params other
  | .applyDelta delta => state.applyDelta crypto params delta
  | .insertVerified rec => (state.insertVerified crypto params rec).1
  | .evict => state.evict

theorem apply_eq (crypto : Crypto) (params : GameParams) (state : GameState) (op : Op) :
    op.apply crypto params state =
      (op.records.foldl (GameState.absorb crypto params) state).evict := by
  cases op <;> rfl

end Op

def run (crypto : Crypto) (params : GameParams) (start : GameState) (ops : List Op) : GameState :=
  ops.foldl (Op.apply crypto params) start

/-- The records the start state holds and those every call brings. -/
def offered (start : GameState) (ops : List Op) : List Record :=
  valuesOf start.records ++ ops.flatMap Op.records

def GameState.Holds (crypto : Crypto) (property : Record → Prop) (state : GameState) : Prop :=
  ∀ (id : RecordId) (rec : Record), state.records[id]? = some rec → rec.id crypto = id ∧ property rec

section Holds
variable {crypto : Crypto} {params : GameParams} {property : Record → Prop} {state : GameState}

theorem GameState.Holds.absorb (holds : state.Holds crypto property) {rec : Record}
    (brought : rec.verify crypto params = true → property rec) :
    (state.absorb crypto params rec).Holds crypto property := by
  by_cases displaces : state.Displaces crypto params rec
  · rw [GameState.absorb_of_displaces displaces]
    intro id other held
    rw [ExtTreeMap.getElem?_insert] at held
    split_ifs at held with same
    · obtain rfl := Option.some.inj held
      exact ⟨compare_eq_iff_eq.1 same, brought displaces.1⟩
    · exact holds id other held
  · rwa [GameState.absorb_of_not_displaces displaces]

theorem GameState.Holds.run {ops : List Op} (holds : state.Holds crypto property)
    (brought : ∀ rec ∈ ops.flatMap Op.records, rec.verify crypto params = true → property rec) :
    (run crypto params state ops).Holds crypto property := by
  have absorbs : ∀ (batch : List Record) (state : GameState), state.Holds crypto property →
      (∀ rec ∈ batch, rec.verify crypto params = true → property rec) →
        (batch.foldl (GameState.absorb crypto params) state).Holds crypto property := by
    intro batch
    induction batch with
    | nil => exact fun _ holds _ => holds
    | cons rec rest ih =>
      exact fun state holds brought => ih _ (holds.absorb (brought rec List.mem_cons_self))
        fun other member => brought other (List.mem_cons_of_mem _ member)
  induction ops generalizing state with
  | nil => exact holds
  | cons op rest ih =>
    rw [List.flatMap_cons, List.forall_mem_append] at brought
    refine ih ?_ brought.2
    rw [Op.apply_eq]
    intro id rec held
    exact absorbs op.records state holds brought.1 id rec (GameState.getElem?_evict_eq_some.1 held).1

end Holds

namespace NormalForm

variable (crypto : Crypto) (params : GameParams)

/-- Of the verifying offers under one id, the one with the smallest signature. -/
def Standing (offers : List Record) (rec : Record) : Prop :=
  rec ∈ offers ∧ rec.verify crypto params = true ∧
    ∀ other ∈ offers, other.verify crypto params = true → other.id crypto = rec.id crypto →
      rec.sig ≤ other.sig

def rivals (offers : List Record) (group : Group) (id : RecordId) : Finset RecordId :=
  ((offers.filter fun other => other.verify crypto params && decide (groupOf other = some group) &&
    decide (other.id crypto < id)).map (Record.id crypto)).toFinset

/-- A record of the normal form: standing, and among the K smallest ids of its group.
A resignation has no group. -/
def Survives (offers : List Record) (rec : Record) : Prop :=
  Standing crypto params offers rec ∧
    ∀ group ∈ groupOf rec, (rivals crypto params offers group (rec.id crypto)).card < group.kind.k

/-- A state that holds exactly the normal form of the offers. -/
def Represents (offers : List Record) (state : GameState) : Prop :=
  ∀ id rec, state.records[id]? = some rec ↔ rec.id crypto = id ∧ Survives crypto params offers rec

/-- A state on the way there, between two evictions: verifying offers only, and no
survivor missing. -/
structure Between (offers : List Record) (state : GameState) : Prop where
  sound : ∀ id rec, state.records[id]? = some rec →
    rec.id crypto = id ∧ rec.verify crypto params = true ∧ rec ∈ offers
  complete : ∀ rec, Survives crypto params offers rec → state.records[rec.id crypto]? = some rec

variable {crypto params} {offers offers' : List Record} {state other : GameState} {rec : Record}

theorem mem_rivals {group : Group} {id id' : RecordId} :
    id' ∈ rivals crypto params offers group id ↔
      ∃ other ∈ offers, other.verify crypto params = true ∧ groupOf other = some group ∧
        other.id crypto = id' ∧ id' < id := by
  simp only [rivals, List.mem_toFinset, List.mem_map, List.mem_filter, Bool.and_eq_true,
    decide_eq_true_eq]
  constructor
  · rintro ⟨other, ⟨member, ⟨valid, own⟩, lt⟩, rfl⟩
    exact ⟨other, member, valid, own, rfl, lt⟩
  · rintro ⟨other, member, valid, own, rfl, lt⟩
    exact ⟨other, ⟨member, ⟨valid, own⟩, lt⟩, rfl⟩

theorem Survives.mono (fewer : ∀ other ∈ offers, other.verify crypto params = true → other ∈ offers')
    (member : rec ∈ offers) (survives : Survives crypto params offers' rec) :
    Survives crypto params offers rec := by
  obtain ⟨⟨-, valid, smallest⟩, few⟩ := survives
  refine ⟨⟨member, valid, fun other inside ok => smallest other (fewer other inside ok) ok⟩, ?_⟩
  intro group own
  refine (Finset.card_le_card fun id inside => ?_).trans_lt (few group own)
  obtain ⟨other, at', ok, rest⟩ := mem_rivals.1 inside
  exact mem_rivals.2 ⟨other, fewer other at' ok, ok, rest⟩

theorem survives_congr
    (same : ∀ rec, rec.verify crypto params = true → (rec ∈ offers ↔ rec ∈ offers')) :
    Survives crypto params offers rec ↔ Survives crypto params offers' rec := by
  constructor <;> intro survives <;>
    refine survives.mono (fun other member ok => ?_) ?_
  · exact (same other ok).2 member
  · exact (same rec survives.1.2.1).1 survives.1.1
  · exact (same other ok).1 member
  · exact (same rec survives.1.2.1).2 survives.1.1

theorem Represents.unique (first : Represents crypto params offers state)
    (second : Represents crypto params offers other) : state = other := by
  apply GameState.ext_getElem?
  intro id
  apply Option.ext
  intro rec
  rw [first id rec, second id rec]

theorem Between.start (keyed : state.Keyed crypto) (valid : state.allValid crypto params = true) :
    Between crypto params (valuesOf state.records) state where
  sound id rec held :=
    ⟨keyed id rec held, GameState.allValid_iff.1 valid id rec held, mem_valuesOf.2 ⟨id, held⟩⟩
  complete rec survives := by
    obtain ⟨id, held⟩ := mem_valuesOf.1 survives.1.1
    rwa [keyed id rec held]

theorem Between.sound_append (between : Between crypto params offers state) {id : RecordId} {held : Record}
    (atId : state.records[id]? = some held) :
    held.id crypto = id ∧ held.verify crypto params = true ∧ held ∈ offers ++ [rec] := by
  obtain ⟨own, ok, member⟩ := between.sound id held atId
  exact ⟨own, ok, List.mem_append_left _ member⟩

theorem Between.held_of_survives (between : Between crypto params offers state) {survivor : Record}
    (survives : Survives crypto params (offers ++ [rec]) survivor) (other : survivor ≠ rec) :
    state.records[survivor.id crypto]? = some survivor := by
  have member : survivor ∈ offers := by
    have either := survives.1.1
    rw [List.mem_append, List.mem_singleton] at either
    exact either.resolve_right other
  have earlier := survives.mono (fun other inOffers _ => List.mem_append_left _ inOffers) member
  exact between.complete survivor earlier

theorem exists_unbeaten (valid : rec.verify crypto params = true) (displaces : ¬state.Displaces crypto params rec) :
    ∃ held, state.records[rec.id crypto]? = some held ∧
      (held.sig ≠ rec.sig → held.verify crypto params = true ∧ held.sig ≤ rec.sig) := by
  by_contra none'
  push Not at none'
  refine displaces ⟨valid, fun held atId => ?_⟩
  obtain ⟨differs, beats⟩ := none' held atId
  exact ⟨differs, beats⟩

section Universe
variable {records : Set Record} (free : crypto.CollisionFree (Record.idInput '' records))
include free

theorem eq_of_id (known : rec ∈ records) {rec' : Record} (known' : rec' ∈ records)
    (ids : rec.id crypto = rec'.id crypto) (sigs : rec.sig = rec'.sig) : rec = rec' := by
  obtain ⟨signers, bodies⟩ := Record.id_inj free known known' ids
  cases rec
  cases rec'
  simp_all

theorem Between.held_of_not_displaces (inside : ∀ other ∈ offers ++ [rec], other ∈ records)
    (between : Between crypto params offers state) (displaces : ¬state.Displaces crypto params rec)
    (survives : Survives crypto params (offers ++ [rec]) rec) :
    state.records[rec.id crypto]? = some rec := by
  obtain ⟨held, atId, stays⟩ := exists_unbeaten survives.1.2.1 displaces
  obtain ⟨own, ok, inOffers⟩ := between.sound _ held atId
  have smallest := survives.1.2.2 held (List.mem_append_left _ inOffers) ok own
  have sigs : held.sig = rec.sig := by
    by_contra differs
    exact differs (le_antisymm (stays differs).2 smallest)
  have known := inside held (List.mem_append_left _ inOffers)
  rw [atId, eq_of_id free known (inside rec (by simp)) own sigs]

/-- Absorbing one more offer. A survivor of the longer list was a survivor before,
or is the offer itself, and then nothing held under its id withstands it. -/
theorem Between.absorb (inside : ∀ other ∈ offers ++ [rec], other ∈ records)
    (between : Between crypto params offers state) :
    Between crypto params (offers ++ [rec]) (state.absorb crypto params rec) := by
  by_cases displaces : state.Displaces crypto params rec
  · rw [GameState.absorb_of_displaces displaces]
    obtain ⟨valid, wins⟩ := displaces
    constructor
    · intro id held
      rw [ExtTreeMap.getElem?_insert]
      split_ifs with same
      · rintro ⟨rfl⟩
        exact ⟨compare_eq_iff_eq.mp same, valid, by simp⟩
      · exact between.sound_append
    · intro survivor survives
      rw [ExtTreeMap.getElem?_insert]
      split_ifs with same
      · have ids : rec.id crypto = survivor.id crypto := compare_eq_iff_eq.mp same
        by_contra differs
        -- a survivor held under the id would have the smaller signature
        have atId := between.held_of_survives survives fun equal => differs (congrArg some equal.symm)
        have less := (wins survivor (by rw [ids, atId])).2 survives.1.2.1
        exact absurd (survives.1.2.2 rec (by simp) valid ids) (not_le.2 less)
      · refine between.held_of_survives survives ?_
        rintro rfl
        exact same (compare_eq_iff_eq.mpr rfl)
  · rw [GameState.absorb_of_not_displaces displaces]
    constructor
    · exact fun id held => between.sound_append
    · intro survivor survives
      by_cases new : survivor = rec
      · rw [new] at survives ⊢
        exact between.held_of_not_displaces free inside displaces survives
      · exact between.held_of_survives survives new

theorem Between.absorbAll (batch : List Record) (inside : ∀ other ∈ offers ++ batch, other ∈ records)
    (between : Between crypto params offers state) :
    Between crypto params (offers ++ batch) (batch.foldl (GameState.absorb crypto params) state) := by
  induction batch generalizing offers state with
  | nil => simpa using between
  | cons rec rest ih =>
    rw [List.foldl_cons, List.append_cons]
    refine ih ?_ (between.absorb free ?_)
    · simpa using inside
    · intro other member
      refine inside other ?_
      simp only [List.mem_append, List.mem_cons] at member ⊢
      tauto

end Universe

def offerIds (crypto : Crypto) (params : GameParams) (offers : List Record) : Finset RecordId :=
  ((offers.filter (Record.verify crypto params)).map (Record.id crypto)).toFinset

def groupIn (crypto : Crypto) (params : GameParams) (offers : List Record) (id : RecordId) :
    Option Group :=
  ((offers.filter (Record.verify crypto params)).find? fun rec => rec.id crypto = id).bind groupOf

theorem mem_offerIds {id : RecordId} : id ∈ offerIds crypto params offers ↔
    ∃ rec ∈ offers, rec.verify crypto params = true ∧ rec.id crypto = id := by
  simp only [offerIds, List.mem_toFinset, List.mem_map, List.mem_filter, and_assoc]

theorem exists_standing {id : RecordId} (member : id ∈ offerIds crypto params offers) :
    ∃ rec, Standing crypto params offers rec ∧ rec.id crypto = id := by
  obtain ⟨some', inOffers, valid, own⟩ := mem_offerIds.1 member
  let rivals : Finset Record :=
    (offers.filter fun rec => rec.verify crypto params && decide (rec.id crypto = id)).toFinset
  have mem : ∀ {rec}, rec ∈ rivals ↔ rec ∈ offers ∧ rec.verify crypto params = true ∧ rec.id crypto = id := by
    simp [rivals]
  obtain ⟨rec, least, smallest⟩ := rivals.exists_min_image Record.sig ⟨some', mem.2 ⟨inOffers, valid, own⟩⟩
  obtain ⟨inside, ok, atId⟩ := mem.1 least
  exact ⟨rec, ⟨inside, ok, fun other there fine same =>
    smallest other (mem.2 ⟨there, fine, same.trans atId⟩)⟩, atId⟩

section Universe
variable {records : Set Record} (free : crypto.CollisionFree (Record.idInput '' records))
  (inside : ∀ other ∈ offers, other ∈ records)
include free inside

theorem groupIn_of_mem (member : rec ∈ offers) (valid : rec.verify crypto params = true) :
    groupIn crypto params offers (rec.id crypto) = groupOf rec := by
  unfold groupIn
  cases found : (offers.filter (Record.verify crypto params)).find?
      (fun other => other.id crypto = rec.id crypto) with
  | none =>
    have absent := List.find?_eq_none.1 found rec (List.mem_filter.2 ⟨member, valid⟩)
    simp at absent
  | some other =>
    have same : other.id crypto = rec.id crypto := by simpa using List.find?_some found
    have known := (List.mem_filter.1 (List.mem_of_find?_eq_some found)).1
    obtain ⟨signers, bodies⟩ := Record.id_inj free (inside other known) (inside rec member) same
    exact groupOf_congr signers bodies

theorem below_eq_rivals (group : Group) (id : RecordId) :
    below (groupIn crypto params offers) (offerIds crypto params offers) group id =
      rivals crypto params offers group id := by
  ext other
  simp only [below, Finset.mem_filter, mem_offerIds, mem_rivals]
  constructor
  · rintro ⟨⟨rec, member, valid, rfl⟩, own, lt⟩
    exact ⟨rec, member, valid, by rwa [groupIn_of_mem free inside member valid] at own, rfl, lt⟩
  · rintro ⟨rec, member, valid, own, rfl, lt⟩
    exact ⟨⟨rec, member, valid, rfl⟩, by rwa [groupIn_of_mem free inside member valid], lt⟩

/-- Surviving is being standing under an id of the top-K selection of all offered ids. -/
theorem survives_iff_cut : Survives crypto params offers rec ↔
    Standing crypto params offers rec ∧
      rec.id crypto ∈ cut (groupIn crypto params offers) (fun group => group.kind.k)
        (offerIds crypto params offers) := by
  refine and_congr_right fun standing => ?_
  obtain ⟨member, valid, -⟩ := standing
  rw [mem_cut, groupIn_of_mem free inside member valid]
  simp only [below_eq_rivals free inside]
  exact ⟨fun few => ⟨mem_offerIds.2 ⟨rec, member, valid, rfl⟩, few⟩, And.right⟩

theorem Between.groupAt_eq (between : Between crypto params offers state) {id : RecordId}
    (member : id ∈ state.ids) : state.groupAt id = groupIn crypto params offers id := by
  obtain ⟨rec, held⟩ := GameState.mem_ids.1 member
  obtain ⟨rfl, valid, inOffers⟩ := between.sound id rec held
  rw [GameState.groupAt_of_get held, groupIn_of_mem free inside inOffers valid]

theorem Between.cut_subset_ids (between : Between crypto params offers state) :
    cut (groupIn crypto params offers) (fun group => group.kind.k) (offerIds crypto params offers) ⊆
      state.ids := by
  intro id member
  obtain ⟨rec, standing, rfl⟩ := exists_standing (cut_subset member)
  exact GameState.mem_ids.2
    ⟨rec, between.complete rec ((survives_iff_cut free inside).2 ⟨standing, member⟩)⟩

theorem Between.exists_held (between : Between crypto params offers state) (member : rec ∈ offers)
    (kept : rec.id crypto ∈ cut (groupIn crypto params offers) (fun group => group.kind.k)
      (offerIds crypto params offers)) :
    ∃ rec', state.records[rec.id crypto]? = some rec' ∧ rec'.signer = rec.signer ∧ rec'.body = rec.body := by
  obtain ⟨rec', held⟩ := GameState.mem_ids.1 (between.cut_subset_ids free inside kept)
  obtain ⟨same, -, member'⟩ := between.sound _ rec' held
  obtain ⟨signers, bodies⟩ := Record.id_inj free (inside rec' member') (inside rec member) same
  exact ⟨rec', held, signers, bodies⟩

theorem Between.keptIds (between : Between crypto params offers state) :
    state.keptIds = cut (groupIn crypto params offers) (fun group => group.kind.k)
      (offerIds crypto params offers) := by
  have upper : state.ids ⊆ offerIds crypto params offers := by
    intro id member
    obtain ⟨rec, held⟩ := GameState.mem_ids.1 member
    obtain ⟨own, valid, inOffers⟩ := between.sound id rec held
    exact mem_offerIds.2 ⟨rec, inOffers, valid, own⟩
  rw [GameState.keptIds, cut_congr fun id member => between.groupAt_eq free inside member,
    cut_of_between (between.cut_subset_ids free inside) upper]

theorem Between.evict (between : Between crypto params offers state) :
    Represents crypto params offers state.evict := by
  intro id rec
  rw [GameState.getElem?_evict_eq_some, between.keptIds free inside]
  constructor
  · rintro ⟨held, kept⟩
    obtain ⟨other, standing, rfl⟩ := exists_standing (cut_subset kept)
    have survives := (survives_iff_cut free inside).2 ⟨standing, kept⟩
    obtain rfl : other = rec := Option.some.inj ((between.complete other survives).symm.trans held)
    exact ⟨rfl, survives⟩
  · rintro ⟨rfl, survives⟩
    exact ⟨between.complete rec survives, ((survives_iff_cut free inside).1 survives).2⟩

end Universe

theorem Represents.between (represents : Represents crypto params offers state) :
    Between crypto params offers state where
  sound id rec held := by
    obtain ⟨own, survives⟩ := (represents id rec).1 held
    exact ⟨own, survives.1.2.1, survives.1.1⟩
  complete rec survives := (represents _ rec).2 ⟨rfl, survives⟩

theorem Represents.keyed (represents : Represents crypto params offers state) : state.Keyed crypto :=
  fun id rec held => (represents.between.sound id rec held).1

theorem Represents.allValid (represents : Represents crypto params offers state) :
    state.allValid crypto params = true :=
  GameState.allValid_iff.2 fun id rec held => (represents.between.sound id rec held).2.1

section Universe
variable {records : Set Record} (free : crypto.CollisionFree (Record.idInput '' records))
include free

theorem Between.apply (op : Op) (inside : ∀ other ∈ offers ++ op.records, other ∈ records)
    (between : Between crypto params offers state) :
    Represents crypto params (offers ++ op.records) (op.apply crypto params state) := by
  rw [Op.apply_eq]
  exact (between.absorbAll free op.records inside).evict free inside

theorem Between.represents_run (ops : List Op) (nonempty : ops ≠ [])
    (inside : ∀ other ∈ offers ++ ops.flatMap Op.records, other ∈ records)
    (between : Between crypto params offers state) :
    Represents crypto params (offers ++ ops.flatMap Op.records) (run crypto params state ops) := by
  induction ops generalizing offers state with
  | nil => exact absurd rfl nonempty
  | cons op rest ih =>
    rw [List.flatMap_cons, ← List.append_assoc] at inside ⊢
    have first := between.apply free op fun other member => inside other (List.mem_append_left _ member)
    by_cases last : rest = []
    · subst last
      simpa [Adjourn.run] using first
    · exact ih last inside first.between

theorem Between.run (ops : List Op) (inside : ∀ other ∈ offers ++ ops.flatMap Op.records, other ∈ records)
    (between : Between crypto params offers state) :
    Between crypto params (offers ++ ops.flatMap Op.records) (run crypto params state ops) := by
  by_cases empty : ops = []
  · subst empty
    simpa [Adjourn.run] using between
  · exact (between.represents_run free ops empty inside).between

theorem run_represents (start : GameState) (ops : List Op) (nonempty : ops ≠ [])
    (keyed : start.Keyed crypto) (valid : start.allValid crypto params = true)
    (inside : ∀ other ∈ offered start ops, other ∈ records) :
    Represents crypto params (offered start ops) (run crypto params start ops) :=
  (Between.start keyed valid).represents_run free ops nonempty inside

/-- A batch of further offers leads to the normal form of all offers, if no survivor is
missing from it. -/
theorem Represents.absorbBatch (inside : ∀ rec ∈ offers ++ offers', rec ∈ records)
    (left : Represents crypto params offers state) {batch : List Record}
    (subset : ∀ rec ∈ batch, rec ∈ offers')
    (enough : ∀ rec, Survives crypto params (offers ++ offers') rec → rec ∈ offers' →
      rec ∈ offers ∨ rec ∈ batch) :
    Represents crypto params (offers ++ offers') (batch.foldl (GameState.absorb crypto params) state).evict := by
  have fewer : ∀ rec ∈ offers ++ batch, rec ∈ offers ++ offers' := by
    intro rec member
    rcases List.mem_append.1 member with inLeft | inBatch
    · exact List.mem_append_left _ inLeft
    · exact List.mem_append_right _ (subset rec inBatch)
  have absorbed := left.between.absorbAll free batch fun rec member => inside rec (fewer rec member)
  refine Between.evict free inside ⟨?_, ?_⟩
  · intro id rec held
    obtain ⟨own, valid, member⟩ := absorbed.sound id rec held
    exact ⟨own, valid, fewer rec member⟩
  · intro rec survives
    refine absorbed.complete rec (survives.mono (fun o m _ => fewer o m) ?_)
    rcases List.mem_append.1 survives.1.1 with inLeft | inRight
    · exact List.mem_append_left _ inLeft
    · exact List.mem_append.2 (enough rec survives inRight)

theorem Represents.merged (inside : ∀ rec ∈ offers ++ offers', rec ∈ records)
    (left : Represents crypto params offers state) (right : Represents crypto params offers' other) :
    Represents crypto params (offers ++ offers') (state.merged crypto params other) := by
  refine left.absorbBatch free inside (fun rec member => ?_) fun rec survives inRight => .inr ?_
  · obtain ⟨id, held⟩ := mem_valuesOf.1 member
    exact (right.between.sound id rec held).2.2
  · have kept := survives.mono (fun o m _ => List.mem_append_right offers m) inRight
    exact mem_valuesOf.2 ⟨_, right.between.complete rec kept⟩

end Universe

end NormalForm

end Adjourn
