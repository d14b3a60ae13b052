import Adjourn.Sync
import Adjourn.Sample

/-! How long an encoded state can get: the eviction groups bound the number of records,
and the spelling of the moves bounds the size of each. -/

namespace Adjourn.StateSize
open Std (ExtTreeMap)
open Cbor OrderedMap TopK NormalForm Contract

variable {crypto : Crypto} {reader : Reader} {params : GameParams} {records : Set Record}
  {state : GameState} {offers : List Record} {rec : Record} {longest : Nat}

/-- The longest encoding of a body of each kind, where the text of a move takes at most
`longest` bytes. -/
def bodyLimit (longest : Nat) : Kind → Nat
  | .move => 47 + (head 3 longest).length + longest
  | .resign => 2
  | .drawOffer | .drawAccept | .drawClaim => 45

def recordLimit (longest : Nat) (kind : Kind) : Nat := 107 + bodyLimit longest kind

def spelling : Body → Bytes
  | .move _ _ uci => utf8 uci
  | _ => []

def fieldNames : List String := ["b", "k", "s", "m", "o", "a", "c", "p", "t", "u"]

theorem length_field {name : String} (known : name ∈ fieldNames) (value : Item)
    (entries : List (Item × Item)) :
    (encodeEntries ((.text name, value) :: entries)).length =
      2 + value.encode.length + (encodeEntries entries).length := by
  have letter : ∀ name ∈ fieldNames, (utf8 name).length = 1 := by decide +kernel
  have short : (head 3 1).length = 1 := rfl
  simp only [encodeEntries, Item.encode, List.length_append, letter name known, short]
  omega

theorem length_map (entries : List (Item × Item)) (few : entries.length < 24) :
    (Item.map entries).encode.length = 1 + (encodeEntries entries).length := by
  have short : (head 5 entries.length).length = 1 := by simp [head, argument, few]
  rw [Item.encode, List.length_append, short]

theorem length_block (block : Bytes32) : (Item.bytes block.val).encode.length = 34 := by
  rw [Item.encode, List.length_append, block.length_eq]
  rfl

theorem length_ply (ply : U16) : (Item.uint ply.val).encode.length ≤ 3 :=
  head_length_le 0 (Nat.le_of_lt_succ ply.isLt)

theorem length_move (ply : U16) (parent : RecordId) (uci : String) :
    (Body.move ply parent uci).toItem.encode.length =
      44 + (Item.uint ply.val).encode.length + (head 3 (utf8 uci).length).length + (utf8 uci).length := by
  have names : ∀ name ∈ ["m", "p", "t", "u"], name ∈ fieldNames := by decide +kernel
  have empty : (encodeEntries []).length = 0 := rfl
  have text : (Item.text uci).encode.length = (head 3 (utf8 uci).length).length + (utf8 uci).length := by
    rw [Item.encode, List.length_append]
  rw [Body.toItem, length_map _ (by simp), length_field (names _ (by simp)), length_map _ (by simp),
    length_field (names _ (by simp)), length_field (names _ (by simp)), length_field (names _ (by simp)),
    length_block, empty, text]
  omega

theorem length_body_le {body : Body} (spelled : (spelling body).length ≤ longest) :
    body.toItem.encode.length ≤ bodyLimit longest body.kind := by
  cases body with
  | move ply parent uci =>
    have index := length_ply ply
    have text := head_length_le 3 spelled
    rw [spelling] at spelled text
    rw [length_move, Body.kind, bodyLimit]
    omega
  | resign =>
    have letter : (Item.text "r").encode.length = 2 := by decide +kernel
    exact letter.le
  | drawOffer ply block | drawAccept ply block | drawClaim ply block =>
    have index := length_ply ply
    have names : ∀ name ∈ ["o", "a", "c", "p", "t"], name ∈ fieldNames := by decide +kernel
    have empty : (encodeEntries []).length = 0 := rfl
    rw [Body.toItem, length_map _ (by simp), length_field (names _ (by simp)), length_map _ (by simp),
      length_field (names _ (by simp)), length_field (names _ (by simp)), length_block, empty, Body.kind,
      bodyLimit]
    omega

theorem length_toItem (rec : Record) : rec.toItem.encode.length =
    41 + rec.body.toItem.encode.length + (Item.bytes rec.sig).encode.length := by
  have names : ∀ name ∈ ["b", "k", "s"], name ∈ fieldNames := by decide +kernel
  have empty : (encodeEntries []).length = 0 := rfl
  rw [Record.toItem, length_map _ (by simp), length_field (names _ (by simp)),
    length_field (names _ (by simp)), length_field (names _ (by simp)), length_block, empty]
  omega

theorem length_toItem_le (signed : rec.sig.length = 64) (spelled : (spelling rec.body).length ≤ longest) :
    rec.toItem.encode.length ≤ recordLimit longest rec.body.kind := by
  have body := length_body_le spelled
  have sig : (Item.bytes rec.sig).encode.length = 66 := by
    rw [Item.encode, List.length_append, signed]
    rfl
  rw [length_toItem, sig, recordLimit]
  omega

theorem length_spelling_le (rec : Record) : (spelling rec.body).length ≤ rec.toItem.encode.length := by
  rw [length_toItem]
  cases body : rec.body with
  | move ply parent uci =>
    rw [length_move, spelling]
    omega
  | _ => exact Nat.zero_le _

def recordSet (state : GameState) : Finset Record := (valuesOf state.records).toFinset

theorem mem_recordSet : rec ∈ recordSet state ↔ ∃ id : RecordId, state.records[id]? = some rec :=
  List.mem_toFinset.trans mem_valuesOf

theorem nodup_valuesOf (keyed : state.Keyed crypto) : (valuesOf state.records).Nodup := by
  refine List.Nodup.map_on (fun entry member entry' member' same => ?_) (toList_nodup state.records)
  have own := keyed entry.1 entry.2 (ExtTreeMap.mem_toList_iff_getElem?_eq_some.1 member)
  have own' := keyed entry'.1 entry'.2 (ExtTreeMap.mem_toList_iff_getElem?_eq_some.1 member')
  exact Prod.ext (own.symm.trans (same ▸ own')) same

theorem length_encode (keyed : state.Keyed crypto) : state.encode.length =
    (head 4 (recordSet state).card).length + ∑ rec ∈ recordSet state, rec.toItem.encode.length := by
  have nodup := nodup_valuesOf keyed
  rw [recordSet, List.sum_toFinset _ nodup, List.toFinset_card_of_nodup nodup, GameState.encode,
    encodeRecords, Item.encode, List.length_append, encodeAll_length, List.length_map, List.map_map]
  rfl

theorem length_toItem_le_encode (keyed : state.Keyed crypto) {id : RecordId}
    (held : state.records[id]? = some rec) : rec.toItem.encode.length ≤ state.encode.length := by
  have part := Finset.single_le_sum (f := fun rec : Record => rec.toItem.encode.length)
    (fun _ _ => Nat.zero_le _) (mem_recordSet.2 ⟨id, held⟩)
  rw [length_encode keyed]
  exact part.trans (Nat.le_add_left _ _)

/-- Whose record it is, of which kind and at which ply; resignations are all at ply 0. -/
def slot (params : GameParams) (rec : Record) : Option Color × Kind × Nat :=
  (rec.color params, rec.body.kind, rec.body.ply.elim 0 Fin.val)

def slots : Finset (Option Color × Kind × Nat) :=
  {some .white, some .black} ×ˢ {.move, .resign, .drawOffer, .drawAccept, .drawClaim} ×ˢ Finset.range 4097

/-- How many records a slot has room for. A resignation has one body, so one id. -/
def room : Option Color × Kind × Nat → Nat
  | (_, .resign, ply) => if ply = 0 then 1 else 0
  | (_, kind, _) => kind.k

theorem slot_mem (valid : rec.verify crypto params = true) : slot params rec ∈ slots := by
  obtain ⟨owner, inside, -⟩ := (Record.verify_iff _ _ _).1 valid
  have player : rec.color params = some .white ∨ rec.color params = some .black := by
    obtain ⟨color, owner⟩ := Option.isSome_iff_exists.1 owner
    cases color
    · exact .inl owner
    · exact .inr owner
  have index : rec.body.ply.elim 0 Fin.val < 4097 := by
    cases numbered : rec.body.ply with
    | none => decide
    | some ply => exact Nat.lt_succ_of_le (inside ply numbered)
  have kind : rec.body.kind = .move ∨ rec.body.kind = .resign ∨ rec.body.kind = .drawOffer ∨
      rec.body.kind = .drawAccept ∨ rec.body.kind = .drawClaim := by
    cases rec.body <;> simp [Body.kind]
  simp only [slots, slot, Finset.mem_product, Finset.mem_insert, Finset.mem_singleton, Finset.mem_range]
  exact ⟨player, kind, index⟩

theorem sum_room (weight : Kind → Nat) : ∑ s ∈ slots, room s * weight s.2.1 =
    2 * (4097 * (2 * weight .move + weight .drawOffer + weight .drawAccept + weight .drawClaim) +
      weight .resign) := by
  have each : ∀ owner : Option Color, ∀ kind : Kind, kind ≠ .resign →
      ∑ ply ∈ Finset.range 4097, room (owner, kind, ply) * weight kind = 4097 * (kind.k * weight kind) := by
    intro owner kind indexed
    have room_eq : ∀ ply, room (owner, kind, ply) = kind.k := by
      intro ply
      cases kind
      case resign => exact absurd rfl indexed
      all_goals rfl
    simp only [room_eq, Finset.sum_const, Finset.card_range, smul_eq_mul]
  have resigns : ∀ owner : Option Color,
      ∑ ply ∈ Finset.range 4097, room (owner, .resign, ply) * weight .resign = weight .resign := by
    intro owner
    simp only [room, ite_mul, one_mul, zero_mul]
    rw [Finset.sum_ite_eq_of_mem' _ _ _ (by simp)]
  have player : ∀ owner : Option Color,
      ∑ s ∈ ({.move, .resign, .drawOffer, .drawAccept, .drawClaim} : Finset Kind) ×ˢ Finset.range 4097,
        room (owner, s) * weight s.1 =
      4097 * (2 * weight .move + weight .drawOffer + weight .drawAccept + weight .drawClaim) +
        weight .resign := by
    intro owner
    rw [Finset.sum_product, Finset.sum_insert (by decide), Finset.sum_insert (by decide),
      Finset.sum_insert (by decide), Finset.sum_insert (by decide), Finset.sum_singleton,
      each owner .move (by decide), resigns, each owner .drawOffer (by decide),
      each owner .drawAccept (by decide), each owner .drawClaim (by decide)]
    simp only [Kind.k]
    omega
  rw [slots, Finset.sum_product, Finset.sum_pair (by decide), player, player]
  omega

theorem groupOf_of_slot {color : Color} {kind : Kind} {number : Nat} (indexed : kind ≠ .resign)
    (own : slot params rec = (some color, kind, number)) :
    groupOf rec = some ⟨params.keyOf color, kind, Fin.ofNat 65536 number⟩ := by
  obtain ⟨owner, rfl, rfl⟩ : rec.color params = some color ∧ rec.body.kind = kind ∧
      rec.body.ply.elim 0 Fin.val = number := by
    simpa [slot] using own
  obtain ⟨ply, numbered⟩ : ∃ ply, rec.body.ply = some ply := by
    cases body : rec.body <;> simp_all [Body.kind, Body.ply]
  rw [groupOf, numbered, GameParams.keyOf_of_colorOf owner]
  simp

theorem body_of_slot {owner : Option Color} {number : Nat} (own : slot params rec = (owner, .resign, number)) :
    rec.body = .resign ∧ number = 0 := by
  obtain ⟨-, kind, rfl⟩ : rec.color params = owner ∧ rec.body.kind = .resign ∧
      rec.body.ply.elim 0 Fin.val = number := by
    simpa [slot] using own
  cases body : rec.body <;> simp_all [Body.kind, Body.ply]

theorem injOn_id (keyed : state.Keyed crypto) : Set.InjOn (Record.id crypto) (recordSet state) := by
  intro rec member rec' member' same
  obtain ⟨id, held⟩ := mem_recordSet.1 member
  obtain ⟨id', held'⟩ := mem_recordSet.1 member'
  obtain rfl := keyed id rec held
  obtain rfl := keyed id' rec' held'
  exact Option.some.inj (held.symm.trans (same ▸ held'))

theorem card_resign_le (keyed : state.Keyed crypto) (color : Color) (number : Nat) :
    {rec ∈ recordSet state | slot params rec = (some color, .resign, number)}.card ≤
      room (some color, .resign, number) := by
  by_cases nonempty : ∃ rec ∈ recordSet state, slot params rec = (some color, .resign, number)
  · obtain ⟨_, _, first⟩ := nonempty
    obtain ⟨-, rfl⟩ := body_of_slot first
    refine Finset.card_le_one.2 fun rec member rec' member' => ?_
    obtain ⟨held, own⟩ := Finset.mem_filter.1 member
    obtain ⟨held', own'⟩ := Finset.mem_filter.1 member'
    have signers : rec.signer = rec'.signer :=
      (GameParams.keyOf_of_colorOf (congrArg Prod.fst own)).symm.trans
        (GameParams.keyOf_of_colorOf (congrArg Prod.fst own'))
    have bodies := (body_of_slot own).1.trans (body_of_slot own').1.symm
    exact injOn_id keyed held held' (Record.id_congr crypto signers bodies)
  · rw [Finset.filter_eq_empty_iff.2 fun rec held own => nonempty ⟨rec, held, own⟩]
    exact Nat.zero_le _

/-- What eviction leaves of verifying records: each under its own id, and no group over
its bound. -/
structure Settled (crypto : Crypto) (params : GameParams) (state : GameState) : Prop where
  holds : state.Holds crypto fun rec => rec.verify crypto params = true
  kept : state.keptIds = state.ids

theorem Settled.keyed (settled : Settled crypto params state) : state.Keyed crypto :=
  fun id rec held => (settled.holds id rec held).1

theorem settled_of_represents (free : crypto.CollisionFree (Record.idInput '' records))
    (inside : ∀ rec ∈ offers, rec ∈ records) (represents : Represents crypto params offers state) :
    Settled crypto params state where
  holds id rec held :=
    have sound := represents.between.sound id rec held
    ⟨sound.1, sound.2.1⟩
  kept := by rw [← GameState.ids_evict, (represents.between.evict free inside).unique represents]

section Bounded
variable (settled : Settled crypto params state)
include settled

theorem card_groupOf_le (group : Group) :
    {rec ∈ recordSet state | groupOf rec = some group}.card ≤ group.kind.k := by
  have full : {id ∈ state.keptIds | state.groupAt id = some group}.card ≤ group.kind.k := card_group_cut_le
  refine le_trans (Finset.card_le_card_of_injOn (Record.id crypto) (fun rec member => ?_)
    ((injOn_id settled.keyed).mono (Finset.filter_subset _ _))) full
  obtain ⟨member, own⟩ := Finset.mem_filter.1 member
  obtain ⟨id, held⟩ := mem_recordSet.1 member
  obtain rfl := settled.keyed id rec held
  have present : rec.id crypto ∈ state.ids := GameState.mem_ids.2 ⟨rec, held⟩
  rw [← settled.kept] at present
  exact Finset.mem_filter.2 ⟨present, (GameState.groupAt_of_get held).trans own⟩

theorem card_slot_le (color : Color) (kind : Kind) (number : Nat) :
    {rec ∈ recordSet state | slot params rec = (some color, kind, number)}.card ≤
      room (some color, kind, number) := by
  by_cases resigns : kind = .resign
  · subst resigns
    exact card_resign_le settled.keyed color number
  · have few : room (some color, kind, number) = kind.k := by
      cases kind
      case resign => exact absurd rfl resigns
      all_goals rfl
    rw [few]
    refine le_trans (Finset.card_le_card fun rec member => ?_)
      (card_groupOf_le settled ⟨params.keyOf color, kind, Fin.ofNat 65536 number⟩)
    obtain ⟨member, own⟩ := Finset.mem_filter.1 member
    exact Finset.mem_filter.2 ⟨member, groupOf_of_slot resigns own⟩

theorem sum_recordSet_le (weight : Record → Nat) (heaviest : Kind → Nat)
    (light : ∀ rec ∈ recordSet state, weight rec ≤ heaviest rec.body.kind) :
    ∑ rec ∈ recordSet state, weight rec ≤
      2 * (4097 * (2 * heaviest .move + heaviest .drawOffer + heaviest .drawAccept + heaviest .drawClaim) +
        heaviest .resign) := by
  rw [← sum_room]
  refine sum_le_of_slots (slot params) weight room (fun s => heaviest s.2.1) (fun rec member => ?_)
    (fun s known => ?_) light
  · obtain ⟨id, held⟩ := mem_recordSet.1 member
    exact slot_mem (settled.holds id rec held).2
  · obtain ⟨owner, kind, number⟩ := s
    simp only [slots, Finset.mem_product, Finset.mem_insert, Finset.mem_singleton] at known
    rcases known.1 with rfl | rfl
    · exact card_slot_le settled _ _ _
    · exact card_slot_le settled _ _ _

theorem card_recordSet_le : (recordSet state).card ≤ 40972 := by
  have counted := sum_recordSet_le settled (fun _ => 1) (fun _ => 1) fun _ _ => le_rfl
  rwa [Finset.sum_const, smul_eq_mul, mul_one] at counted

theorem length_encode_le
    (spelled : ∀ (id : RecordId) (rec : Record), state.records[id]? = some rec →
      (spelling rec.body).length ≤ longest) :
    state.encode.length ≤ 3 + 2 * (4097 * (2 * recordLimit longest .move + 3 * recordLimit longest .drawOffer) +
      recordLimit longest .resign) := by
  have valid : ∀ rec ∈ recordSet state, rec.toItem.encode.length ≤ recordLimit longest rec.body.kind := by
    intro rec member
    obtain ⟨id, held⟩ := mem_recordSet.1 member
    obtain ⟨-, -, signed, -⟩ := (Record.verify_iff _ _ _).1 (settled.holds id rec held).2
    exact length_toItem_le signed (spelled id rec held)
  have header : (head 4 (recordSet state).card).length ≤ (head 4 40972).length :=
    head_length_le 4 (card_recordSet_le settled)
  have three : (head 4 40972).length = 3 := by decide
  have total := sum_recordSet_le settled _ _ valid
  have offers' : recordLimit longest .drawAccept = recordLimit longest .drawOffer ∧
      recordLimit longest .drawClaim = recordLimit longest .drawOffer := ⟨rfl, rfl⟩
  rw [length_encode settled.keyed]
  omega

end Bounded

structure Call where
  parameters : Bytes
  state : Bytes
  data : List UpdateData

section Calls
variable (crypto : Crypto) (reader : Reader)

def recordsOf (bytes : Bytes) : List Record :=
  match decodeState crypto reader bytes with
  | .ok state => valuesOf state.records
  | .error _ => []

def deltaOf (bytes : Bytes) : Delta :=
  if bytes.isEmpty then []
  else
    match reader.records bytes with
    | .ok delta => delta
    | .error _ => []

def carried : UpdateData → List Record
  | .state bytes => recordsOf crypto reader bytes
  | .delta bytes => deltaOf reader bytes
  | .stateAndDelta state delta => recordsOf crypto reader state ++ deltaOf reader delta
  | .relatedState | .relatedDelta | .relatedStateAndDelta | .unknown => []

def Call.run (call : Call) : Except ContractError Bytes :=
  updateState crypto reader call.parameters call.state call.data

def Call.brings (call : Call) : List Record :=
  recordsOf crypto reader call.state ++ call.data.flatMap (carried crypto reader)

/-- Every move that is left of them after eviction is spelled in so many bytes. -/
def Call.SpelledWithin (longest : Nat) (call : Call) : Prop :=
  ∀ params, decodeParams reader call.parameters = .ok params →
    ∀ rec, Survives crypto params (call.brings crypto reader) rec → (spelling rec.body).length ≤ longest

end Calls

section Universe
variable (free : crypto.CollisionFree (Record.idInput '' records))
include free

theorem represents_updateWithState {bytes : Bytes} {game : GameState}
    (inside : ∀ rec ∈ offers ++ recordsOf crypto reader bytes, rec ∈ records)
    (represents : Represents crypto params offers state)
    (accepted : updateWithState crypto reader params state bytes = .ok game) :
    Represents crypto params (offers ++ recordsOf crypto reader bytes) game := by
  obtain ⟨incoming, decodes, -, rfl⟩ := updateWithState_eq_ok.1 accepted
  rw [recordsOf, decodes] at inside ⊢
  exact represents.between.apply free (.merge incoming) inside

theorem represents_updateWithDelta {bytes : Bytes} {game : GameState}
    (inside : ∀ rec ∈ offers ++ deltaOf reader bytes, rec ∈ records)
    (represents : Represents crypto params offers state)
    (accepted : updateWithDelta crypto reader params state bytes = .ok game) :
    Represents crypto params (offers ++ deltaOf reader bytes) game := by
  rcases updateWithDelta_eq_ok.1 accepted with ⟨nothing, rfl⟩ | ⟨sent, delta, decodes, -, rfl⟩
  · rwa [deltaOf, if_pos nothing, List.append_nil]
  · rw [deltaOf, sent, if_neg Bool.false_ne_true, decodes] at inside ⊢
    exact represents.between.apply free (.applyDelta delta) inside

theorem represents_applyUpdate {update : UpdateData} {game : GameState}
    (inside : ∀ rec ∈ offers ++ carried crypto reader update, rec ∈ records)
    (represents : Represents crypto params offers state)
    (accepted : applyUpdate crypto reader params state update = .ok game) :
    Represents crypto params (offers ++ carried crypto reader update) game := by
  cases update with
  | state bytes => exact represents_updateWithState free inside represents accepted
  | delta bytes => exact represents_updateWithDelta free inside represents accepted
  | stateAndDelta bytes bytes' =>
    rw [carried, ← List.append_assoc] at inside ⊢
    obtain ⟨half, first, second⟩ := applyUpdate_stateAndDelta.1 accepted
    have early : ∀ rec ∈ offers ++ recordsOf crypto reader bytes, rec ∈ records :=
      fun rec member => inside rec (List.mem_append_left _ member)
    exact represents_updateWithDelta free inside (represents_updateWithState free early represents first) second
  | unknown => cases accepted
  | relatedState | relatedDelta | relatedStateAndDelta =>
    obtain rfl := Except.ok.inj accepted
    rwa [carried, List.append_nil]

theorem represents_applyUpdates {data : List UpdateData} {game : GameState}
    (inside : ∀ rec ∈ offers ++ data.flatMap (carried crypto reader), rec ∈ records)
    (represents : Represents crypto params offers state)
    (accepted : data.foldlM (applyUpdate crypto reader params) state = .ok game) :
    Represents crypto params (offers ++ data.flatMap (carried crypto reader)) game := by
  induction data generalizing offers state with
  | nil =>
    obtain rfl := Except.ok.inj accepted
    rwa [List.flatMap_nil, List.append_nil]
  | cons update rest ih =>
    rw [List.flatMap_cons, ← List.append_assoc] at inside ⊢
    obtain ⟨next, first, accepted⟩ := foldlM_cons_eq_ok.1 accepted
    have early := represents_applyUpdate free (fun rec member => inside rec (List.mem_append_left _ member))
      represents first
    exact ih inside early accepted

end Universe

/-- What an accepted call returns encodes the normal form of all it was given. -/
theorem represents_run {call : Call} {result : Bytes}
    (free : crypto.CollisionFree (Record.idInput '' {rec | rec ∈ call.brings crypto reader}))
    (accepted : call.run crypto reader = .ok result) :
    ∃ params game, decodeParams reader call.parameters = .ok params ∧ result = game.encode ∧
      Represents crypto params (call.brings crypto reader) game := by
  obtain ⟨params, base, game, read, decodes, folded, rfl⟩ := updateState_eq_ok accepted
  have started : recordsOf crypto reader call.state = valuesOf base.records := by
    rw [recordsOf, decodes]
  have whole : call.brings crypto reader =
      valuesOf base.records ++ call.data.flatMap (carried crypto reader) := by
    rw [Call.brings, started]
  rw [whole] at free ⊢
  have normal : Represents crypto params (valuesOf base.records) (base.filterValid crypto params) :=
    Convergence.represents_filterValid free fun rec member => List.mem_append_left _ member
  exact ⟨params, game, read, rfl, represents_applyUpdates free (fun _ member => member) normal folded⟩

theorem length_run_le {call : Call} {result : Bytes}
    (free : crypto.CollisionFree (Record.idInput '' {rec | rec ∈ call.brings crypto reader}))
    (accepted : call.run crypto reader = .ok result) (spelled : call.SpelledWithin crypto reader longest) :
    result.length ≤ 3 + 2 * (4097 * (2 * recordLimit longest .move + 3 * recordLimit longest .drawOffer) +
      recordLimit longest .resign) := by
  obtain ⟨params, game, read, rfl, represents⟩ := represents_run free accepted
  have settled := settled_of_represents free (fun _ member => member) represents
  refine length_encode_le settled fun id rec held => ?_
  exact spelled params read rec ((represents id rec).1 held).2

theorem spelledWithin_of_run {call : Call} {result : Bytes}
    (free : crypto.CollisionFree (Record.idInput '' {rec | rec ∈ call.brings crypto reader}))
    (accepted : call.run crypto reader = .ok result) : call.SpelledWithin crypto reader result.length := by
  obtain ⟨params, game, read, rfl, represents⟩ := represents_run free accepted
  intro params' read' rec survives
  obtain rfl := Except.ok.inj (read.symm.trans read')
  have held := (represents (rec.id crypto) rec).2 ⟨rfl, survives⟩
  exact (length_spelling_le rec).trans (length_toItem_le_encode represents.keyed held)

/-- Over any family of accepted calls, the sizes of the states returned are bounded if
and only if the spellings of the moves are that eviction leaves of what the calls bring.
Where these are five bytes at most, as for every move a board allows, a state takes less
than 6.4 megabytes. -/
theorem state_size_bounded_iff (crypto : Crypto) (reader : Reader) (calls : Set Call)
    (free : ∀ call ∈ calls,
      crypto.CollisionFree (Record.idInput '' {rec | rec ∈ call.brings crypto reader}))
    (accepted : ∀ call ∈ calls, ∃ result, call.run crypto reader = .ok result) :
    ((∃ bound, ∀ call ∈ calls, ∀ result, call.run crypto reader = .ok result → result.length ≤ bound) ↔
      ∃ longest, ∀ call ∈ calls, call.SpelledWithin crypto reader longest) ∧
    ∀ call ∈ calls, call.SpelledWithin crypto reader 5 →
      ∀ result, call.run crypto reader = .ok result → result.length < 6400000 := by
  refine ⟨⟨?_, ?_⟩, fun call member spelled result returned => ?_⟩
  · rintro ⟨bound, bounded⟩
    refine ⟨bound, fun call member params read rec survives => ?_⟩
    obtain ⟨result, returned⟩ := accepted call member
    have spelled := spelledWithin_of_run (free call member) returned
    exact (spelled params read rec survives).trans (bounded call member result returned)
  · rintro ⟨longest, spelled⟩
    exact ⟨_, fun call member result returned =>
      length_run_le (free call member) returned (spelled call member)⟩
  · refine (length_run_le (free call member) returned spelled).trans_lt ?_
    decide

def posting (rec : Record) : Call := ⟨Sample.params.encode, [], [.delta (encodeRecords [rec])]⟩

theorem brings_posting (rec : Record) : (posting rec).brings Sample.crypto Reader.exact = [rec] := by
  have nothing : recordsOf Sample.crypto Reader.exact [] = [] := rfl
  have sent : (encodeRecords [rec]).isEmpty = false := by simpa using encodeRecords_ne_nil _
  simp only [posting, Call.brings, nothing, List.flatMap_cons, List.flatMap_nil, carried, deltaOf, sent,
    Reader.exact_roundTrips.records, Bool.false_eq_true, if_false, List.nil_append, List.append_nil]

theorem run_posting (valid : rec.verify Sample.crypto Sample.params = true) :
    (posting rec).run Sample.crypto Reader.exact =
      .ok (GameState.empty.applyDelta Sample.crypto Sample.params [rec]).encode := by
  have blank : GameState.empty.filterValid Sample.crypto Sample.params = GameState.empty := by decide +kernel
  have settled : GameState.empty.applyDelta Sample.crypto Sample.params [] = GameState.empty := by
    decide +kernel
  have applied : updateWithDelta Sample.crypto Reader.exact Sample.params .empty
        (if [rec].isEmpty then [] else encodeRecords [rec]) =
      .ok (GameState.empty.applyDelta Sample.crypto Sample.params [rec]) :=
    updateWithDelta_eq Reader.exact_roundTrips (by simpa using valid) settled
  rw [List.isEmpty_cons, if_neg Bool.false_ne_true] at applied
  have start : decodeState Sample.crypto Reader.exact [] = .ok .empty := rfl
  rw [Call.run, posting, updateState, decodeParams_encode Reader.exact_roundTrips, start]
  simp only [bind, Except.bind, blank, List.foldlM_cons, List.foldlM_nil, applyUpdate, applied]
  rfl

def babble : Nat → String
  | 0 => ""
  | n + 1 => (babble n).push 'a'

theorem length_babble (n : Nat) : (utf8 (babble n)).length = n := by
  have bytes : ∀ text, (utf8 text).length = text.utf8ByteSize := fun _ => List.length_map ..
  rw [bytes]
  induction n with
  | zero => rfl
  | succ n ih =>
    have letter : Char.utf8Size 'a' = 1 := rfl
    rw [babble, String.utf8ByteSize_push, ih, letter]

def rambling (n : Nat) : Record :=
  Record.sign Sample.crypto Sample.whiteKey Sample.params
    (.move 1 (Sample.params.genesis Sample.crypto) (babble n))

theorem verify_rambling (n : Nat) : (rambling n).verify Sample.crypto Sample.params = true := by
  refine (Record.verify_iff _ _ _).2 ⟨?_, ?_, ?_, Sample.crypto_signs _ _⟩
  · have white : Sample.params.colorOf Sample.whiteKey = some .white := by decide +kernel
    exact Option.isSome_iff_exists.2 ⟨.white, white⟩
  · rintro ply ⟨⟩
    decide
  · exact (Sample.crypto.sign _ _).length_eq

/-- A signed text of any length is accepted and kept, so no bound holds for every call. -/
theorem state_size_unbounded : ¬∃ bound, ∀ (call : Call) (result : Bytes),
    call.run Sample.crypto Reader.exact = .ok result → result.length ≤ bound := by
  rintro ⟨bound, bounded⟩
  have valid := verify_rambling (bound + 1)
  have short := bounded (posting (rambling (bound + 1))) _ (run_posting valid)
  have free : Sample.crypto.CollisionFree
      (Record.idInput '' {rec | rec ∈ (posting (rambling (bound + 1))).brings Sample.crypto Reader.exact}) := by
    rw [brings_posting]
    simp [Crypto.CollisionFree]
  have spelled := spelledWithin_of_run free (run_posting valid) Sample.params
    (decodeParams_encode Reader.exact_roundTrips Sample.params) (rambling (bound + 1)) ?_
  · have long : (spelling (rambling (bound + 1)).body).length = bound + 1 := length_babble _
    omega
  · rw [brings_posting]
    refine ⟨⟨List.mem_singleton_self _, valid, fun other member _ _ => ?_⟩, fun group own => ?_⟩
    · rw [List.mem_singleton.1 member]
    · have alone : rivals Sample.crypto Sample.params [rambling (bound + 1)] group
          ((rambling (bound + 1)).id Sample.crypto) = ∅ := by
        refine Finset.eq_empty_of_forall_notMem fun id rival => ?_
        obtain ⟨other, member, -, -, rfl, less⟩ := mem_rivals.1 rival
        rw [List.mem_singleton.1 member] at less
        exact lt_irrefl _ less
      rw [alone, Finset.card_empty]
      cases group.kind <;> decide

def ramblings : Set Call := Set.range fun n => posting (rambling n)

/-- Among postings of all lengths, those of short texts leave little. -/
theorem state_size_bounded_iff_ramblings :
    ((∃ bound, ∀ call ∈ ramblings, ∀ result, call.run Sample.crypto Reader.exact = .ok result →
        result.length ≤ bound) ↔
      ∃ longest, ∀ call ∈ ramblings, call.SpelledWithin Sample.crypto Reader.exact longest) ∧
    ∀ call ∈ ramblings, call.SpelledWithin Sample.crypto Reader.exact 5 →
      ∀ result, call.run Sample.crypto Reader.exact = .ok result → result.length < 6400000 := by
  refine state_size_bounded_iff Sample.crypto Reader.exact ramblings ?_ ?_
  · rintro _ ⟨n, rfl⟩
    rw [brings_posting]
    simp [Crypto.CollisionFree]
  · rintro _ ⟨n, rfl⟩
    exact ⟨_, run_posting (verify_rambling n)⟩

end Adjourn.StateSize
