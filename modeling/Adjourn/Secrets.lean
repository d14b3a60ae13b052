import Adjourn.DelegatePolicy

/-! The delegate's secret store: the names of its entries, typed reads, and writes that
may fail. -/

namespace Adjourn
open Std (ExtTreeMap)
open Cbor OrderedMap

instance bytesTransCmp : Std.TransCmp (compare : Bytes → Bytes → Ordering) := inferInstance

abbrev Store := ExtTreeMap Bytes Bytes

/-- ciborium's `from_reader` at the types that are read from the store. -/
structure SecretReader where
  gameRecord : Bytes → Option GameRecord
  entropyQuality : Bytes → Option EntropyQuality

structure SecretReader.RoundTrips (reader : SecretReader) : Prop where
  gameRecord : ∀ record, reader.gameRecord record.encode = some record
  entropyQuality : ∀ quality, reader.entropyQuality (EntropyQuality.encode quality) = some quality

noncomputable def SecretReader.exact : SecretReader where
  gameRecord bytes := (invert GameRecord.encode bytes).toOption
  entropyQuality bytes := (invert EntropyQuality.encode bytes).toOption

theorem SecretReader.exact_roundTrips : SecretReader.exact.RoundTrips where
  gameRecord record := congrArg Except.toOption (invert_encode GameRecord.encode_injective record)
  entropyQuality quality := congrArg Except.toOption (invert_encode EntropyQuality.encode_injective quality)

/-- What the node answers while it serves one request: two draws of its random source,
the contract states it holds, and which of the request's writes succeed. -/
structure Host where
  draws : Bytes32 × Bytes32
  contractState : Bytes32 → Option Bytes
  writes : Nat → Bool

def KEY_PREFIX : Bytes := utf8 "chess/key/"
def BIND_PREFIX : Bytes := utf8 "chess/bind/"
def GAME_PREFIX : Bytes := utf8 "chess/game/"
def OWNER_PREFIX : Bytes := utf8 "chess/owner/"
def QUALITY_PREFIX : Bytes := utf8 "chess/quality/"

def keySecret (label : String) : Bytes := KEY_PREFIX ++ utf8 label
def bindSecret (label : String) : Bytes := BIND_PREFIX ++ utf8 label
def gameSecret (gameId : GameId) : Bytes := GAME_PREFIX ++ gameId.val
def ownerSecret (label : String) : Bytes := OWNER_PREFIX ++ utf8 label
def qualitySecret (label : String) : Bytes := QUALITY_PREFIX ++ utf8 label

def toBytes32 (bytes : Bytes) : Option Bytes32 :=
  if sized : bytes.length = 32 then some ⟨bytes, sized⟩ else none

def ofUtf8 (bytes : Bytes) : Option String :=
  String.fromUTF8? ⟨(bytes.map fun byte => UInt8.ofNat byte.val).toArray⟩

theorem ofUtf8_utf8 (text : String) : ofUtf8 (utf8 text) = some text := by
  have bytes : (utf8 text).map (fun byte => UInt8.ofNat byte.val) = text.toByteArray.data.toList := by
    rw [utf8, List.map_map]
    exact (List.map_congr_left fun byte _ => UInt8.ofNat_toNat).trans (List.map_id _)
  rw [ofUtf8, bytes, Array.toArray_toList]
  exact dif_pos text.isValidUTF8

section Reads
variable (reader : SecretReader) (store : Store) (label : String)

def loadSeed : Option Bytes32 := store[keySecret label]?.bind toBytes32

def loadBoundGameId : Option GameId := store[bindSecret label]?.bind toBytes32

def loadGame (gameId : GameId) : Option GameRecord :=
  (store[gameSecret gameId]?.bind reader.gameRecord).bind migrateRecord

def loadOwner : Option Bytes32 := store[ownerSecret label]?.bind toBytes32

def loadQuality : Option EntropyQuality := store[qualitySecret label]?.bind reader.entropyQuality

def listLabels : List String :=
  (store.keys.filter fun key => KEY_PREFIX.isPrefixOf key).filterMap fun key =>
    ofUtf8 (key.drop KEY_PREFIX.length)

theorem mem_listLabels {store : Store} {label : String} {value : Bytes}
    (held : store[keySecret label]? = some value) : label ∈ listLabels store := by
  have key : keySecret label ∈ store.keys :=
    ExtTreeMap.mem_keys.2 (ExtTreeMap.mem_iff_isSome_getElem?.2 (by rw [held]; rfl))
  refine List.mem_filterMap.2 ⟨keySecret label, List.mem_filter.2 ⟨key, ?_⟩, ?_⟩
  · exact List.isPrefixOf_iff_prefix.2 (List.prefix_append _ _)
  · rw [keySecret, List.drop_left]
    exact ofUtf8_utf8 label

end Reads

structure Writes where
  store : Store
  ok : Bool

def Writes.start (store : Store) : Writes := ⟨store, true⟩

/-- One more write, if none has failed. A write that fails leaves its entry as it was. -/
def Writes.set (writes : Writes) (succeeds : Bool) (key value : Bytes) : Writes :=
  if writes.ok && succeeds then ⟨writes.store.insert key value, true⟩ else ⟨writes.store, false⟩

/-- The game record and the index from labels to games are written together. -/
def storeGame (crypto : Crypto) (host : Host) (store : Store) (record : GameRecord) : Writes :=
  ((Writes.start store).set (host.writes 0) (gameSecret (record.gameId crypto)) record.encode).set
    (host.writes 1) (bindSecret record.label) (record.gameId crypto).val

theorem toBytes32_val (id : Bytes32) : toBytes32 id.val = some id := dif_pos id.length_eq

def stem (name : Bytes) : Bytes := name.take 7

theorem stem_append {kind : Bytes} (long : 7 ≤ kind.length) (rest : Bytes) : stem (kind ++ rest) = stem kind :=
  List.take_append_of_le_length long

section Names
variable (label label' : String) (id id' : GameId)

@[simp] theorem stem_keySecret : stem (keySecret label) = utf8 "chess/k" := by
  rw [keySecret, stem_append] <;> decide +kernel

@[simp] theorem stem_bindSecret : stem (bindSecret label) = utf8 "chess/b" := by
  rw [bindSecret, stem_append] <;> decide +kernel

@[simp] theorem stem_gameSecret : stem (gameSecret id) = utf8 "chess/g" := by
  rw [gameSecret, stem_append] <;> decide +kernel

@[simp] theorem stem_ownerSecret : stem (ownerSecret label) = utf8 "chess/o" := by
  rw [ownerSecret, stem_append] <;> decide +kernel

@[simp] theorem stem_qualitySecret : stem (qualitySecret label) = utf8 "chess/q" := by
  rw [qualitySecret, stem_append] <;> decide +kernel

@[simp] theorem keySecret_inj : keySecret label = keySecret label' ↔ label = label' := by
  rw [keySecret, keySecret, List.append_cancel_left_eq, utf8_injective.eq_iff]

@[simp] theorem bindSecret_inj : bindSecret label = bindSecret label' ↔ label = label' := by
  rw [bindSecret, bindSecret, List.append_cancel_left_eq, utf8_injective.eq_iff]

@[simp] theorem ownerSecret_inj : ownerSecret label = ownerSecret label' ↔ label = label' := by
  rw [ownerSecret, ownerSecret, List.append_cancel_left_eq, utf8_injective.eq_iff]

@[simp] theorem qualitySecret_inj : qualitySecret label = qualitySecret label' ↔ label = label' := by
  rw [qualitySecret, qualitySecret, List.append_cancel_left_eq, utf8_injective.eq_iff]

@[simp] theorem gameSecret_inj : gameSecret id = gameSecret id' ↔ id = id' := by
  rw [gameSecret, gameSecret, List.append_cancel_left_eq, FixedBytes.val_injective.eq_iff]

end Names

theorem ne_of_stem {name name' : Bytes} {kind kind' : String} (first : stem name = utf8 kind)
    (second : stem name' = utf8 kind') (differ : kind ≠ kind') : name ≠ name' := by
  rintro rfl
  exact differ (utf8_injective (first.symm.trans second))

theorem getElem?_write (store : Store) (key value name : Bytes) :
    (store.insert key value)[name]? = if key = name then some value else store[name]? := by
  rw [ExtTreeMap.getElem?_insert]
  simp only [Std.compare_eq_iff_eq]

theorem getElem?_write_ne {store : Store} {key value name : Bytes} {kind kind' : String}
    (first : stem key = utf8 kind) (second : stem name = utf8 kind') (differ : kind ≠ kind') :
    (store.insert key value)[name]? = store[name]? := by
  rw [getElem?_write, if_neg (ne_of_stem first second differ)]

section Frames
variable (store : Store) (value : Bytes) (label label' : String) (id : GameId)

@[simp] theorem key_after_game : (store.insert (gameSecret id) value)[keySecret label]? = store[keySecret label]? :=
  getElem?_write_ne (stem_gameSecret _) (stem_keySecret _) (by decide)

@[simp] theorem bind_after_game :
    (store.insert (gameSecret id) value)[bindSecret label]? = store[bindSecret label]? :=
  getElem?_write_ne (stem_gameSecret _) (stem_bindSecret _) (by decide)

@[simp] theorem key_after_bind :
    (store.insert (bindSecret label) value)[keySecret label']? = store[keySecret label']? :=
  getElem?_write_ne (stem_bindSecret _) (stem_keySecret _) (by decide)

@[simp] theorem game_after_bind : (store.insert (bindSecret label) value)[gameSecret id]? = store[gameSecret id]? :=
  getElem?_write_ne (stem_bindSecret _) (stem_gameSecret _) (by decide)

@[simp] theorem game_after_key : (store.insert (keySecret label) value)[gameSecret id]? = store[gameSecret id]? :=
  getElem?_write_ne (stem_keySecret _) (stem_gameSecret _) (by decide)

@[simp] theorem bind_after_key :
    (store.insert (keySecret label) value)[bindSecret label']? = store[bindSecret label']? :=
  getElem?_write_ne (stem_keySecret _) (stem_bindSecret _) (by decide)

@[simp] theorem key_after_quality :
    (store.insert (qualitySecret label) value)[keySecret label']? = store[keySecret label']? :=
  getElem?_write_ne (stem_qualitySecret _) (stem_keySecret _) (by decide)

@[simp] theorem key_after_owner :
    (store.insert (ownerSecret label) value)[keySecret label']? = store[keySecret label']? :=
  getElem?_write_ne (stem_ownerSecret _) (stem_keySecret _) (by decide)

@[simp] theorem owner_after_quality :
    (store.insert (qualitySecret label) value)[ownerSecret label']? = store[ownerSecret label']? :=
  getElem?_write_ne (stem_qualitySecret _) (stem_ownerSecret _) (by decide)

@[simp] theorem owner_after_key :
    (store.insert (keySecret label) value)[ownerSecret label']? = store[ownerSecret label']? :=
  getElem?_write_ne (stem_keySecret _) (stem_ownerSecret _) (by decide)

end Frames

end Adjourn
