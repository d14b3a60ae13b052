import Adjourn.NormalForm

/-! States, deltas and summaries on the wire. The encodings are concrete; ciborium's
decoder is a parameter, and what the crate's own `Deserialize` impls do with what it
returns is concrete again. -/

namespace Adjourn
open Std (ExtTreeMap)
open Cbor OrderedMap

inductive DecodeError where
  | reader (text : String)
  | custom (message : String)
  deriving DecidableEq

/-- ciborium's `from_reader` at the types that are read from the wire. -/
structure Reader where
  records : Bytes → Except DecodeError (List Record)
  gameParams : Bytes → Except DecodeError GameParams
  byteBuf : Bytes → Except DecodeError Bytes

def Record.toItem (rec : Record) : Item :=
  .map [(.text "b", rec.body.toItem), (.text "k", .bytes rec.signer.val), (.text "s", .bytes rec.sig)]

theorem Record.toItem_injective : Function.Injective Record.toItem := by
  rintro ⟨body, signer, sig⟩ ⟨body', signer', sig'⟩ same
  simp only [Record.toItem, Item.map.injEq, List.cons.injEq, Prod.mk.injEq, Item.bytes.injEq,
    and_true, true_and] at same
  obtain ⟨bodies, signers, sigs⟩ := same
  rw [Body.toItem_injective bodies, FixedBytes.val_injective signers, sigs]

def encodeRecords (records : List Record) : Bytes := (Item.array (records.map Record.toItem)).encode

theorem encodeRecords_injective : Function.Injective encodeRecords := by
  intro records others same
  have items : Item.array (records.map Record.toItem) = .array (others.map Record.toItem) :=
    encode_selfDelimiting.injective same
  exact Record.toItem_injective.list_map (Item.array.inj items)

theorem encodeRecords_ne_nil (records : List Record) : encodeRecords records ≠ [] :=
  Item.encode_ne_nil _

def GameParams.toItem (params : GameParams) : Item :=
  .map [(.text "white", .bytes params.white.val), (.text "black", .bytes params.black.val),
    (.text "nonce", .bytes params.nonce.val)]

theorem GameParams.toItem_injective : Function.Injective GameParams.toItem := by
  rintro ⟨white, black, nonce⟩ ⟨white', black', nonce'⟩ same
  simp only [GameParams.toItem, Item.map.injEq, List.cons.injEq, Prod.mk.injEq, Item.bytes.injEq,
    and_true, true_and] at same
  obtain ⟨whites, blacks, nonces⟩ := same
  rw [FixedBytes.val_injective whites, FixedBytes.val_injective blacks, FixedBytes.val_injective nonces]

def GameParams.encode (params : GameParams) : Bytes := params.toItem.encode

theorem GameParams.encode_injective : Function.Injective GameParams.encode :=
  encode_selfDelimiting.injective.comp GameParams.toItem_injective

structure Reader.RoundTrips (reader : Reader) : Prop where
  records : ∀ records, reader.records (encodeRecords records) = .ok records
  gameParams : ∀ params, reader.gameParams (GameParams.encode params) = .ok params
  byteBuf : ∀ bytes, reader.byteBuf (Item.bytes bytes).encode = .ok bytes

open Classical in
noncomputable def invert {α : Type} (encode : α → Bytes) (bytes : Bytes) : Except DecodeError α :=
  if written : ∃ value, encode value = bytes then .ok written.choose
  else .error (.reader "not written by the encoder")

theorem invert_encode {α : Type} {encode : α → Bytes} (injective : Function.Injective encode) (value : α) :
    invert encode (encode value) = .ok value := by
  have written : ∃ other, encode other = encode value := ⟨value, rfl⟩
  rw [invert, dif_pos written]
  exact congrArg Except.ok (injective written.choose_spec)

/-- The strictest reader that round-trips. -/
noncomputable def Reader.exact : Reader where
  records := invert encodeRecords
  gameParams := invert GameParams.encode
  byteBuf := invert fun bytes => (Item.bytes bytes).encode

theorem Reader.exact_roundTrips : Reader.exact.RoundTrips where
  records := invert_encode encodeRecords_injective
  gameParams := invert_encode GameParams.encode_injective
  byteBuf := invert_encode fun _ _ same => Item.bytes.inj (encode_selfDelimiting.injective same)

namespace GameState

def encode (state : GameState) : Bytes := encodeRecords (valuesOf state.records)

/-- Duplicates mean crafted bytes, and decoding has no `params` to tell an honest
signature from a forgery: refused. -/
def ofRecords (crypto : Crypto) (records : List Record) : Except DecodeError GameState :=
  match insertDistinct (records.map fun rec => (rec.id crypto, rec)) ∅ with
  | some records => .ok ⟨records⟩
  | none => .error (.custom "two records share one id; state is malformed")

def deserialize (crypto : Crypto) (reader : Reader) (bytes : Bytes) : Except DecodeError GameState := do
  let records ← reader.records bytes
  ofRecords crypto records

def decode (crypto : Crypto) (reader : Reader) (bytes : Bytes) : Option GameState :=
  (deserialize crypto reader bytes).toOption

variable {crypto : Crypto} {reader : Reader} {state : GameState} {bytes : Bytes}

theorem keyed_ofRecords {records : List Record} (decodes : ofRecords crypto records = .ok state) :
    state.Keyed crypto := by
  unfold ofRecords at decodes
  cases built : insertDistinct (records.map fun rec => (rec.id crypto, rec)) ∅ with
  | none => simp [built] at decodes
  | some map =>
    rw [built] at decodes
    obtain rfl : ⟨map⟩ = state := Except.ok.inj decodes
    intro id rec held
    have member := (getElem?_insertDistinct built id rec).1 held
    simp only [ExtTreeMap.getElem?_empty, reduceCtorEq, List.mem_map, Prod.mk.injEq, false_or] at member
    obtain ⟨other, -, own, rfl⟩ := member
    exact own

theorem keyed_deserialize (decodes : deserialize crypto reader bytes = .ok state) :
    state.Keyed crypto := by
  unfold deserialize at decodes
  cases read : reader.records bytes with
  | error fault => simp [read, bind, Except.bind] at decodes
  | ok records =>
    rw [read] at decodes
    exact keyed_ofRecords decodes

theorem ofRecords_valuesOf (keyed : state.Keyed crypto) :
    ofRecords crypto (valuesOf state.records) = .ok state := by
  have entries : (valuesOf state.records).map (fun rec => (rec.id crypto, rec)) = state.records.toList := by
    rw [valuesOf, List.map_map]
    refine (List.map_congr_left fun entry member => ?_).trans (List.map_id _)
    have held := ExtTreeMap.mem_toList_iff_getElem?_eq_some.1 member
    exact Prod.ext (keyed entry.1 entry.2 held) rfl
  rw [ofRecords, entries, insertDistinct_toList]

theorem deserialize_encode (reads : reader.RoundTrips) (keyed : state.Keyed crypto) :
    deserialize crypto reader state.encode = .ok state := by
  rw [deserialize, encode, reads.records]
  exact ofRecords_valuesOf keyed

theorem encode_ne_nil (state : GameState) : state.encode ≠ [] := encodeRecords_ne_nil _

end GameState

namespace Summary

/-- `id ‖ digest` entries in id order. -/
def pack (summary : Summary) : Bytes :=
  summary.toList.flatMap fun (id, digest) => id.val ++ digest.val

def encode (summary : Summary) : Bytes := (Item.bytes summary.pack).encode

def unpack (buf : Bytes) : Except DecodeError Summary :=
  if whole : buf.length % 64 = 0 then
    let chunks := chunksExact 64 (buf.length / 64) buf (by omega)
    match insertDistinct (chunks.map fun chunk => FixedBytes.split 32 32 chunk) ∅ with
    | some entries => .ok entries
    | none => .error (.custom "summary repeats a record id")
  else .error (.custom "summary is not a whole number of 64-byte entries")

def deserialize (reader : Reader) (bytes : Bytes) : Except DecodeError Summary := do
  let buf ← reader.byteBuf bytes
  unpack buf

theorem unpack_pack (summary : Summary) : unpack summary.pack = .ok summary := by
  let blocks := summary.toList.map fun entry => FixedBytes.append entry.1 entry.2
  have packed : summary.pack = blocks.flatMap FixedBytes.val := by
    rw [pack, List.flatMap_map]
    rfl
  have size : summary.pack.length = 64 * blocks.length := by
    have each : ∀ block ∈ blocks, block.val.length = 64 := fun block _ => block.length_eq
    rw [packed, List.length_flatMap, List.map_congr_left each, List.map_const', List.sum_replicate,
      smul_eq_mul, mul_comm]
  have counted : blocks.length = summary.pack.length / 64 := by omega
  have entries : (chunksExact 64 (summary.pack.length / 64) summary.pack (by omega)).map
      (FixedBytes.split 32 32) = summary.toList := by
    have chunks : chunksExact 64 (summary.pack.length / 64) summary.pack (by omega) = blocks := by
      simp only [packed]
      exact chunksExact_flatMap blocks _ _ (by rw [counted, packed])
    rw [chunks, List.map_map]
    refine (List.map_congr_left fun entry _ => ?_).trans (List.map_id _)
    exact FixedBytes.split_append entry.1 entry.2
  have whole : summary.pack.length % 64 = 0 := by omega
  rw [unpack, dif_pos whole]
  simp only [entries, insertDistinct_toList]

theorem encode_injective : Function.Injective Summary.encode := by
  intro summary other same
  have packed := Item.bytes.inj (encode_selfDelimiting.injective same)
  have read := congrArg unpack packed
  rw [unpack_pack, unpack_pack] at read
  exact Except.ok.inj read

theorem deserialize_encode {reader : Reader} (reads : reader.RoundTrips) (summary : Summary) :
    deserialize reader summary.encode = .ok summary := by
  rw [deserialize, encode, reads.byteBuf]
  exact unpack_pack summary

theorem encode_ne_nil (summary : Summary) : summary.encode ≠ [] := Item.encode_ne_nil _

end Summary

end Adjourn
