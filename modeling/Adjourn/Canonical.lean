import Adjourn.RecordCount

/-! The wire formats, read as grammars: which sequences of records and which byte strings
are accepted, and that what is accepted is written back in one canonical order. -/

namespace Adjourn.Canonical
open Std (ExtTreeMap)
open Cbor OrderedMap

section States
variable {crypto : Crypto} {reader : Reader} {state : GameState} {records others : List Record}

theorem decode_eq_some (reads : reader.RoundTrips) :
    GameState.decode crypto reader (encodeRecords records) = some state ↔
    state.records.toList.Perm (records.map fun rec => (rec.id crypto, rec)) := by
  rw [← insertDistinct_eq_some_iff, GameState.decode, GameState.deserialize, reads.records]
  change (GameState.ofRecords crypto records).toOption = some state ↔ _
  unfold GameState.ofRecords
  cases insertDistinct (records.map fun rec => (rec.id crypto, rec)) ∅ with
  | none => simp [Except.toOption]
  | some map =>
    cases state
    simp [Except.toOption]

theorem decode_perm (reads : reader.RoundTrips) (perm : records.Perm others) :
    GameState.decode crypto reader (encodeRecords records) =
      GameState.decode crypto reader (encodeRecords others) := by
  have entries := perm.map fun rec => (rec.id crypto, rec)
  refine Option.ext fun state => ?_
  rw [decode_eq_some reads, decode_eq_some reads]
  exact ⟨fun first => first.trans entries, fun second => second.trans entries.symm⟩

theorem exists_decode_iff (reads : reader.RoundTrips) :
    (∃ state, GameState.decode crypto reader (encodeRecords records) = some state) ↔
      (records.map (Record.id crypto)).Nodup := by
  have ids : (records.map fun rec => (rec.id crypto, rec)).map Prod.fst = records.map (Record.id crypto) := by
    rw [List.map_map]
    rfl
  rw [← ids, ← exists_insertDistinct_iff]
  simp only [decode_eq_some reads, insertDistinct_eq_some_iff]
  exact ⟨fun ⟨state, perm⟩ => ⟨state.records, perm⟩, fun ⟨map, perm⟩ => ⟨⟨map⟩, perm⟩⟩

theorem valuesOf_perm (decoded : state.records.toList.Perm (records.map fun rec => (rec.id crypto, rec))) :
    (valuesOf state.records).Perm records := by
  have whole := decoded.map Prod.snd
  rw [List.map_map] at whole
  exact whole.trans (.of_eq (List.map_id records))

theorem valuesOf_sorted (keyed : state.Keyed crypto) :
    ((valuesOf state.records).map (Record.id crypto)).Pairwise (· < ·) := by
  have ids : (valuesOf state.records).map (Record.id crypto) = state.records.toList.map Prod.fst := by
    rw [valuesOf, List.map_map]
    refine List.map_congr_left fun entry member => ?_
    exact keyed entry.1 entry.2 (ExtTreeMap.mem_toList_iff_getElem?_eq_some.1 member)
  rw [ids]
  exact keys_sorted state.records

theorem decode_encode (reads : reader.RoundTrips) (keyed : state.Keyed crypto) :
    GameState.decode crypto reader state.encode = some state := by
  rw [GameState.decode, GameState.deserialize_encode reads keyed]
  rfl

theorem keyed_of_decode {bytes : Bytes} (decoded : GameState.decode crypto reader bytes = some state) :
    state.Keyed crypto := by
  unfold GameState.decode at decoded
  cases read : GameState.deserialize crypto reader bytes with
  | error fault => simp [read, Except.toOption] at decoded
  | ok game =>
    obtain rfl : game = state := by simpa [read, Except.toOption] using decoded
    exact GameState.keyed_deserialize read

/-- A state held under its own ids is read back as it was, and only equal states have equal
bytes. Of lists of records, those without a repeated id are decoded, in any order, to the
state that holds each record under its id; its bytes are the records in id order. -/
theorem state_wire (crypto : Crypto) (reader : Reader) (reads : reader.RoundTrips) :
    (∀ state : GameState, state.Keyed crypto → GameState.decode crypto reader state.encode = some state) ∧
    (∀ state other : GameState, state.Keyed crypto → other.Keyed crypto →
      state.encode = other.encode → state = other) ∧
    ∀ records : List Record,
      ((∃ state, GameState.decode crypto reader (encodeRecords records) = some state) ↔
        (records.map (Record.id crypto)).Nodup) ∧
      (∀ others : List Record, others.Perm records →
        GameState.decode crypto reader (encodeRecords others) =
          GameState.decode crypto reader (encodeRecords records)) ∧
      ∀ state, GameState.decode crypto reader (encodeRecords records) = some state →
        (∀ (id : RecordId) (rec : Record),
          state.records[id]? = some rec ↔ rec ∈ records ∧ rec.id crypto = id) ∧
        ∃ sorted : List Record, sorted.Perm records ∧ (sorted.map (Record.id crypto)).Pairwise (· < ·) ∧
          state.encode = encodeRecords sorted := by
  refine ⟨fun state keyed => decode_encode reads keyed, ?_, ?_⟩
  · intro state other keyed keyed' same
    have read := decode_encode reads keyed
    rw [same, decode_encode reads keyed'] at read
    exact (Option.some.inj read).symm
  · intro records
    refine ⟨exists_decode_iff reads, fun others perm => decode_perm reads perm, fun state decoded => ?_⟩
    have entries := (decode_eq_some reads).1 decoded
    refine ⟨fun id rec => ?_, valuesOf state.records, valuesOf_perm entries,
      valuesOf_sorted (keyed_of_decode decoded), rfl⟩
    rw [← ExtTreeMap.mem_toList_iff_getElem?_eq_some, entries.mem_iff, List.mem_map]
    constructor
    · rintro ⟨rec, member, same⟩
      cases same
      exact ⟨member, rfl⟩
    · rintro ⟨member, rfl⟩
      exact ⟨rec, member, rfl⟩

theorem state_wire_forgery :
    ¬∃ state, GameState.decode Sample.crypto Reader.exact (encodeRecords [Sample.opening, Sample.forgery]) =
      some state := by
  intro decoded
  have distinct := ((state_wire Sample.crypto Reader.exact Reader.exact_roundTrips).2.2
    [Sample.opening, Sample.forgery]).1.1 decoded
  exact absurd distinct (by decide +kernel)

end States

section Summaries
variable {reader : Reader} {summary : Summary} {buf buf' : Bytes}

def entryBytes (entry : RecordId × SigDigest) : Bytes := entry.1.val ++ entry.2.val

theorem entryBytes_injective : Function.Injective entryBytes := by
  intro entry other same
  obtain ⟨ids, digests⟩ := fixedBytes_selfDelimiting 32 _ _ _ _ same
  exact Prod.ext ids (FixedBytes.val_injective digests)

theorem take_entryBytes (entry : RecordId × SigDigest) : (entryBytes entry).take 32 = entry.1.val :=
  List.take_left' entry.1.length_eq

theorem length_of_whole (whole : buf.length % 64 = 0) : buf.length = 64 * (buf.length / 64) := by
  omega

/-- The entries of a buffer of whole entries, as the loop reads them. -/
def entriesOf (buf : Bytes) (whole : buf.length % 64 = 0) : List (RecordId × SigDigest) :=
  (chunksExact 64 (buf.length / 64) buf (length_of_whole whole)).map fun chunk => FixedBytes.split 32 32 chunk

theorem map_entriesOf (whole : buf.length % 64 = 0) : (entriesOf buf whole).map entryBytes = chunks 64 buf := by
  rw [chunks, ← map_val_chunksExact (length_of_whole whole), entriesOf, List.map_map]
  exact List.map_congr_left fun block _ => List.take_append_drop 32 block.val

theorem unpack_eq_ok (whole : buf.length % 64 = 0) :
    Summary.unpack buf = .ok summary ↔ summary.toList.Perm (entriesOf buf whole) := by
  rw [Summary.unpack, dif_pos whole, ← insertDistinct_eq_some_iff]
  dsimp only
  split
  next entries found =>
    exact ⟨fun same => found.trans (congrArg some (Except.ok.inj same)),
      fun same => congrArg Except.ok (Option.some.inj (found.symm.trans same))⟩
  next absent => exact ⟨(fun same => by cases same), (fun same => by cases absent.symm.trans same)⟩

theorem whole_of_unpack (decoded : Summary.unpack buf = .ok summary) : buf.length % 64 = 0 := by
  by_contra broken
  rw [Summary.unpack, dif_neg broken] at decoded
  cases decoded

theorem exists_unpack_iff : (∃ summary, Summary.unpack buf = .ok summary) ↔
    buf.length % 64 = 0 ∧ ((chunks 64 buf).map (List.take 32)).Nodup := by
  have ids (whole : buf.length % 64 = 0) :
      (chunks 64 buf).map (List.take 32) = ((entriesOf buf whole).map Prod.fst).map FixedBytes.val := by
    rw [← map_entriesOf whole, List.map_map, List.map_map]
    exact List.map_congr_left fun entry _ => take_entryBytes entry
  have accepted (whole : buf.length % 64 = 0) : (∃ summary, Summary.unpack buf = .ok summary) ↔
      ((chunks 64 buf).map (List.take 32)).Nodup := by
    rw [ids whole, List.nodup_map_iff FixedBytes.val_injective, ← exists_insertDistinct_iff]
    simp only [unpack_eq_ok whole, insertDistinct_eq_some_iff]
  constructor
  · rintro ⟨summary, decoded⟩
    have whole := whole_of_unpack decoded
    exact ⟨whole, (accepted whole).1 ⟨summary, decoded⟩⟩
  · rintro ⟨whole, distinct⟩
    exact (accepted whole).2 distinct

theorem pack_eq (summary : Summary) : summary.pack = (summary.toList.map entryBytes).flatten := rfl

/-- The chunks of what a summary packs to are its entries, in id order. -/
theorem chunks_pack (summary : Summary) : chunks 64 summary.pack = summary.toList.map entryBytes := by
  have packed : summary.pack =
      (summary.toList.map fun entry => FixedBytes.append entry.1 entry.2).flatMap FixedBytes.val := by
    rw [Summary.pack, List.flatMap_map]
    rfl
  rw [packed, chunks_flatMap (by decide), List.map_map]
  rfl

theorem chunks_pack_perm (decoded : Summary.unpack buf = .ok summary) :
    (chunks 64 summary.pack).Perm (chunks 64 buf) := by
  have whole := whole_of_unpack decoded
  rw [chunks_pack, ← map_entriesOf whole]
  exact ((unpack_eq_ok whole).1 decoded).map entryBytes

theorem chunks_pack_sorted (summary : Summary) :
    ((chunks 64 summary.pack).map (List.take 32)).Pairwise (· < ·) := by
  have ids : (chunks 64 summary.pack).map (List.take 32) = (summary.toList.map Prod.fst).map FixedBytes.val := by
    rw [chunks_pack, List.map_map, List.map_map]
    exact List.map_congr_left fun entry _ => take_entryBytes entry
  rw [ids, List.pairwise_map]
  exact keys_sorted summary

theorem getElem?_unpack (decoded : Summary.unpack buf = .ok summary) (id : RecordId) (digest : SigDigest) :
    summary[id]? = some digest ↔ id.val ++ digest.val ∈ chunks 64 buf := by
  have whole := whole_of_unpack decoded
  rw [← ExtTreeMap.mem_toList_iff_getElem?_eq_some, ((unpack_eq_ok whole).1 decoded).mem_iff,
    ← map_entriesOf whole]
  exact (List.mem_map_of_injective entryBytes_injective).symm

theorem unpack_perm (perm : (chunks 64 buf').Perm (chunks 64 buf)) (whole' : buf'.length % 64 = 0)
    (whole : buf.length % 64 = 0) (decoded : Summary.unpack buf = .ok summary) :
    Summary.unpack buf' = .ok summary := by
  rw [← map_entriesOf whole, ← map_entriesOf whole', List.map_perm_map_iff entryBytes_injective] at perm
  exact (unpack_eq_ok whole').2 (((unpack_eq_ok whole).1 decoded).trans perm.symm)

/-- A summary packs to 64 bytes an entry and is read back from them. A byte string is read as
a summary if it is made of whole 64-byte chunks no two of which begin with the same id: the
chunks are the entries, their order does not matter, and they are written back in id order. -/
theorem summary_wire (reader : Reader) (reads : reader.RoundTrips) :
    (∀ summary : Summary, summary.pack.length = 64 * summary.size ∧
      Summary.deserialize reader summary.encode = .ok summary) ∧
    ∀ buf : Bytes, Summary.deserialize reader (Item.bytes buf).encode = Summary.unpack buf ∧
      ((∃ summary, Summary.unpack buf = .ok summary) ↔
        buf.length % 64 = 0 ∧ ((chunks 64 buf).map (List.take 32)).Nodup) ∧
      ∀ summary, Summary.unpack buf = .ok summary →
        (∀ (id : RecordId) (digest : SigDigest),
          summary[id]? = some digest ↔ id.val ++ digest.val ∈ chunks 64 buf) ∧
        (∀ buf' : Bytes, buf'.length % 64 = 0 → (chunks 64 buf').Perm (chunks 64 buf) →
          Summary.unpack buf' = .ok summary) ∧
        (chunks 64 summary.pack).Perm (chunks 64 buf) ∧
        ((chunks 64 summary.pack).map (List.take 32)).Pairwise (· < ·) ∧
        summary.encode = (Item.bytes (chunks 64 summary.pack).flatten).encode := by
  refine ⟨fun summary => ⟨RecordCount.length_pack summary, Summary.deserialize_encode reads summary⟩, fun buf => ?_⟩
  refine ⟨by rw [Summary.deserialize, reads.byteBuf]; rfl, exists_unpack_iff, fun summary decoded => ?_⟩
  have whole := whole_of_unpack decoded
  refine ⟨getElem?_unpack decoded, fun buf' whole' perm => unpack_perm perm whole' whole decoded,
    chunks_pack_perm decoded, chunks_pack_sorted summary, ?_⟩
  rw [chunks_pack, ← pack_eq, Summary.encode]

theorem summary_wire_repeated : ¬∃ summary, Summary.unpack (List.replicate 128 7) = .ok summary := by
  intro decoded
  have distinct :=
    (((summary_wire Reader.exact Reader.exact_roundTrips).2 (List.replicate 128 7)).2.1.1 decoded).2
  exact absurd distinct (by decide +kernel)

end Summaries

end Adjourn.Canonical
