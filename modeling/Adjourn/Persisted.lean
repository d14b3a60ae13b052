import Adjourn.Binding
import Adjourn.StructMap

/-! Game records outlive the delegate that wrote them. A record is read from a keyed map by
serde's derived visitor, in which `previous` alone may be missing. -/

namespace Adjourn.Persisted
open Cbor StructMap

/-- The fields of a `GameRecord`, in declaration order. -/
inductive Field where
  | format
  | label
  | params
  | side
  | origin
  | contract
  | previous
  | entropy
  | lastSignedPly
  | lastMoveBodyHash
  deriving DecidableEq

namespace Field

def all : List Field :=
  [.format, .label, .params, .side, .origin, .contract, .previous, .entropy, .lastSignedPly, .lastMoveBodyHash]

def name : Field → String
  | .format => "v"
  | .label => "label"
  | .params => "params"
  | .side => "side"
  | .origin => "origin"
  | .contract => "contract"
  | .previous => "previous"
  | .entropy => "entropy"
  | .lastSignedPly => "last_signed_ply"
  | .lastMoveBodyHash => "last_move_body_hash"

def ofName (name : String) : Option Field := all.find? fun field => field.name = name

def Value : Field → Type
  | .format => Byte
  | .label => String
  | .params => GameParams
  | .side => Side
  | .origin => Option Bytes32
  | .contract => Bytes32
  | .previous => Option Bytes32
  | .entropy => EntropyQuality
  | .lastSignedPly => U16
  | .lastMoveBodyHash => Bytes32

def item : (field : Field) → field.Value → Item
  | .format, byte => .uint (byte : Byte).val
  | .label, text => .text text
  | .params, players => GameParams.toItem players
  | .side, ours => Side.toItem ours
  | .origin, id => idItem id
  | .contract, id => .bytes (id : Bytes32).val
  | .previous, id => idItem id
  | .entropy, quality => EntropyQuality.toItem quality
  | .lastSignedPly, ply => .uint (ply : U16).val
  | .lastMoveBodyHash, hash => .bytes (hash : Bytes32).val

theorem mem_all (field : Field) : field ∈ all := by cases field <;> decide

theorem ofName_name (field : Field) : ofName field.name = some field := by cases field <;> decide

theorem ofName_eq_some {text : String} {field : Field} (named : ofName text = some field) : text = field.name := by
  have same := List.find?_some named
  exact (of_decide_eq_true same).symm

theorem item_injective (field : Field) : Function.Injective field.item := by
  intro value other same
  cases field
  case format => exact Fin.ext (Item.uint.inj same)
  case label => exact Item.text.inj same
  case params => exact GameParams.toItem_injective same
  case side => exact Side.toItem_injective same
  case origin => exact idItem_injective same
  case contract => exact FixedBytes.ext (Item.bytes.inj same)
  case previous => exact idItem_injective same
  case entropy => exact EntropyQuality.toItem_injective same
  case lastSignedPly => exact Fin.ext (Item.uint.inj same)
  case lastMoveBodyHash => exact FixedBytes.ext (Item.bytes.inj same)

end Field

/-- ciborium under serde's visitors: the entries of a map at the front of some bytes, and what
its keys and values read as. `datum` is what a written item is read back as. -/
structure MapReader where
  Datum : Type
  datum : Item → Datum
  entries : Bytes → Option (List (Datum × Datum))
  identifier : Datum → Option String
  value : (field : Field) → Datum → Option field.Value

namespace MapReader
variable (reader : MapReader)

def visitor : Visitor reader.Datum reader.Datum Field Field.Value where
  field key := (reader.identifier key).map Field.ofName
  value := reader.value

end MapReader

/-- A missing field is an error, but for `previous`, which has a default. -/
def ofFields (seen : Seen Field.Value) : Option GameRecord := do
  let format : Byte ← seen .format
  let label : String ← seen .label
  let params : GameParams ← seen .params
  let side : Side ← seen .side
  let origin : Option Bytes32 ← seen .origin
  let contract : Bytes32 ← seen .contract
  let previous : Option Bytes32 := (seen .previous).getD none
  let entropy : EntropyQuality ← seen .entropy
  let lastSignedPly : U16 ← seen .lastSignedPly
  let lastMoveBodyHash : Bytes32 ← seen .lastMoveBodyHash
  return { format, label, params, side, origin, contract, previous, entropy, lastSignedPly, lastMoveBodyHash }

def MapReader.gameRecord (reader : MapReader) (bytes : Bytes) : Option GameRecord :=
  ((reader.entries bytes).bind reader.visitor.visitMap).bind ofFields

def fieldOf (record : GameRecord) : (field : Field) → field.Value
  | .format => record.format
  | .label => record.label
  | .params => record.params
  | .side => record.side
  | .origin => record.origin
  | .contract => record.contract
  | .previous => record.previous
  | .entropy => record.entropy
  | .lastSignedPly => record.lastSignedPly
  | .lastMoveBodyHash => record.lastMoveBodyHash

/-- The record as the delegate before this one wrote it. -/
structure GameRecordFormat2 where
  format : Byte
  label : String
  params : GameParams
  side : Side
  origin : Option Bytes32
  contract : Bytes32
  entropy : EntropyQuality
  lastSignedPly : U16
  lastMoveBodyHash : Bytes32

def GameRecordFormat2.toItem (old : GameRecordFormat2) : Item :=
  .map [(.text "v", .uint old.format.val), (.text "label", .text old.label),
    (.text "params", old.params.toItem), (.text "side", old.side.toItem),
    (.text "origin", idItem old.origin), (.text "contract", .bytes old.contract.val),
    (.text "entropy", old.entropy.toItem), (.text "last_signed_ply", .uint old.lastSignedPly.val),
    (.text "last_move_body_hash", .bytes old.lastMoveBodyHash.val)]

def GameRecordFormat2.upgraded (old : GameRecordFormat2) : GameRecord where
  format := GAME_RECORD_FORMAT
  label := old.label
  params := old.params
  side := old.side
  origin := old.origin
  contract := old.contract
  previous := none
  entropy := old.entropy
  lastSignedPly := old.lastSignedPly
  lastMoveBodyHash := old.lastMoveBodyHash

structure MapReader.RoundTrips (reader : MapReader) : Prop where
  entries : ∀ written : List (Item × Item), (∃ record : GameRecord, record.toItem = .map written) ∨
    (∃ old : GameRecordFormat2, old.toItem = .map written) →
      reader.entries (Item.map written).encode =
        some (written.map fun entry => (reader.datum entry.1, reader.datum entry.2))
  identifier : ∀ name, reader.identifier (reader.datum (.text name)) = some name
  value : ∀ (field : Field) (value : field.Value), reader.value field (reader.datum (field.item value)) = some value

def MapReader.secrets (reader : MapReader) (base : SecretReader) : SecretReader :=
  { base with gameRecord := reader.gameRecord }

theorem toItem_eq (record : GameRecord) :
    record.toItem = .map (Field.all.map fun field => (.text field.name, field.item (fieldOf record field))) := rfl

def fieldsFormat2 : List Field := Field.all.filter fun field => decide (field ≠ .previous)

def GameRecordFormat2.decoded (old : GameRecordFormat2) : GameRecord :=
  { old.upgraded with format := old.format }

theorem GameRecordFormat2.toItem_eq (old : GameRecordFormat2) :
    old.toItem =
      .map (fieldsFormat2.map fun field => (.text field.name, field.item (fieldOf old.decoded field))) := rfl

section Fields
variable {seen : Seen Field.Value} {record : GameRecord}

theorem ofFields_eq (known : ∀ field ≠ .previous, seen field = some (fieldOf record field))
    (previous : (seen .previous).getD none = record.previous) : ofFields seen = some record := by
  unfold ofFields
  rw [known .format (by decide), known .label (by decide), known .params (by decide), known .side (by decide),
    known .origin (by decide), known .contract (by decide), known .entropy (by decide),
    known .lastSignedPly (by decide), known .lastMoveBodyHash (by decide)]
  exact congrArg (fun id => some { record with previous := id }) previous

theorem seen_of_ofFields (read : ofFields seen = some record) {field : Field} (needed : field ≠ .previous) :
    seen field = some (fieldOf record field) := by
  unfold ofFields at read
  obtain ⟨format, seenFormat, read⟩ := Option.bind_eq_some_iff.1 read
  obtain ⟨label, seenLabel, read⟩ := Option.bind_eq_some_iff.1 read
  obtain ⟨params, seenParams, read⟩ := Option.bind_eq_some_iff.1 read
  obtain ⟨side, seenSide, read⟩ := Option.bind_eq_some_iff.1 read
  obtain ⟨origin, seenOrigin, read⟩ := Option.bind_eq_some_iff.1 read
  obtain ⟨contract, seenContract, read⟩ := Option.bind_eq_some_iff.1 read
  obtain ⟨entropy, seenEntropy, read⟩ := Option.bind_eq_some_iff.1 read
  obtain ⟨ply, seenPly, read⟩ := Option.bind_eq_some_iff.1 read
  obtain ⟨hash, seenHash, read⟩ := Option.bind_eq_some_iff.1 read
  obtain rfl := Option.some.inj read
  cases field
  case previous => exact absurd rfl needed
  all_goals assumption

end Fields

section Reads
variable {reader : MapReader} {record : GameRecord} {bytes : Bytes} {field : Field}

theorem gameRecord_eq_some : reader.gameRecord bytes = some record ↔
    ∃ entries seen, reader.entries bytes = some entries ∧ reader.visitor.visitMap entries = some seen ∧
      ofFields seen = some record := by
  rw [MapReader.gameRecord, Option.bind_eq_some_iff]
  constructor
  · rintro ⟨seen, visited, read⟩
    obtain ⟨entries, parsed, visited⟩ := Option.bind_eq_some_iff.1 visited
    exact ⟨entries, seen, parsed, visited, read⟩
  · rintro ⟨entries, seen, parsed, visited, read⟩
    exact ⟨seen, by rw [parsed]; exact visited, read⟩

theorem visitor_field {key : reader.Datum} :
    reader.visitor.field key = some (some field) ↔ reader.identifier key = some field.name := by
  change (reader.identifier key).map Field.ofName = _ ↔ _
  rw [Option.map_eq_some_iff]
  constructor
  · rintro ⟨name, named, known⟩
    rw [named, Field.ofName_eq_some known]
  · exact fun named => ⟨field.name, named, field.ofName_name⟩

theorem entry_of_gameRecord (read : reader.gameRecord bytes = some record) (needed : field ≠ .previous) :
    ∃ entries, reader.entries bytes = some entries ∧ ∃ entry ∈ entries,
      reader.identifier entry.1 = some field.name ∧ reader.value field entry.2 = some (fieldOf record field) := by
  obtain ⟨entries, seen, parsed, visited, filled⟩ := gameRecord_eq_some.1 read
  obtain ⟨entry, member, named, value⟩ :=
    (Visitor.visitMap_iff visited field _).1 (seen_of_ofFields filled needed)
  exact ⟨entries, parsed, entry, member, visitor_field.1 named, value⟩

theorem value_of_gameRecord (read : reader.gameRecord bytes = some record) (needed : field ≠ .previous)
    {entries : List (reader.Datum × reader.Datum)} (parsed : reader.entries bytes = some entries)
    {entry : reader.Datum × reader.Datum} (member : entry ∈ entries)
    (named : reader.identifier entry.1 = some field.name) {value : field.Value}
    (reads : reader.value field entry.2 = some value) : fieldOf record field = value := by
  obtain ⟨entries', seen, parsed', visited, filled⟩ := gameRecord_eq_some.1 read
  obtain rfl : entries = entries' := Option.some.inj (parsed.symm.trans parsed')
  have held := (Visitor.visitMap_iff visited field value).2 ⟨entry, member, visitor_field.2 named, reads⟩
  exact Option.some.inj ((seen_of_ofFields filled needed).symm.trans held)

theorem gameRecord_written (reads : reader.RoundTrips) {fields : List Field} (distinct : fields.Nodup)
    (complete : ∀ field ≠ .previous, field ∈ fields) (defaulted : .previous ∉ fields → record.previous = none)
    (parsed : reader.entries bytes = some (fields.map fun field =>
      (reader.datum (.text field.name), reader.datum (field.item (fieldOf record field))))) :
    reader.gameRecord bytes = some record := by
  have named : ∀ field : Field, reader.visitor.field (reader.datum (.text field.name)) = some (some field) :=
    fun field => visitor_field.2 (reads.identifier field.name)
  obtain ⟨seen, visited, held, absent⟩ :=
    Visitor.visitMap_written named (fun field => reads.value field (fieldOf record field)) distinct
  refine gameRecord_eq_some.2 ⟨_, seen, parsed, visited, ?_⟩
  refine ofFields_eq (fun field needed => held field (complete field needed)) ?_
  by_cases written : .previous ∈ fields
  · rw [held _ written]
    rfl
  · rw [absent _ written, defaulted written]
    rfl

theorem gameRecord_encode (reads : reader.RoundTrips) (record : GameRecord) :
    reader.gameRecord record.encode = some record := by
  refine gameRecord_written reads (by decide : Field.all.Nodup) (fun field _ => field.mem_all)
    (fun absent => absurd (Field.mem_all _) absent) ?_
  have parsed := reads.entries _ (.inl ⟨record, toItem_eq record⟩)
  rw [List.map_map] at parsed
  exact parsed

theorem gameRecord_format2 (reads : reader.RoundTrips) (old : GameRecordFormat2) :
    reader.gameRecord old.toItem.encode = some old.decoded := by
  refine gameRecord_written reads (by decide : fieldsFormat2.Nodup) (fun field needed => ?_) (fun _ => rfl) ?_
  · exact List.mem_filter.2 ⟨field.mem_all, decide_eq_true needed⟩
  · have parsed := reads.entries _ (.inr ⟨old, old.toItem_eq⟩)
    rw [List.map_map] at parsed
    exact parsed

end Reads

section Upgrades
variable {crypto : Crypto} {reader : MapReader} {base : SecretReader} {store : Store} {gameId : GameId}
  {record : GameRecord} {bytes : Bytes} {field : Field}

theorem read_of_loadGame (held : store[gameSecret gameId]? = some bytes)
    (loaded : loadGame (reader.secrets base) store gameId = some record) :
    ∃ old : GameRecord, reader.gameRecord bytes = some old ∧ migrateRecord old = some record := by
  rw [loadGame, held, Option.bind_some] at loaded
  exact Option.bind_eq_some_iff.1 loaded

theorem format_of_migrateRecord {old : GameRecord} (migrated : migrateRecord old = some record) :
    old.format = GAME_RECORD_FORMAT ∨ old.format = 2 := by
  unfold migrateRecord at migrated
  split_ifs at migrated with current earlier
  · exact .inl current
  · exact .inr earlier

theorem loadGame_format2 (reads : reader.RoundTrips) {old : GameRecordFormat2} (earlier : old.format = 2)
    (held : store[gameSecret gameId]? = some old.toItem.encode) :
    loadGame (reader.secrets base) store gameId = some old.upgraded := by
  rw [loadGame, held, Option.bind_some]
  change (reader.gameRecord old.toItem.encode).bind migrateRecord = _
  rw [gameRecord_format2 reads, Option.bind_some, migrateRecord]
  have decoded : old.decoded.format = 2 := earlier
  rw [if_neg (by rw [decoded]; decide), if_pos decoded]
  rfl

theorem loadGame_of_missing (held : store[gameSecret gameId]? = some bytes) (needed : field ≠ .previous)
    (missing : ∀ entries, reader.entries bytes = some entries →
      ∀ entry ∈ entries, reader.identifier entry.1 ≠ some field.name) :
    loadGame (reader.secrets base) store gameId = none := by
  refine Option.eq_none_iff_forall_ne_some.2 fun record loaded => ?_
  obtain ⟨old, read, -⟩ := read_of_loadGame held loaded
  obtain ⟨entries, parsed, entry, member, named, -⟩ := entry_of_gameRecord read needed
  exact missing entries parsed entry member named

theorem loadGame_of_format (held : store[gameSecret gameId]? = some bytes)
    {entries : List (reader.Datum × reader.Datum)} (parsed : reader.entries bytes = some entries)
    {entry : reader.Datum × reader.Datum} (member : entry ∈ entries) (named : reader.identifier entry.1 = some "v")
    {format : Byte} (reads : reader.value .format entry.2 = some format) (other : format ≠ GAME_RECORD_FORMAT)
    (other' : format ≠ 2) : loadGame (reader.secrets base) store gameId = none := by
  refine Option.eq_none_iff_forall_ne_some.2 fun record loaded => ?_
  obtain ⟨old, read, migrated⟩ := read_of_loadGame held loaded
  have needed : Field.format ≠ .previous := by decide
  have same : old.format = format := value_of_gameRecord read needed parsed member named reads
  rcases format_of_migrateRecord migrated with current | earlier
  · exact other (same ▸ current)
  · exact other' (same ▸ earlier)

theorem storeGame_held {host : Host} (stored : (storeGame crypto host store record).ok = true) :
    (storeGame crypto host store record).store[gameSecret (record.gameId crypto)]? = some record.encode := by
  rw [Delegate.storeGame_ok, Bool.and_eq_true] at stored
  rw [Delegate.storeGame_game, if_pos stored.1]

/-- Persisted records survive an upgrade of the delegate. A stored record of the current
format is loaded as it was; one of the format before is loaded with every field it had, and
no previous contract. A payload with another format byte is not loaded, nor is one without
the counter or the hash of the last move: these two always come from the payload. -/
theorem records_survive (crypto : Crypto) (reader : MapReader) (base : SecretReader) (reads : reader.RoundTrips) :
    (∀ (host : Host) (store : Store) (record : GameRecord), record.format = GAME_RECORD_FORMAT →
      (storeGame crypto host store record).ok = true →
        loadGame (reader.secrets base) (storeGame crypto host store record).store (record.gameId crypto) =
          some record) ∧
    ∀ (store : Store) (gameId : GameId),
      (∀ old : GameRecordFormat2, old.format = 2 → store[gameSecret gameId]? = some old.toItem.encode →
        loadGame (reader.secrets base) store gameId = some old.upgraded) ∧
      ∀ bytes : Bytes, store[gameSecret gameId]? = some bytes →
        (∀ entries, reader.entries bytes = some entries → ∀ entry ∈ entries, ∀ format : Byte,
          reader.identifier entry.1 = some "v" → reader.value .format entry.2 = some format →
            format ≠ 3 → format ≠ 2 → loadGame (reader.secrets base) store gameId = none) ∧
        ∀ field ∈ [Field.lastSignedPly, .lastMoveBodyHash],
          ((∀ entries, reader.entries bytes = some entries →
              ∀ entry ∈ entries, reader.identifier entry.1 ≠ some field.name) →
            loadGame (reader.secrets base) store gameId = none) ∧
          ∀ record, loadGame (reader.secrets base) store gameId = some record →
            ∃ entries, reader.entries bytes = some entries ∧ ∃ entry ∈ entries,
              reader.identifier entry.1 = some field.name ∧
                reader.value field entry.2 = some (fieldOf record field) := by
  refine ⟨fun host store record current stored => ?_, fun store gameId => ⟨?_, fun bytes held => ⟨?_, ?_⟩⟩⟩
  · rw [loadGame, storeGame_held stored, Option.bind_some]
    change (reader.gameRecord record.encode).bind migrateRecord = _
    rw [gameRecord_encode reads, Option.bind_some, migrateRecord_of_format current]
  · exact fun old earlier held => loadGame_format2 reads earlier held
  · exact fun entries parsed entry member format named value other other' =>
      loadGame_of_format held parsed member named value other other'
  · intro field counted
    have needed : field ≠ .previous := by
      rintro rfl
      exact absurd counted (by decide)
    refine ⟨loadGame_of_missing held needed, fun record loaded => ?_⟩
    obtain ⟨old, read, migrated⟩ := read_of_loadGame held loaded
    obtain ⟨-, -, -, ply, hash⟩ := migrateRecord_eq_some migrated
    have kept : fieldOf record field = fieldOf old field := by
      simp only [List.mem_cons, List.not_mem_nil, or_false] at counted
      rcases counted with rfl | rfl
      · exact ply
      · exact hash
    rw [kept]
    exact entry_of_gameRecord read needed

end Upgrades

/-- The strictest reader of written maps. -/
noncomputable def MapReader.exact : MapReader where
  Datum := Item
  datum item := item
  entries bytes := ((invert Item.encode bytes).toOption).bind fun item =>
    match item with
    | .map written => some written
    | _ => none
  identifier item :=
    match item with
    | .text name => some name
    | _ => none
  value field item := Function.partialInv field.item item

theorem MapReader.exact_roundTrips : MapReader.exact.RoundTrips where
  entries written _ := by
    have read := invert_encode encode_selfDelimiting.injective (Item.map written)
    simp only [MapReader.exact, read, Except.toOption, Option.bind_some]
    exact congrArg some (List.map_id written).symm
  identifier name := rfl
  value field value := Function.partialInv_left field.item_injective value

def earlierRecord : GameRecordFormat2 where
  format := 2
  label := "white"
  params := Sample.params
  side := .white
  origin := none
  contract := zeros
  entropy := .hostBacked
  lastSignedPly := 3
  lastMoveBodyHash := zeros

theorem records_survive_upgrade :
    loadGame (MapReader.exact.secrets SecretReader.exact)
        ((∅ : Store).insert (gameSecret (Sample.params.gameId Sample.crypto)) earlierRecord.toItem.encode)
        (Sample.params.gameId Sample.crypto) = some earlierRecord.upgraded :=
  ((records_survive Sample.crypto MapReader.exact SecretReader.exact MapReader.exact_roundTrips).2 _ _).1
    earlierRecord rfl (by rw [getElem?_write, if_pos rfl])

end Adjourn.Persisted
