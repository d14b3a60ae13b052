import Adjourn.Types

/-! The contract state and its operations: an id-keyed map of records, absorbed one
at a time and cut back by eviction. -/

namespace Adjourn
open Std (ExtTreeMap)
open Cbor OrderedMap

structure Group where
  signer : KeyBytes
  kind : Kind
  ply : U16

def Group.toTuple (group : Group) : KeyBytes ×ₗ Kind ×ₗ U16 :=
  toLex (group.signer, toLex (group.kind, group.ply))

theorem Group.toTuple_injective : Function.Injective Group.toTuple := by
  rintro ⟨_, _, _⟩ ⟨_, _, _⟩ same
  simpa [toTuple] using same

instance groupLinearOrder : LinearOrder Group := LinearOrder.lift' Group.toTuple Group.toTuple_injective

instance groupTransCmp : Std.TransCmp (compare : Group → Group → Ordering) := inferInstance

def groupOf (rec : Record) : Option Group :=
  rec.body.ply.map (Group.mk rec.signer rec.body.kind)

structure GameState where
  records : ExtTreeMap RecordId Record
  deriving DecidableEq

abbrev SigDigest := Bytes32
abbrev Summary := ExtTreeMap RecordId SigDigest
abbrev Delta := List Record

namespace GameState

def empty : GameState := ⟨∅⟩

/-- Insert one record, keeping the lexicographically smaller signature on collision.
The tiebreak runs only between records that verify. -/
def absorb (crypto : Crypto) (params : GameParams) (state : GameState) (rec : Record) : GameState :=
  let id := rec.id crypto
  -- held byte for byte: no signature check
  if state.records[id]?.any (fun held => held.sig == rec.sig) then state
  else if !rec.verify crypto params then state
  else
    match state.records[id]? with
    | some existing =>
      if existing.verify crypto params && decide (existing.sig ≤ rec.sig) then state
      else ⟨state.records.insert id rec⟩
    | none => ⟨state.records.insert id rec⟩

def groups (state : GameState) : ExtTreeMap Group (List RecordId) :=
  state.records.foldl (fun groups id rec =>
    match groupOf rec with
    | some group => groups.alter group (fun ids => some (ids.getD [] ++ [id]))
    | none => groups) ∅

def evict (state : GameState) : GameState :=
  ⟨state.groups.foldl (fun records group ids =>
    if group.kind.k < ids.length then (ids.drop group.kind.k).foldl ExtTreeMap.erase records
    else records) state.records⟩

def merge (crypto : Crypto) (params : GameParams) (state other : GameState) : GameState :=
  ((valuesOf other.records).foldl (absorb crypto params) state).evict

def merged (crypto : Crypto) (params : GameParams) (state other : GameState) : GameState :=
  merge crypto params state other

def insertVerified (crypto : Crypto) (params : GameParams) (state : GameState) (rec : Record) :
    GameState × Bool :=
  ((absorb crypto params state rec).evict, rec.verify crypto params)

def filterValid (crypto : Crypto) (params : GameParams) (state : GameState) : GameState :=
  merge crypto params empty state

def allValid (crypto : Crypto) (params : GameParams) (state : GameState) : Bool :=
  (valuesOf state.records).all (Record.verify crypto params)

def summarize (crypto : Crypto) (state : GameState) : Summary :=
  ExtTreeMap.ofList (state.records.toList.map fun (id, rec) => (id, rec.sigDigest crypto))

/-- The records the other peer is missing, or holds under a different signature. -/
def deltaAgainst (crypto : Crypto) (state : GameState) (summary : Summary) : Delta :=
  (state.records.toList.filter fun (id, rec) => summary[id]? != some (rec.sigDigest crypto)).map Prod.snd

def applyDelta (crypto : Crypto) (params : GameParams) (state : GameState) (delta : Delta) : GameState :=
  (delta.foldl (absorb crypto params) state).evict

/-- Inserts without verifying: the malformed states an attacker would send. -/
def absorbForTest (crypto : Crypto) (state : GameState) (rec : Record) : GameState :=
  ⟨state.records.insert (rec.id crypto) rec⟩

end GameState

end Adjourn
