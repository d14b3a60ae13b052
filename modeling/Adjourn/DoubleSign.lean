import Adjourn.NormalForm
import Adjourn.Project

/-! The structural double-sign: what the counting loops of `double_signed` compute,
and that it depends only on which moves were ever offered. -/

namespace Adjourn
open Std (ExtTreeMap)
open OrderedMap TopK NormalForm

namespace GameState

def Doubled (state : GameState) (params : GameParams) (color : Color) (ply : U16) : Prop :=
  ∃ (signer : KeyBytes) (id id' : RecordId), params.colorOf signer = some color ∧ id ≠ id' ∧
    state.groupAt id = some ⟨signer, .move, ply⟩ ∧ state.groupAt id' = some ⟨signer, .move, ply⟩

/-- What a reported double-sign says about the state: its ply is the first doubled
one, and a side wins it that has not doubled against one that has. -/
structure Fraud.Proven (fraud : Fraud) (state : GameState) (params : GameParams) : Prop where
  first : ∃ color, state.Doubled params color fraud.firstPly
  least : ∀ color ply, state.Doubled params color ply → fraud.firstPly ≤ ply
  winner : ∀ color, fraud.winner = some color ↔
    (∃ ply, state.Doubled params color.other ply) ∧ ∀ ply, ¬state.Doubled params color ply

variable {state : GameState} {params : GameParams} {color : Color} {ply : U16} {rec : Record}

def moveKey (rec : Record) : Option (KeyBytes ×ₗ U16) :=
  match rec.body with
  | .move ply _ _ => some (toLex (rec.signer, ply))
  | _ => none

theorem groupOf_eq_move {signer : KeyBytes} : groupOf rec = some ⟨signer, .move, ply⟩ ↔
    ∃ parent uci, rec.body = .move ply parent uci ∧ rec.signer = signer := by
  unfold groupOf
  cases body : rec.body <;> simp [Body.ply, Body.kind, and_comm]

theorem moveKey_eq {signer : KeyBytes} :
    moveKey rec = some (toLex (signer, ply)) ↔ groupOf rec = some ⟨signer, .move, ply⟩ := by
  rw [groupOf_eq_move]
  unfold moveKey
  cases body : rec.body <;> simp [and_comm]

theorem getD_moveCounts (signer : KeyBytes) (ply : U16) :
    state.moveCounts[toLex (signer, ply)]?.getD 0 =
      (keysIn groupOf state.records.toList ⟨signer, .move, ply⟩).length := by
  have loop : state.moveCounts = (valuesOf state.records).foldl (bump moveKey) ∅ := by
    unfold moveCounts
    congr 1
    funext counts rec
    unfold bump moveKey
    cases rec.body <;> rfl
  rw [loop, getD_foldl_bump, valuesOf, List.filter_map, List.length_map, keysIn, List.length_map]
  simp [Function.comp_def, moveKey_eq]

theorem two_le_count {signer : KeyBytes} :
    2 ≤ (keysIn groupOf state.records.toList ⟨signer, .move, ply⟩).length ↔
      ∃ id id' : RecordId, id ≠ id' ∧ state.groupAt id = some ⟨signer, .move, ply⟩ ∧
        state.groupAt id' = some ⟨signer, .move, ply⟩ := by
  have held : ∀ {id : RecordId}, state.groupAt id = some ⟨signer, .move, ply⟩ → id ∈ state.ids := by
    intro id own
    cases atId : state.records[id]? with
    | none => simp [groupAt, atId] at own
    | some rec => exact mem_ids.2 ⟨rec, atId⟩
  rw [two_le_length_iff ((state.keysIn_sorted _).imp ne_of_lt)]
  simp only [mem_keysIn]
  constructor
  · rintro ⟨id, ⟨-, own⟩, id', ⟨-, own'⟩, differs⟩
    exact ⟨id, id', differs, own, own'⟩
  · rintro ⟨id, id', differs, own, own'⟩
    exact ⟨id, ⟨held own, own⟩, id', ⟨held own', own'⟩, differs⟩

namespace Tally

def flag (tally : Tally) : Color → Bool
  | .white => tally.white
  | .black => tally.black

def Convicts (params : GameParams) (color : Color) (entry : (KeyBytes ×ₗ U16) × Nat) : Prop :=
  2 ≤ entry.2 ∧ params.colorOf (ofLex entry.1).1 = some color

theorem flag_add (tally : Tally) (entry : (KeyBytes ×ₗ U16) × Nat) :
    (tally.add params entry.1 entry.2).flag color = true ↔
      tally.flag color = true ∨ Convicts params color entry := by
  unfold add Convicts
  split_ifs with few
  · simp [not_le.2 few]
  · have enough : 2 ≤ entry.2 := not_lt.1 few
    cases owner : params.colorOf (ofLex entry.1).1 with
    | none => simp
    | some player => cases player <;> cases color <;> simp [flag, enough]

theorem firstPly_add (tally : Tally) (entry : (KeyBytes ×ₗ U16) × Nat) (bound : U16) :
    (∃ p ∈ (tally.add params entry.1 entry.2).firstPly, p ≤ bound) ↔
      (∃ p ∈ tally.firstPly, p ≤ bound) ∨
        (∃ color, Convicts params color entry) ∧ (ofLex entry.1).2 ≤ bound := by
  unfold add Convicts
  split_ifs with few
  · simp [not_le.2 few]
  · have enough : 2 ≤ entry.2 := not_lt.1 few
    cases owner : params.colorOf (ofLex entry.1).1 with
    | none => simp
    | some player =>
      cases earlier : tally.firstPly with
      | none => cases player <;> simp [note, earlier, enough]
      | some p => cases player <;> simp [note, earlier, enough]

/-- Both loops of `double_signed` by induction over the counted keys. -/
theorem flag_foldl (tally : Tally) (entries : List ((KeyBytes ×ₗ U16) × Nat)) :
    (entries.foldl (fun tally entry => tally.add params entry.1 entry.2) tally).flag color = true ↔
      tally.flag color = true ∨ ∃ entry ∈ entries, Convicts params color entry := by
  induction entries generalizing tally with
  | nil => simp
  | cons entry rest ih => rw [List.foldl_cons, ih, flag_add, List.exists_mem_cons_iff, or_assoc]

theorem firstPly_foldl (tally : Tally) (entries : List ((KeyBytes ×ₗ U16) × Nat)) (bound : U16) :
    (∃ p ∈ (entries.foldl (fun tally entry => tally.add params entry.1 entry.2) tally).firstPly,
        p ≤ bound) ↔
      (∃ p ∈ tally.firstPly, p ≤ bound) ∨
        ∃ entry ∈ entries, (∃ color, Convicts params color entry) ∧ (ofLex entry.1).2 ≤ bound := by
  induction entries generalizing tally with
  | nil => simp
  | cons entry rest ih => rw [List.foldl_cons, ih, firstPly_add, List.exists_mem_cons_iff, or_assoc]

end Tally

theorem exists_convicts : (∃ entry ∈ state.moveCounts.toList,
    Tally.Convicts params color entry ∧ (ofLex entry.1).2 = ply) ↔ state.Doubled params color ply := by
  constructor
  · rintro ⟨⟨key, n⟩, member, ⟨enough, owner⟩, rfl⟩
    obtain ⟨⟨signer, ply⟩, rfl⟩ := toLex.surjective key
    have counted : state.moveCounts[toLex (signer, ply)]? = some n :=
      ExtTreeMap.mem_toList_iff_getElem?_eq_some.1 member
    have length : state.moveCounts[toLex (signer, ply)]?.getD 0 = _ := getD_moveCounts signer ply
    rw [counted, Option.getD_some] at length
    have enough : 2 ≤ n := enough
    obtain ⟨id, id', differs, own, own'⟩ := two_le_count.1 (length ▸ enough)
    exact ⟨signer, id, id', owner, differs, own, own'⟩
  · rintro ⟨signer, id, id', owner, differs, own, own'⟩
    have enough := two_le_count.2 ⟨id, id', differs, own, own'⟩
    rw [← getD_moveCounts] at enough
    cases counted : state.moveCounts[toLex (signer, ply)]? with
    | none => simp [counted] at enough
    | some n =>
      rw [counted, Option.getD_some] at enough
      exact ⟨(toLex (signer, ply), n), ExtTreeMap.mem_toList_iff_getElem?_eq_some.2 counted,
        ⟨enough, owner⟩, rfl⟩

def finalTally (state : GameState) (params : GameParams) : Tally :=
  state.moveCounts.foldl (Tally.add params) ⟨false, false, none⟩

theorem flag_finalTally :
    (state.finalTally params).flag color = true ↔ ∃ ply, state.Doubled params color ply := by
  rw [finalTally, ExtTreeMap.foldl_eq_foldl_toList, Tally.flag_foldl]
  have start : (Tally.mk false false none).flag color = false := by cases color <;> rfl
  simp only [start, Bool.false_eq_true, false_or, ← exists_convicts]
  constructor
  · rintro ⟨entry, member, convicts⟩
    exact ⟨_, entry, member, convicts, rfl⟩
  · rintro ⟨-, entry, member, convicts, -⟩
    exact ⟨entry, member, convicts⟩

theorem firstPly_finalTally (bound : U16) :
    (∃ p ∈ (state.finalTally params).firstPly, p ≤ bound) ↔
      ∃ color ply, state.Doubled params color ply ∧ ply ≤ bound := by
  rw [finalTally, ExtTreeMap.foldl_eq_foldl_toList, Tally.firstPly_foldl]
  simp only [Option.mem_def, reduceCtorEq, false_and, exists_false, false_or, ← exists_convicts]
  constructor
  · rintro ⟨entry, member, ⟨color, convicts⟩, le⟩
    exact ⟨color, _, ⟨entry, member, convicts, rfl⟩, le⟩
  · rintro ⟨color, -, ⟨entry, member, convicts, rfl⟩, le⟩
    exact ⟨entry, member, ⟨color, convicts⟩, le⟩

theorem proven_of_doubleSigned {fraud : Fraud} (found : state.doubleSigned params = some fraud) :
    fraud.Proven state params := by
  have held : (state.finalTally params).firstPly = some fraud.firstPly ∧
      fraud.winner = (state.finalTally params).winner := by
    obtain ⟨ply, first, rfl⟩ := Option.map_eq_some_iff.1 found
    exact ⟨first, rfl⟩
  obtain ⟨first, winner⟩ := held
  have bounds : ∀ bound, fraud.firstPly ≤ bound ↔
      ∃ color ply, state.Doubled params color ply ∧ ply ≤ bound := by
    intro bound
    rw [← firstPly_finalTally, first]
    simp
  have white : (state.finalTally params).flag .white = true ↔ _ := flag_finalTally
  have black : (state.finalTally params).flag .black = true ↔ _ := flag_finalTally
  simp only [Tally.flag] at white black
  refine ⟨?_, fun color ply doubled => (bounds ply).2 ⟨color, ply, doubled, le_rfl⟩, ?_⟩
  · obtain ⟨color, ply, doubled, le⟩ := (bounds fraud.firstPly).1 le_rfl
    obtain rfl : ply = fraud.firstPly := le_antisymm le ((bounds ply).2 ⟨color, ply, doubled, le_rfl⟩)
    exact ⟨color, doubled⟩
  · intro color
    simp only [winner, Tally.winner, ← not_exists]
    cases color <;> simp only [Color.other, ← white, ← black] <;>
      cases (state.finalTally params).white <;> cases (state.finalTally params).black <;> simp

theorem doubleSigned_isSome :
    (state.doubleSigned params).isSome ↔ ∃ color ply, state.Doubled params color ply := by
  have bound : (∃ p ∈ (state.finalTally params).firstPly, p ≤ 65535) ↔ _ := firstPly_finalTally 65535
  have all : ∀ ply : U16, ply ≤ 65535 := fun ply => Nat.le_of_lt_succ ply.isLt
  have some' : (state.doubleSigned params).isSome = (state.finalTally params).firstPly.isSome :=
    Option.isSome_map ..
  rw [some', Option.isSome_iff_exists]
  simpa [all] using bound

theorem doubleSigned_eq_none :
    state.doubleSigned params = none ↔ ∀ color ply, ¬state.Doubled params color ply := by
  rw [← Option.not_isSome_iff_eq_none, doubleSigned_isSome]
  push Not
  rfl

theorem doubleSigned_congr {other : GameState}
    (same : ∀ color ply, state.Doubled params color ply ↔ other.Doubled params color ply) :
    state.doubleSigned params = other.doubleSigned params := by
  cases mine : state.doubleSigned params with
  | none =>
    refine (doubleSigned_eq_none.2 fun color ply doubled => ?_).symm
    exact doubleSigned_eq_none.1 mine color ply ((same color ply).2 doubled)
  | some fraud =>
    have proven := proven_of_doubleSigned mine
    obtain ⟨color, doubled⟩ := proven.first
    obtain ⟨fraud', theirs⟩ := Option.isSome_iff_exists.1
      (doubleSigned_isSome.2 ⟨color, _, (same color _).1 doubled⟩)
    have proven' := proven_of_doubleSigned theirs
    obtain ⟨color', doubled'⟩ := proven'.first
    have plies : fraud.firstPly = fraud'.firstPly :=
      le_antisymm (proven.least _ _ ((same _ _).2 doubled')) (proven'.least _ _ ((same _ _).1 doubled))
    have winners : fraud.winner = fraud'.winner := by
      refine Option.ext fun color => ?_
      rw [proven.winner, proven'.winner]
      simp only [same]
    rw [theirs]
    cases fraud
    cases fraud'
    simp_all

end GameState

namespace NormalForm

variable {crypto : Crypto} {params : GameParams} {records : Set Record} {offers offers' : List Record}
  {state : GameState} {color : Color} {ply : U16}

def DoubledIn (crypto : Crypto) (params : GameParams) (offers : List Record) (color : Color) (ply : U16) :
    Prop :=
  ∃ rec ∈ offers, ∃ rec' ∈ offers, rec.verify crypto params = true ∧ rec'.verify crypto params = true ∧
    rec.id crypto ≠ rec'.id crypto ∧ rec.color params = some color ∧
    groupOf rec = some ⟨rec.signer, .move, ply⟩ ∧ groupOf rec' = some ⟨rec.signer, .move, ply⟩

theorem DoubledIn.mono (fewer : ∀ rec ∈ offers, rec ∈ offers')
    (doubled : DoubledIn crypto params offers color ply) : DoubledIn crypto params offers' color ply := by
  obtain ⟨rec, member, rec', member', rest⟩ := doubled
  exact ⟨rec, fewer rec member, rec', fewer rec' member', rest⟩

/-- Eviction floors a move group at two, so a double-sign that was ever offered is
still visible, whichever records of the group are left. -/
theorem Between.doubled_iff (free : crypto.CollisionFree (Record.idInput '' records))
    (inside : ∀ rec ∈ offers, rec ∈ records) (between : Between crypto params offers state) :
    state.Doubled params color ply ↔ DoubledIn crypto params offers color ply := by
  have held : ∀ {id group}, state.groupAt id = some group → ∃ rec ∈ offers,
      rec.verify crypto params = true ∧ rec.id crypto = id ∧ groupOf rec = some group := by
    intro id group own
    cases atId : state.records[id]? with
    | none => simp [GameState.groupAt, atId] at own
    | some rec =>
      obtain ⟨rfl, valid, member⟩ := between.sound id rec atId
      exact ⟨rec, member, valid, rfl, (GameState.groupAt_of_get atId).symm.trans own⟩
  constructor
  · rintro ⟨signer, id, id', owner, differs, own, own'⟩
    obtain ⟨rec, member, valid, rfl, group⟩ := held own
    obtain ⟨rec', member', valid', rfl, group'⟩ := held own'
    obtain ⟨-, -, -, rfl⟩ := GameState.groupOf_eq_move.1 group
    exact ⟨rec, member, rec', member', valid, valid', differs, owner, group, group'⟩
  · rintro ⟨rec, member, rec', member', valid, valid', differs, owner, group, group'⟩
    have full : 2 ≤ {id ∈ offerIds crypto params offers |
        groupIn crypto params offers id = some ⟨rec.signer, .move, ply⟩}.card := by
      refine Nat.succ_le_iff.2 (Finset.one_lt_card.2 ⟨_, Finset.mem_filter.2 ⟨?_, ?_⟩, _,
        Finset.mem_filter.2 ⟨?_, ?_⟩, differs⟩)
      · exact mem_offerIds.2 ⟨rec, member, valid, rfl⟩
      · rw [groupIn_of_mem free inside member valid, group]
      · exact mem_offerIds.2 ⟨rec', member', valid', rfl⟩
      · rw [groupIn_of_mem free inside member' valid', group']
    have floored := card_group_cut (k := fun group : Group => group.kind.k)
      (g := ⟨rec.signer, .move, ply⟩) full
    obtain ⟨id, kept, id', kept', differs⟩ := Finset.one_lt_card.1 (Nat.succ_le_iff.1 floored)
    obtain ⟨kept, own⟩ := Finset.mem_filter.1 kept
    obtain ⟨kept', own'⟩ := Finset.mem_filter.1 kept'
    have atId := between.groupAt_eq free inside (between.cut_subset_ids free inside kept)
    have atId' := between.groupAt_eq free inside (between.cut_subset_ids free inside kept')
    exact ⟨rec.signer, id, id', owner, differs, atId.trans own, atId'.trans own'⟩

end NormalForm

end Adjourn
