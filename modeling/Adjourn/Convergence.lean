import Adjourn.NormalForm
import Adjourn.Sample

/-! Convergence: a state is determined by the verifying records offered to it, and on
reachable states `merge` is a commutative idempotent monoid. -/

namespace Adjourn.Convergence
open Std (ExtTreeMap)
open OrderedMap NormalForm

/-- What runs are started from and fed with: a keyed valid state, at least one call,
and only records of the given universe. -/
structure Delivery (crypto : Crypto) (params : GameParams) (records : Set Record)
    (start : GameState) (ops : List Op) : Prop where
  nonempty : ops ≠ []
  keyed : start.Keyed crypto
  valid : start.allValid crypto params = true
  inside : ∀ rec ∈ offered start ops, rec ∈ records

def Reachable (crypto : Crypto) (params : GameParams) (records : Set Record) (state : GameState) : Prop :=
  ∃ start ops, Delivery crypto params records start ops ∧ state = run crypto params start ops

variable {crypto : Crypto} {params : GameParams} {records : Set Record}
  {state left right last : GameState} {start start' : GameState} {ops ops' : List Op}

theorem Delivery.represents (free : crypto.CollisionFree (Record.idInput '' records))
    (delivery : Delivery crypto params records start ops) :
    Represents crypto params (offered start ops) (run crypto params start ops) :=
  run_represents free start ops delivery.nonempty delivery.keyed delivery.valid delivery.inside

theorem Reachable.represents (free : crypto.CollisionFree (Record.idInput '' records))
    (reachable : Reachable crypto params records state) :
    ∃ offers, (∀ rec ∈ offers, rec ∈ records) ∧ Represents crypto params offers state := by
  obtain ⟨start, ops, delivery, rfl⟩ := reachable
  exact ⟨offered start ops, delivery.inside, delivery.represents free⟩

theorem represents_eq {offers offers' : List Record} (first : Represents crypto params offers left)
    (second : Represents crypto params offers' right)
    (same : ∀ rec, rec.verify crypto params = true → (rec ∈ offers ↔ rec ∈ offers')) : left = right := by
  refine first.unique fun id rec => ?_
  rw [second id rec]
  exact and_congr_right fun _ => (survives_congr same).symm

theorem represents_empty : Represents crypto params [] GameState.empty := by
  intro id rec
  constructor
  · intro held
    simp [GameState.empty] at held
  · rintro ⟨-, ⟨absent, -⟩, -⟩
    simp at absent

section Monoid
variable (free : crypto.CollisionFree (Record.idInput '' records))
  {a b c : List Record}
include free

theorem represents_filterValid (inside : ∀ rec ∈ valuesOf state.records, rec ∈ records) :
    Represents crypto params (valuesOf state.records) (state.filterValid crypto params) :=
  represents_empty.between.apply free (.merge state) inside

theorem merged_comm (inA : ∀ rec ∈ a, rec ∈ records) (inB : ∀ rec ∈ b, rec ∈ records)
    (first : Represents crypto params a left) (second : Represents crypto params b right) :
    left.merged crypto params right = right.merged crypto params left := by
  have both : ∀ rec ∈ a ++ b, rec ∈ records := List.forall_mem_append.2 ⟨inA, inB⟩
  have both' : ∀ rec ∈ b ++ a, rec ∈ records := List.forall_mem_append.2 ⟨inB, inA⟩
  refine represents_eq (first.merged free both second) (second.merged free both' first) ?_
  intro rec _
  rw [List.mem_append, List.mem_append, or_comm]

theorem merged_assoc (inA : ∀ rec ∈ a, rec ∈ records) (inB : ∀ rec ∈ b, rec ∈ records)
    (inC : ∀ rec ∈ c, rec ∈ records) (first : Represents crypto params a left)
    (second : Represents crypto params b right) (third : Represents crypto params c last) :
    (left.merged crypto params right).merged crypto params last =
      left.merged crypto params (right.merged crypto params last) := by
  have ab : ∀ rec ∈ a ++ b, rec ∈ records := List.forall_mem_append.2 ⟨inA, inB⟩
  have bc : ∀ rec ∈ b ++ c, rec ∈ records := List.forall_mem_append.2 ⟨inB, inC⟩
  refine represents_eq
    ((first.merged free ab second).merged free (List.forall_mem_append.2 ⟨ab, inC⟩) third)
    (first.merged free (List.forall_mem_append.2 ⟨inA, bc⟩) (second.merged free bc third)) ?_
  intro rec _
  rw [List.append_assoc]

theorem merged_self (inA : ∀ rec ∈ a, rec ∈ records) (first : Represents crypto params a left) :
    left.merged crypto params left = left := by
  refine represents_eq (first.merged free (List.forall_mem_append.2 ⟨inA, inA⟩) first) first ?_
  intro rec _
  rw [List.mem_append, or_self]

theorem merged_empty (inA : ∀ rec ∈ a, rec ∈ records) (first : Represents crypto params a left) :
    left.merged crypto params .empty = left := by
  refine represents_eq (first.merged free (by simpa using inA) represents_empty) first ?_
  intro rec _
  rw [List.append_nil]

theorem empty_merged (inA : ∀ rec ∈ a, rec ∈ records) (first : Represents crypto params a left) :
    GameState.empty.merged crypto params left = left :=
  represents_eq (represents_empty.merged free (by simpa using inA) first) first fun _ _ => Iff.rfl

end Monoid

/-- The state after any run is exactly the normal form of everything offered; runs
that offer the same verifying records agree, whatever the order, the batches, the
duplicates and the forgeries; and `merge` is a monoid on reachable states. -/
theorem normal_form_convergence (crypto : Crypto) (params : GameParams) (records : Set Record)
    (free : crypto.CollisionFree (Record.idInput '' records)) :
    (∀ start ops, Delivery crypto params records start ops →
      ∀ id rec, (run crypto params start ops).records[id]? = some rec ↔
        rec.id crypto = id ∧ Survives crypto params (offered start ops) rec) ∧
    (∀ start ops start' ops', Delivery crypto params records start ops →
      Delivery crypto params records start' ops' →
      (∀ rec, rec.verify crypto params = true → (rec ∈ offered start ops ↔ rec ∈ offered start' ops')) →
      run crypto params start ops = run crypto params start' ops') ∧
    (∀ left right last, Reachable crypto params records left → Reachable crypto params records right →
      Reachable crypto params records last →
      left.merged crypto params right = right.merged crypto params left ∧
      (left.merged crypto params right).merged crypto params last =
        left.merged crypto params (right.merged crypto params last) ∧
      left.merged crypto params left = left ∧
      left.merged crypto params .empty = left ∧
      GameState.empty.merged crypto params left = left) := by
  refine ⟨fun start ops delivery => delivery.represents free, ?_, ?_⟩
  · intro start ops start' ops' first second same
    exact represents_eq (first.represents free) (second.represents free) same
  · intro left right last reachA reachB reachC
    obtain ⟨a, inA, first⟩ := reachA.represents free
    obtain ⟨b, inB, second⟩ := reachB.represents free
    obtain ⟨c, inC, third⟩ := reachC.represents free
    exact ⟨merged_comm free inA inB first second, merged_assoc free inA inB inC first second third,
      merged_self free inA first, merged_empty free inA first, empty_merged free inA first⟩

/-- A forgery offered first leaves the slot to the record that verifies. -/
theorem normal_form_convergence_forgery :
    (run Sample.crypto Sample.params .empty
      [.applyDelta [Sample.forgery, Sample.opening]]).records[Sample.opening.id Sample.crypto]? =
        some Sample.opening ↔
      Sample.opening.id Sample.crypto = Sample.opening.id Sample.crypto ∧
        Survives Sample.crypto Sample.params
          (offered .empty [.applyDelta [Sample.forgery, Sample.opening]]) Sample.opening := by
  have free : Sample.crypto.CollisionFree
      (Record.idInput '' {rec | rec ∈ [Sample.forgery, Sample.opening]}) :=
    Sample.collisionFree_image _ _ (by decide +kernel)
  refine (normal_form_convergence Sample.crypto Sample.params _ free).1 _ _
    ⟨by simp, GameState.keyed_empty _, rfl, ?_⟩ _ _
  intro rec member
  exact member

end Adjourn.Convergence
