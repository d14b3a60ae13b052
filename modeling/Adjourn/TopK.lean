import Mathlib

/-! Grouped top-K selection on finite sets of a linear order: each element belongs to
at most one group, and a group keeps its `k` smallest elements. Elements of no group
are always kept. -/

namespace Adjourn.TopK

variable {ι γ : Type} [LinearOrder ι] [DecidableEq γ] (group : ι → Option γ) (k : γ → Nat)

def below (A : Finset ι) (g : γ) (i : ι) : Finset ι := {j ∈ A | group j = some g ∧ j < i}

def Kept (A : Finset ι) (i : ι) : Prop := ∀ g ∈ group i, (below group A g i).card < k g

instance (A : Finset ι) (i : ι) : Decidable (Kept group k A i) :=
  inferInstanceAs (Decidable (∀ g ∈ group i, _))

def cut (A : Finset ι) : Finset ι := {i ∈ A | Kept group k A i}

variable {group k} {A B S : Finset ι} {i : ι} {g : γ}

theorem mem_cut : i ∈ cut group k A ↔ i ∈ A ∧ ∀ g ∈ group i, (below group A g i).card < k g :=
  Finset.mem_filter

theorem cut_subset : cut group k A ⊆ A := Finset.filter_subset _ _

theorem below_mono (included : A ⊆ B) : below group A g i ⊆ below group B g i :=
  Finset.filter_subset_filter _ included

theorem mem_cut_of_subset (included : A ⊆ B) (member : i ∈ A) (kept : i ∈ cut group k B) :
    i ∈ cut group k A := by
  refine mem_cut.2 ⟨member, fun g same => ?_⟩
  exact (Finset.card_le_card (below_mono included)).trans_lt ((mem_cut.1 kept).2 g same)

/-- Below a dropped element its group has a full complement of kept ones: look at
the least dropped element, below which nothing is dropped. -/
theorem le_card_below_cut (dropped : k g ≤ (below group A g i).card) :
    k g ≤ (below group (cut group k A) g i).card := by
  let lost : Finset ι := {j ∈ below group A g i | j ∉ cut group k A}
  by_cases none : lost = ∅
  · have same : below group A g i ⊆ below group (cut group k A) g i := by
      intro j member
      have kept : j ∈ cut group k A := by
        by_contra out
        have : j ∈ lost := Finset.mem_filter.2 ⟨member, out⟩
        rw [none] at this
        simp at this
      exact Finset.mem_filter.2 ⟨kept, (Finset.mem_filter.1 member).2⟩
    exact dropped.trans (Finset.card_le_card same)
  · obtain ⟨first, least⟩ := lost.exists_minimal (Finset.nonempty_iff_ne_empty.2 none)
    obtain ⟨inBelow, out⟩ := Finset.mem_filter.1 least.prop
    obtain ⟨inA, inGroup, lt⟩ := Finset.mem_filter.1 inBelow
    have full : k g ≤ (below group A g first).card := by
      by_contra short
      apply out
      refine mem_cut.2 ⟨inA, fun g' same => ?_⟩
      obtain rfl : g = g' := Option.some.inj (inGroup.symm.trans same)
      omega
    have kept : below group A g first ⊆ below group (cut group k A) g i := by
      intro j member
      obtain ⟨jA, jGroup, jLt⟩ := Finset.mem_filter.1 member
      have jBelow : j ∈ below group A g i := Finset.mem_filter.2 ⟨jA, jGroup, jLt.trans lt⟩
      have survives : j ∈ cut group k A := by
        by_contra lostToo
        have := least.le_of_le (Finset.mem_filter.2 ⟨jBelow, lostToo⟩) jLt.le
        exact absurd jLt (not_lt.2 this)
      exact Finset.mem_filter.2 ⟨survives, jGroup, jLt.trans lt⟩
    exact full.trans (Finset.card_le_card kept)

theorem cut_cut_union : cut group k (cut group k A ∪ B) = cut group k (A ∪ B) := by
  have included : cut group k A ∪ B ⊆ A ∪ B := Finset.union_subset_union_left cut_subset
  ext i
  constructor
  · intro kept
    obtain ⟨member, few⟩ := mem_cut.1 kept
    refine mem_cut.2 ⟨included member, fun g same => ?_⟩
    by_contra many
    have full : k g ≤ (below group (cut group k (A ∪ B)) g i).card := le_card_below_cut (not_lt.1 many)
    have early : cut group k (A ∪ B) ⊆ cut group k A ∪ B := by
      intro j survivor
      rcases Finset.mem_union.1 (cut_subset survivor) with inA | inB
      · exact Finset.mem_union_left _ (mem_cut_of_subset Finset.subset_union_left inA survivor)
      · exact Finset.mem_union_right _ inB
    have := Finset.card_le_card (below_mono early : below group _ g i ⊆ _)
    have := few g same
    omega
  · intro survivor
    refine mem_cut_of_subset included ?_ survivor
    rcases Finset.mem_union.1 (cut_subset survivor) with inA | inB
    · exact Finset.mem_union_left _ (mem_cut_of_subset Finset.subset_union_left inA survivor)
    · exact Finset.mem_union_right _ inB

theorem cut_union_cut : cut group k (cut group k A ∪ cut group k B) = cut group k (A ∪ B) := by
  rw [cut_cut_union, Finset.union_comm, cut_cut_union, Finset.union_comm]

theorem cut_idempotent : cut group k (cut group k A) = cut group k A := by
  have whole : cut group k (cut group k A ∪ ∅) = _ := cut_cut_union
  simpa using whole

/-- Anything between a set and its cut has that cut. -/
theorem cut_of_between (lower : cut group k A ⊆ S) (upper : S ⊆ A) : cut group k S = cut group k A := by
  have whole : cut group k (cut group k A ∪ S) = _ := cut_cut_union
  rwa [Finset.union_eq_right.2 lower, Finset.union_eq_left.2 upper] at whole

theorem card_group_cut (full : k g ≤ {j ∈ A | group j = some g}.card) :
    k g ≤ {j ∈ cut group k A | group j = some g}.card := by
  by_cases lost : ∃ i ∈ A, group i = some g ∧ i ∉ cut group k A
  · obtain ⟨i, inA, inGroup, out⟩ := lost
    have dropped : k g ≤ (below group A g i).card := by
      by_contra short
      apply out
      refine mem_cut.2 ⟨inA, fun g' same => ?_⟩
      obtain rfl : g = g' := Option.some.inj (inGroup.symm.trans same)
      omega
    refine (le_card_below_cut dropped).trans (Finset.card_le_card ?_)
    intro j member
    obtain ⟨kept, inGroup, -⟩ := Finset.mem_filter.1 member
    exact Finset.mem_filter.2 ⟨kept, inGroup⟩
  · push Not at lost
    refine full.trans (Finset.card_le_card ?_)
    intro j member
    obtain ⟨inA, inGroup⟩ := Finset.mem_filter.1 member
    exact Finset.mem_filter.2 ⟨lost j inA inGroup, inGroup⟩

theorem card_group_cut_le : {j ∈ cut group k A | group j = some g}.card ≤ k g := by
  by_cases some' : ({j ∈ cut group k A | group j = some g} : Finset ι).Nonempty
  · let last := Finset.max' _ some'
    obtain ⟨kept, inGroup⟩ := Finset.mem_filter.1 (Finset.max'_mem _ some')
    have few := (mem_cut.1 kept).2 g inGroup
    have others : ({j ∈ cut group k A | group j = some g} : Finset ι).erase last ⊆ below group A g last := by
      intro j member
      obtain ⟨differs, member⟩ := Finset.mem_erase.1 member
      obtain ⟨keptToo, inGroupToo⟩ := Finset.mem_filter.1 member
      have le : j ≤ last := Finset.le_max' _ j member
      exact Finset.mem_filter.2 ⟨cut_subset keptToo, inGroupToo, lt_of_le_of_ne le differs⟩
    have counted := Finset.card_le_card others
    rw [Finset.card_erase_of_mem (Finset.max'_mem _ some')] at counted
    exact Nat.le_of_pred_lt (counted.trans_lt few)
  · rw [Finset.not_nonempty_iff_eq_empty.1 some']
    exact Nat.zero_le _

theorem mem_cut_of_small (member : i ∈ A)
    (small : ∀ g ∈ group i, {j ∈ A | group j = some g}.card ≤ k g) : i ∈ cut group k A := by
  refine mem_cut.2 ⟨member, fun g same => ?_⟩
  have proper : below group A g i ⊂ {j ∈ A | group j = some g} := by
    refine ⟨fun j inBelow => ?_, fun all => ?_⟩
    · obtain ⟨jA, jGroup, -⟩ := Finset.mem_filter.1 inBelow
      exact Finset.mem_filter.2 ⟨jA, jGroup⟩
    · have := all (Finset.mem_filter.2 ⟨member, same⟩)
      exact lt_irrefl i (Finset.mem_filter.1 this).2.2
  exact (Finset.card_lt_card proper).trans_le (small g same)

theorem cut_congr {group' : ι → Option γ} (same : ∀ i ∈ A, group i = group' i) :
    cut group k A = cut group' k A := by
  have belows : ∀ g i, below group A g i = below group' A g i := fun g i =>
    Finset.filter_congr fun j member => by rw [same j member]
  ext i
  rw [mem_cut, mem_cut]
  refine and_congr_right fun member => ?_
  simp only [belows, same i member]

theorem sum_le_of_slots {ε σ : Type} [DecidableEq σ] {E : Finset ε} {T : Finset σ} (slot : ε → σ)
    (weight : ε → Nat) (room heaviest : σ → Nat) (covered : ∀ e ∈ E, slot e ∈ T)
    (few : ∀ s ∈ T, {e ∈ E | slot e = s}.card ≤ room s)
    (light : ∀ e ∈ E, weight e ≤ heaviest (slot e)) :
    ∑ e ∈ E, weight e ≤ ∑ s ∈ T, room s * heaviest s := by
  rw [← Finset.sum_fiberwise_of_maps_to covered]
  refine Finset.sum_le_sum fun s inT => ?_
  calc ∑ e ∈ E with slot e = s, weight e ≤ ∑ e ∈ E with slot e = s, heaviest s := by
        refine Finset.sum_le_sum fun e member => ?_
        obtain ⟨inE, same⟩ := Finset.mem_filter.1 member
        exact same ▸ light e inE
    _ = {e ∈ E | slot e = s}.card * heaviest s := by rw [Finset.sum_const, smul_eq_mul]
    _ ≤ room s * heaviest s := Nat.mul_le_mul_right _ (few s inT)

end Adjourn.TopK
