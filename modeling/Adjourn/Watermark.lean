import Mathlib

/-! A watermark: the largest index used so far, with a digest of what it was used for.
Going up, or repeating the last item, is all it admits, so no index is ever used for
two items of different digests. -/

namespace Adjourn.Watermark

@[ext] structure Mark (ι δ : Type) where
  index : ι
  digest : δ

variable {ι δ : Type} [LinearOrder ι] {mark next : Mark ι δ} {i : ι} {d d' : δ}

/-- Nothing different may be used at this index any more. -/
def Covers (mark : Mark ι δ) (i : ι) (d : δ) : Prop :=
  i < mark.index ∨ i = mark.index ∧ d = mark.digest

/-- The mark may move to this item. -/
def Admits (mark next : Mark ι δ) : Prop := mark.index < next.index ∨ next = mark

theorem covers_self (mark : Mark ι δ) : Covers mark mark.index mark.digest := .inr ⟨rfl, rfl⟩

theorem Covers.of_admits (covered : Covers mark i d) (admits : Admits mark next) : Covers next i d := by
  rcases admits with above | rfl
  · rcases covered with below | ⟨rfl, -⟩
    · exact .inl (below.trans above)
    · exact .inl above
  · exact covered

theorem eq_of_covers (covered : Covers mark i d) (admits : Admits mark ⟨i, d'⟩) : d = d' := by
  rcases admits with above | same
  · rcases covered with below | ⟨rfl, -⟩
    · exact absurd below (lt_asymm above)
    · exact absurd above (lt_irrefl _)
  · obtain ⟨rfl, rfl⟩ : i = mark.index ∧ d' = mark.digest := ⟨congrArg Mark.index same, congrArg Mark.digest same⟩
    rcases covered with below | ⟨-, rfl⟩
    · exact absurd below (lt_irrefl _)
    · rfl

/-- A log that the mark is ahead of: no index in it is used for two digests. -/
structure Safe (mark : Mark ι δ) (log : List (ι × δ)) : Prop where
  covered : ∀ item ∈ log, Covers mark item.1 item.2
  agree : ∀ item ∈ log, ∀ item' ∈ log, item.1 = item'.1 → item.2 = item'.2

variable {log : List (ι × δ)}

theorem safe_nil (mark : Mark ι δ) : Safe mark [] := ⟨by simp, by simp⟩

theorem Safe.of_admits (safe : Safe mark log) (admits : Admits mark next) : Safe next log :=
  ⟨fun item member => (safe.covered item member).of_admits admits, safe.agree⟩

theorem Safe.release (safe : Safe mark log) (admits : Admits mark next) :
    Safe next (log ++ [(next.index, next.digest)]) := by
  have fits : ∀ item ∈ log, item.1 = next.index → item.2 = next.digest := by
    intro item member same
    have covered := safe.covered item member
    rw [same] at covered
    exact eq_of_covers covered admits
  constructor
  · intro item member
    rcases List.mem_append.1 member with old | new
    · exact (safe.covered item old).of_admits admits
    · rw [List.mem_singleton.1 new]
      exact covers_self next
  · intro item member item' member' same
    rcases List.mem_append.1 member with old | new
    · rcases List.mem_append.1 member' with old' | new'
      · exact safe.agree item old item' old' same
      · rw [List.mem_singleton.1 new'] at same ⊢
        exact fits item old same
    · rw [List.mem_singleton.1 new] at same ⊢
      rcases List.mem_append.1 member' with old' | new'
      · exact (fits item' old' same.symm).symm
      · rw [List.mem_singleton.1 new']

end Adjourn.Watermark
