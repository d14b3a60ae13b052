import Adjourn.InSync

/-! A resignation is final. It has no group and is never evicted, and only a double-sign
ranks above it. -/

namespace Adjourn.Resignation
open OrderedMap NormalForm GameState

variable {rules : Rules} {crypto : Crypto} {params : GameParams} {records : Set Record}
  {start state : GameState} {ops : List Op} {color : Color} {rec : Record} {id : RecordId}

theorem resignedBy_of_held (held : state.records[id]? = some rec) (resigns : rec.body = .resign)
    (owner : rec.color params = some color) : state.resignedBy params color = true := by
  rw [resignedBy, List.any_eq_true]
  exact ⟨rec, mem_valuesOf.2 ⟨id, held⟩, decide_eq_true ⟨resigns, owner⟩⟩

theorem resignedBy_run (free : crypto.CollisionFree (Record.idInput '' records))
    (keyed : start.Keyed crypto) (valid : start.allValid crypto params = true)
    (inside : ∀ rec ∈ offered start ops, rec ∈ records)
    (resigned : start.resignedBy params color = true) :
    (run crypto params start ops).resignedBy params color = true := by
  obtain ⟨before, after⟩ := Forfeit.between_start free keyed valid inside
  have early : ∀ rec ∈ valuesOf start.records, rec ∈ offered start ops :=
    fun rec member => List.mem_append_left _ member
  have known : ∀ rec ∈ valuesOf start.records, rec ∈ records := fun rec member => inside rec (early rec member)
  obtain ⟨rec, member, rest⟩ := (InSync.resignedBy_iff free known before).1 resigned
  exact (InSync.resignedBy_iff free inside after).2 ⟨rec, early rec member, rest⟩

theorem decision_of_mutual (honest : state.doubleSigned params = none)
    (resigns : state.resignedBy params color = true)
    (resigns' : state.resignedBy params color.other = true) :
    (state.project rules crypto params).decision = some ⟨none, .mutualResignation⟩ := by
  cases color <;> simp_all [project, decision, resigned, Color.other]

/-- The whole cascade where a player has resigned: a forfeit, both resignations, or a win
for the other side. -/
theorem decision_cases (rules : Rules) (crypto : Crypto) (resigns : state.resignedBy params color = true) :
    (∃ fraud, state.doubleSigned params = some fraud ∧
      (state.project rules crypto params).decision = some ⟨fraud.winner, .doubleSignForfeit⟩) ∨
    (state.project rules crypto params).decision = some ⟨none, .mutualResignation⟩ ∨
    (state.project rules crypto params).decision = some ⟨some color.other, .resignation⟩ := by
  cases found : state.doubleSigned params with
  | some fraud => exact .inl ⟨fraud, rfl, Forfeit.project_decision found⟩
  | none =>
    cases other : state.resignedBy params color.other with
    | true => exact .inr (.inl (decision_of_mutual found resigns other))
    | false => exact .inr (.inr (decision_of_resigned found resigns other))

/-- From a verified state that holds a player's resignation, every run ends in a game won
by the opponent, drawn by both resignations, or forfeited by a double-sign; and the player
wins only by the forfeit of an opponent who has doubled a ply while the player has not. -/
theorem resignation_final (rules : Rules) (crypto : Crypto) (params : GameParams) (records : Set Record)
    (start : GameState) (ops : List Op) (color : Color) (id : RecordId) (rec : Record)
    (free : crypto.CollisionFree (Record.idInput '' records))
    (keyed : start.Keyed crypto) (valid : start.allValid crypto params = true)
    (inside : ∀ rec ∈ offered start ops, rec ∈ records)
    (held : start.records[id]? = some rec) (resigns : rec.body = .resign)
    (owner : rec.color params = some color) :
    (((run crypto params start ops).project rules crypto params).decision =
        some ⟨some color.other, .resignation⟩ ∨
      ((run crypto params start ops).project rules crypto params).decision =
        some ⟨none, .mutualResignation⟩ ∨
      ∃ winner, ((run crypto params start ops).project rules crypto params).decision =
        some ⟨winner, .doubleSignForfeit⟩) ∧
    ∀ reason, ((run crypto params start ops).project rules crypto params).decision =
        some ⟨some color, reason⟩ →
      reason = .doubleSignForfeit ∧ (∃ ply, (run crypto params start ops).Doubled params color.other ply) ∧
        ∀ ply, ¬(run crypto params start ops).Doubled params color ply := by
  have stays := resignedBy_run free keyed valid inside (resignedBy_of_held held resigns owner)
  rcases decision_cases rules crypto stays with
    ⟨fraud, found, forfeited⟩ | drawn | lost
  · refine ⟨.inr (.inr ⟨fraud.winner, forfeited⟩), fun reason won => ?_⟩
    rw [forfeited, Option.some.injEq, Decision.mk.injEq] at won
    exact ⟨won.2.symm, ((proven_of_doubleSigned found).winner color).1 won.1⟩
  · refine ⟨.inr (.inl drawn), fun reason won => ?_⟩
    rw [drawn] at won
    cases won
  · refine ⟨.inl lost, fun reason won => ?_⟩
    rw [lost, Option.some.injEq, Decision.mk.injEq, Option.some.injEq] at won
    exact absurd won.1 color.other_ne

def blackResigns : Record := Record.sign Sample.crypto Sample.blackKey Sample.params .resign

/-- Black has resigned, and wins when White then signs two first moves. -/
theorem resignation_final_doubled :
    (∃ ply, (run Sample.crypto Sample.params (GameState.empty.absorbForTest Sample.crypto blackResigns)
      [.applyDelta [Sample.opening], .insertVerified Sample.queenPawn]).Doubled Sample.params .white ply) ∧
    ∀ ply, ¬(run Sample.crypto Sample.params (GameState.empty.absorbForTest Sample.crypto blackResigns)
      [.applyDelta [Sample.opening], .insertVerified Sample.queenPawn]).Doubled Sample.params .black ply := by
  refine ((resignation_final Sample.rules Sample.crypto Sample.params
    {rec | rec ∈ [blackResigns, Sample.opening, Sample.queenPawn]} _ _ .black
    (blackResigns.id Sample.crypto) blackResigns ?_ ((keyed_empty _).absorbForTest _) ?_ ?_ ?_ rfl ?_).2
      .doubleSignForfeit ?_).2
  · exact Sample.collisionFree_image _ _ (by decide +kernel)
  · decide +kernel
  · decide +kernel
  · decide +kernel
  · decide +kernel
  · decide +kernel

end Adjourn.Resignation
