import Adjourn.IdlePlayer

/-! Agreed draws against the records of the player who offered. -/

namespace Adjourn.Agreement
open Std (ExtTreeMap)
open OrderedMap NormalForm GameState IdlePlayer

def pool (crypto : Crypto) (params : GameParams) (state : GameState) (op : Op) : GameState :=
  op.records.foldl (GameState.absorb crypto params) state

/-- An agreed draw, and a call that brings only records of the player who offered. -/
structure Agreed (rules : Rules) (crypto : Crypto) (params : GameParams) (records : Set Record)
    (state : GameState) (op : Op) (offerer : Color) : Prop where
  distinct : params.white ≠ params.black
  keyed : state.Keyed crypto
  valid : state.allValid crypto params = true
  normal : state.filterValid crypto params = state
  inside : ∀ rec ∈ valuesOf state.records ++ op.records, rec ∈ records
  decided : (state.project rules crypto params).decision = some ⟨none, .drawAgreement⟩
  through : ∃ id offer offerRec, state.LiveAccept rules crypto params id offer ∧
    state.records[offer]? = some offerRec ∧ offerRec.color params = some offerer
  only : ∀ rec ∈ op.records, rec.verify crypto params = true → rec.color params = some offerer

/-- The game is over, as an agreed draw or as the offerer's loss. -/
def StillDecided (rules : Rules) (crypto : Crypto) (params : GameParams) (offerer : Color)
    (state : GameState) : Prop :=
  (state.project rules crypto params).decision = some ⟨none, .drawAgreement⟩ ∨
    (state.project rules crypto params).decision = some ⟨some offerer.other, .resignation⟩ ∨
    (state.project rules crypto params).decision = some ⟨some offerer.other, .doubleSignForfeit⟩

variable {rules : Rules} {crypto : Crypto} {params : GameParams} {records : Set Record}
  {state : GameState} {op : Op} {offerer color : Color} {ply : U16}

section Setting
variable (free : crypto.CollisionFree (Record.idInput '' records))
  (setting : Agreed rules crypto params records state op offerer)
include setting

theorem Agreed.oneSided : OneSided crypto params records state op.records offerer :=
  ⟨setting.distinct, setting.keyed, setting.valid, setting.inside, setting.only⟩

theorem undecided : state.Undecided rules crypto params :=
  (decision_eq_agreement_iff.1 setting.decided).1

include free

theorem pooled : Between crypto params (valuesOf state.records ++ op.records) (pool crypto params state op) :=
  setting.oneSided.before.absorbAll free op.records setting.inside

theorem applied : Between crypto params (valuesOf state.records ++ op.records)
    (op.apply crypto params state) :=
  (setting.oneSided.before.apply free op setting.inside).between

theorem views : (pool crypto params state op).doubleSigned params =
      (op.apply crypto params state).doubleSigned params ∧
    (pool crypto params state op).finalWalk rules crypto params =
      (op.apply crypto params state).finalWalk rules crypto params ∧
    (pool crypto params state op).resigned params = (op.apply crypto params state).resigned params :=
  InSync.same_view free setting.inside (pooled free setting) (applied free setting)

theorem stillDecided_of_playing (honest : (op.apply crypto params state).doubleSigned params = none)
    (playing : (op.apply crypto params state).resigned params = (false, false)) :
    StillDecided rules crypto params offerer (op.apply crypto params state) ↔
      (pool crypto params state op).Undecided rules crypto params ∧
        ¬(pool crypto params state op).ForemostClaim rules crypto params ∧
        (pool crypto params state op).ForemostPair rules crypto params := by
  obtain ⟨frauds, walks, resignations⟩ := views free setting
  have evicted : op.apply crypto params state = (pool crypto params state op).evict := Op.apply_eq ..
  have agreed : StillDecided rules crypto params offerer (op.apply crypto params state) ↔
      ((op.apply crypto params state).project rules crypto params).decision = some ⟨none, .drawAgreement⟩ := by
    refine ⟨fun decided => ?_, .inl⟩
    rcases decided with agreed | resigned | forfeited
    · exact agreed
    · exact absurd rfl (reason_of_playing honest playing resigned).1
    · exact absurd rfl (reason_of_playing honest playing forfeited).2
  have open' : (op.apply crypto params state).Undecided rules crypto params ↔
      (pool crypto params state op).Undecided rules crypto params := by
    rw [Undecided, Undecided, frauds, walks, resignations]
  rw [agreed, decision_eq_agreement_iff, open', liveClaim_eq_none, liveAgreement_iff]
  rw [evicted] at walks ⊢
  rw [liveClaim_evict walks.symm, liveAccept_evict walks.symm]

theorem stillDecided_of_doubled (doubled : (pool crypto params state op).Doubled params offerer ply) :
    StillDecided rules crypto params offerer (op.apply crypto params state) := by
  obtain ⟨frauds, -, -⟩ := views free setting
  have shown := doubleSigned_isSome.2 ⟨offerer, ply, doubled⟩
  rw [frauds, doubleSigned_isSome] at shown
  obtain ⟨color, ply', doubled'⟩ := shown
  rcases color.eq_or_other offerer with rfl | rfl
  · exact .inr (.inr (setting.oneSided.decision_of_doubled (applied free setting) free (undecided setting) doubled'))
  · exact absurd doubled'
      (setting.oneSided.other_not_doubled (applied free setting) free (undecided setting) ply')

theorem stillDecided_of_resigned (honest : (pool crypto params state op).doubleSigned params = none)
    (resigns : (pool crypto params state op).resignedBy params offerer = true) :
    StillDecided rules crypto params offerer (op.apply crypto params state) := by
  obtain ⟨frauds, -, resignations⟩ := views free setting
  rw [resigned, resigned, Prod.mk.injEq] at resignations
  refine .inr (.inl (setting.oneSided.decision_of_resigned (applied free setting) free (undecided setting)
    (frauds ▸ honest) ?_))
  cases offerer <;> simp_all

/-- What the offerer's records do to an agreed draw, in general. -/
theorem stillDecided_iff : StillDecided rules crypto params offerer (op.apply crypto params state) ↔
    (∃ ply, (pool crypto params state op).Doubled params offerer ply) ∨
      (pool crypto params state op).resignedBy params offerer = true ∨
      ((pool crypto params state op).Undecided rules crypto params ∧
        ¬(pool crypto params state op).ForemostClaim rules crypto params ∧
        (pool crypto params state op).ForemostPair rules crypto params) := by
  obtain ⟨frauds, -, resignations⟩ := views free setting
  by_cases doubled : ∃ ply, (pool crypto params state op).Doubled params offerer ply
  · obtain ⟨ply, doubled⟩ := doubled
    exact iff_of_true (stillDecided_of_doubled free setting doubled) (.inl ⟨ply, doubled⟩)
  have honest := setting.oneSided.honest_of_not_doubled (pooled free setting) free (undecided setting) doubled
  by_cases resigns : (pool crypto params state op).resignedBy params offerer = true
  · exact iff_of_true (stillDecided_of_resigned free setting honest resigns) (.inr (.inl resigns))
  have playing :=
    setting.oneSided.playing_of_not_resigned (pooled free setting) free (undecided setting) resigns
  rw [stillDecided_of_playing free setting (frauds ▸ honest) (resignations ▸ playing)]
  simp [doubled, resigns]

section AcceptorToMove
variable (mover : colorAtPly (state.finalWalk rules crypto params).ply = offerer.other)
  (honest : (pool crypto params state op).doubleSigned params = none)
include mover honest

theorem quiet (playing : (pool crypto params state op).resigned params = (false, false))
    (turn : rules.turn (state.finalWalk rules crypto params).pos = offerer.other) :
    (pool crypto params state op).Undecided rules crypto params ∧
      ¬(pool crypto params state op).ForemostClaim rules crypto params := by
  have walks :=
    setting.oneSided.finalWalk_eq (pooled free setting) free (undecided setting) mover honest
  refine ⟨⟨honest, playing, ?_⟩, ?_⟩
  · rw [walks]
    exact (undecided setting).2.2
  · rintro ⟨grounded, id, ⟨rec, ply, held, body, owner⟩, -⟩
    rw [Grounded, walks] at grounded
    rw [walks] at owner
    rw [GameState.head, walks] at body
    have early : state.records[id]? = some rec :=
      setting.oneSided.held_before (pooled free setting) (owner.trans (congrArg some turn)) held
    have silent := (decision_eq_agreement_iff.1 setting.decided).2.1
    exact liveClaim_eq_none.1 silent ⟨grounded, id, rec, ply, early, body, owner⟩

end AcceptorToMove

theorem stillDecided_iff_of_mover (alternates : rules.Alternates)
    (turn : (state.project rules crypto params).turn = offerer.other) :
    StillDecided rules crypto params offerer (op.apply crypto params state) ↔
      (∃ ply, (pool crypto params state op).Doubled params offerer ply) ∨
        (pool crypto params state op).resignedBy params offerer = true ∨
        (pool crypto params state op).ForemostPair rules crypto params := by
  have turn' : rules.turn (state.finalWalk rules crypto params).pos = offerer.other := turn
  have mover : colorAtPly (state.finalWalk rules crypto params).ply = offerer.other :=
    (turn_walk alternates setting.valid).symm.trans turn'
  rw [stillDecided_iff free setting]
  refine or_congr_right' fun clean => or_congr_right' fun silent => ?_
  have honest := setting.oneSided.honest_of_not_doubled (pooled free setting) free (undecided setting) clean
  have playing :=
    setting.oneSided.playing_of_not_resigned (pooled free setting) free (undecided setting) silent
  obtain ⟨open', noClaim⟩ := quiet free setting mover honest playing turn'
  rw [and_iff_right open', and_iff_right noClaim]

end Setting

/-- After the offerer's records an agreed draw stands, or the offerer has lost, exactly
if he has double-signed or resigned, or the board and his claims leave the game open and
an acceptance that counts is first in its group together with its offer. With the
acceptor to move only the last part is in question. -/
theorem agreement_kept_iff (rules : Rules) (crypto : Crypto) (params : GameParams) (records : Set Record)
    (state : GameState) (op : Op) (offerer : Color)
    (free : crypto.CollisionFree (Record.idInput '' records))
    (setting : Agreed rules crypto params records state op offerer) :
    (StillDecided rules crypto params offerer (op.apply crypto params state) ↔
      (∃ ply, (pool crypto params state op).Doubled params offerer ply) ∨
        (pool crypto params state op).resignedBy params offerer = true ∨
        ((pool crypto params state op).Undecided rules crypto params ∧
          ¬(pool crypto params state op).ForemostClaim rules crypto params ∧
          (pool crypto params state op).ForemostPair rules crypto params)) ∧
    (rules.Alternates → (state.project rules crypto params).turn = offerer.other →
      (StillDecided rules crypto params offerer (op.apply crypto params state) ↔
        (∃ ply, (pool crypto params state op).Doubled params offerer ply) ∨
          (pool crypto params state op).resignedBy params offerer = true ∨
          (pool crypto params state op).ForemostPair rules crypto params)) :=
  ⟨stillDecided_iff free setting, stillDecided_iff_of_mover free setting⟩

theorem sample_agreed : Agreed Sample.rules Sample.crypto Sample.params
    {rec | rec ∈ [Sample.opening, Sample.laterOffer, Sample.laterAcceptance, Sample.laterDecoy]}
    Sample.agreed (.insertVerified Sample.laterDecoy) .white where
  distinct := by decide +kernel
  keyed := (((keyed_empty _).absorbForTest _).absorbForTest _).absorbForTest _
  valid := by decide +kernel
  normal := by decide +kernel
  inside := by decide +kernel
  decided := by decide +kernel
  through := by
    refine ⟨Sample.laterAcceptance.id Sample.crypto, Sample.laterOffer.id Sample.crypto, Sample.laterOffer,
      ⟨Sample.laterAcceptance, Sample.laterOffer, 1, 1, .black, .white, ?_⟩, ?_⟩ <;> decide +kernel
  only := by decide +kernel

/-- White's offer is accepted, Black is to move, and White signs a second offer under the
same ply index: the draw is gone. -/
theorem agreement_undone :
    Agreed Sample.rules Sample.crypto Sample.params
      {rec | rec ∈ [Sample.opening, Sample.laterOffer, Sample.laterAcceptance, Sample.laterDecoy]}
      Sample.agreed (.insertVerified Sample.laterDecoy) .white ∧
    (Sample.agreed.project Sample.rules Sample.crypto Sample.params).turn = .black ∧
    (((Op.insertVerified Sample.laterDecoy).apply Sample.crypto Sample.params Sample.agreed).project
      Sample.rules Sample.crypto Sample.params).decision = none :=
  ⟨sample_agreed, by decide +kernel, by decide +kernel⟩

theorem agreement_kept_iff_decoy :
    StillDecided Sample.rules Sample.crypto Sample.params .white
        ((Op.insertVerified Sample.laterDecoy).apply Sample.crypto Sample.params Sample.agreed) ↔
      (∃ ply, (pool Sample.crypto Sample.params Sample.agreed
          (.insertVerified Sample.laterDecoy)).Doubled Sample.params .white ply) ∨
        (pool Sample.crypto Sample.params Sample.agreed
          (.insertVerified Sample.laterDecoy)).resignedBy Sample.params .white = true ∨
        ((pool Sample.crypto Sample.params Sample.agreed (.insertVerified Sample.laterDecoy)).Undecided
            Sample.rules Sample.crypto Sample.params ∧
          ¬(pool Sample.crypto Sample.params Sample.agreed
            (.insertVerified Sample.laterDecoy)).ForemostClaim Sample.rules Sample.crypto Sample.params ∧
          (pool Sample.crypto Sample.params Sample.agreed
            (.insertVerified Sample.laterDecoy)).ForemostPair Sample.rules Sample.crypto Sample.params) :=
  (agreement_kept_iff Sample.rules Sample.crypto Sample.params _ Sample.agreed _ .white
    (Sample.collisionFree_image _ _ (by decide +kernel)) sample_agreed).1

end Adjourn.Agreement
