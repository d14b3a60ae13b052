import Adjourn.Chain

/-! Draw statements at the head: when a claim or an acceptance counts, and what they
contribute to the decision. -/

namespace Adjourn
open Std (ExtTreeMap)
open OrderedMap TopK

namespace GameState

section View
variable (rules : Rules) (crypto : Crypto) (params : GameParams) (state : GameState)

def finalWalk : Walk rules :=
  walk rules crypto state params ((state.doubleSigned params).map Fraud.firstPly)

def head : RecordId := headOf crypto params (state.finalWalk rules crypto params).chain

/-- A position that allows a claim: threefold repetition, or fifty moves by each side. -/
def Grounded : Prop :=
  THREEFOLD ≤ (state.finalWalk rules crypto params).repetitions ∨
    FIFTY_MOVE_HALFMOVES ≤ rules.halfmoves (state.finalWalk rules crypto params).pos

/-- Nothing that ranks above the draw statements has ended the game. -/
def Undecided : Prop :=
  state.doubleSigned params = none ∧ state.resigned params = (false, false) ∧
    boardResult rules (state.finalWalk rules crypto params) = none

def LiveClaim (id : RecordId) : Prop :=
  ∃ rec ply, state.records[id]? = some rec ∧ rec.body = .drawClaim ply (state.head rules crypto params) ∧
    rec.color params = some (rules.turn (state.finalWalk rules crypto params).pos)

/-- An acceptance of an offer, held by the state, that names the head and was made by
the other player. -/
def LiveAccept (id offer : RecordId) : Prop :=
  ∃ rec offerRec ply ply' accepter offerer, state.records[id]? = some rec ∧
    rec.body = .drawAccept ply offer ∧ state.records[offer]? = some offerRec ∧
    offerRec.body = .drawOffer ply' (state.head rules crypto params) ∧
    rec.color params = some accepter ∧ offerRec.color params = some offerer ∧ offerer ≠ accepter

def Foremost (state : GameState) (id : RecordId) : Prop :=
  ∀ id' < id, state.groupAt id' ≠ state.groupAt id

def ForemostClaim : Prop :=
  state.Grounded rules crypto params ∧
    ∃ id, state.LiveClaim rules crypto params id ∧ Foremost state id

/-- An acceptance that counts, first in its group as is the offer it accepts. -/
def ForemostPair : Prop :=
  ∃ id offer, state.LiveAccept rules crypto params id offer ∧ Foremost state id ∧ Foremost state offer

end View

variable {rules : Rules} {crypto : Crypto} {params : GameParams} {state other : GameState}

def ground (repetitions : Nat) : Reason :=
  if THREEFOLD ≤ repetitions then .threefoldClaim else .fiftyMoveClaim

theorem claims_eq_some {head : RecordId} {turn : Color} {repetitions halfmoves : Nat} {rec : Record}
    {reason : Reason} :
    claims params head turn repetitions halfmoves rec = some reason ↔
      (∃ ply, rec.body = .drawClaim ply head) ∧ rec.color params = some turn ∧
        (THREEFOLD ≤ repetitions ∨ FIFTY_MOVE_HALFMOVES ≤ halfmoves) ∧ reason = ground repetitions := by
  unfold claims ground
  cases body : rec.body with
  | drawClaim ply named =>
    by_cases anchored : named = head
    · by_cases mover : rec.color params = some turn
      · by_cases threefold : THREEFOLD ≤ repetitions
        · simp [anchored, mover, threefold, eq_comm]
        · by_cases fifty : FIFTY_MOVE_HALFMOVES ≤ halfmoves <;>
            simp [anchored, mover, threefold, fifty, eq_comm]
      · simp [anchored, mover]
    · simp [anchored]
  | _ => simp

theorem drawClaimed_eq_none {head : RecordId} {turn : Color} {repetitions halfmoves : Nat} :
    state.drawClaimed params head turn repetitions halfmoves = none ↔
      ∀ rec ∈ valuesOf state.records, claims params head turn repetitions halfmoves rec = none :=
  List.findSome?_eq_none_iff

theorem drawClaimed_eq_some {head : RecordId} {turn : Color} {repetitions halfmoves : Nat}
    {reason : Reason} (claimed : state.drawClaimed params head turn repetitions halfmoves = some reason) :
    reason = ground repetitions := by
  obtain ⟨rec, -, counts⟩ := List.exists_of_findSome?_eq_some claimed
  exact (claims_eq_some.1 counts).2.2.2

theorem accepts_iff {head : RecordId} {rec : Record} :
    accepts state params head rec = true ↔
      ∃ offerRec ply offer ply' accepter offerer, rec.body = .drawAccept ply offer ∧
        state.records[offer]? = some offerRec ∧ offerRec.body = .drawOffer ply' head ∧
        rec.color params = some accepter ∧ offerRec.color params = some offerer ∧ offerer ≠ accepter := by
  unfold accepts
  cases body : rec.body with
  | drawAccept ply offer =>
    cases owner : rec.color params with
    | none => simp
    | some accepter =>
      cases held : state.records[offer]? with
      | none => simp [held]
      | some offerRec =>
        cases body' : offerRec.body with
        | drawOffer ply' named =>
          cases owner' : offerRec.color params with
          | none => simp [held, body', owner']
          | some offerer => simp [held, body', owner']
        | _ => simp [held, body']
  | _ => simp

section View
variable (rules : Rules) (crypto : Crypto) (params : GameParams) (state : GameState)

def liveClaim : Option Reason :=
  state.drawClaimed params (state.head rules crypto params)
    (rules.turn (state.finalWalk rules crypto params).pos)
    (state.finalWalk rules crypto params).repetitions
    (rules.halfmoves (state.finalWalk rules crypto params).pos)

def liveAgreement : Bool := state.drawAgreed params (state.head rules crypto params)

end View

theorem liveClaim_eq_none : state.liveClaim rules crypto params = none ↔
    ¬(state.Grounded rules crypto params ∧ ∃ id, state.LiveClaim rules crypto params id) := by
  rw [liveClaim, drawClaimed_eq_none]
  constructor
  · rintro silent ⟨grounded, id, rec, ply, held, body, mover⟩
    have none' := silent rec (mem_valuesOf.2 ⟨id, held⟩)
    have some' := claims_eq_some.2 ⟨⟨ply, body⟩, mover, grounded, rfl⟩
    rw [none'] at some'
    exact absurd some' (by simp)
  · intro absent rec member
    obtain ⟨id, held⟩ := mem_valuesOf.1 member
    cases counts : claims params (state.head rules crypto params)
        (rules.turn (state.finalWalk rules crypto params).pos)
        (state.finalWalk rules crypto params).repetitions
        (rules.halfmoves (state.finalWalk rules crypto params).pos) rec with
    | none => rfl
    | some reason =>
      obtain ⟨⟨ply, body⟩, mover, grounded, -⟩ := claims_eq_some.1 counts
      exact absurd ⟨grounded, id, rec, ply, held, body, mover⟩ absent

theorem isSome_liveClaim : (state.liveClaim rules crypto params).isSome ↔
    state.Grounded rules crypto params ∧ ∃ id, state.LiveClaim rules crypto params id := by
  rw [← Option.ne_none_iff_isSome, ne_eq, liveClaim_eq_none, not_not]

theorem liveAgreement_iff : state.liveAgreement rules crypto params = true ↔
    ∃ id offer, state.LiveAccept rules crypto params id offer := by
  rw [liveAgreement, drawAgreed, List.any_eq_true]
  constructor
  · rintro ⟨rec, member, counts⟩
    obtain ⟨id, held⟩ := mem_valuesOf.1 member
    obtain ⟨offerRec, ply, offer, ply', accepter, offerer, body, rest⟩ := accepts_iff.1 counts
    exact ⟨id, offer, rec, offerRec, ply, ply', accepter, offerer, held, body, rest⟩
  · rintro ⟨id, offer, rec, offerRec, ply, ply', accepter, offerer, held, body, rest⟩
    exact ⟨rec, mem_valuesOf.2 ⟨id, held⟩,
      accepts_iff.2 ⟨offerRec, ply, offer, ply', accepter, offerer, body, rest⟩⟩

theorem project_eq_of_walk
    (walks : state.finalWalk rules crypto params = other.finalWalk rules crypto params) :
    (state.project rules crypto params).chain = (other.project rules crypto params).chain ∧
      (state.project rules crypto params).ply = (other.project rules crypto params).ply ∧
      (state.project rules crypto params).fen = (other.project rules crypto params).fen :=
  ⟨congrArg Walk.chain walks, congrArg (fun w : Walk rules => Fin.ofNat 65536 w.chain.length) walks,
    congrArg (fun w : Walk rules => rules.fen w.pos) walks⟩

theorem decision_of_undecided (undecided : state.Undecided rules crypto params) :
    (state.project rules crypto params).decision =
      ((state.liveClaim rules crypto params).map (Decision.mk none)).or
        (if state.liveAgreement rules crypto params then some ⟨none, .drawAgreement⟩ else none) := by
  obtain ⟨honest, playing, open'⟩ := undecided
  have walked : state.finalWalk rules crypto params = walk rules crypto state params none := by
    simp [finalWalk, honest]
  rw [walked] at open'
  simp only [project, honest, decision, playing, liveClaim, liveAgreement, head, walked, open',
    Option.map_none, Option.none_or]

theorem liveClaim_ne_drawAgreement : state.liveClaim rules crypto params ≠ some .drawAgreement := by
  intro claimed
  have fixed := drawClaimed_eq_some claimed
  rw [ground] at fixed
  split_ifs at fixed

theorem undecided_of_statement {decided : Decision}
    (statement : decided.reason = .drawAgreement ∨ decided.reason = .threefoldClaim ∨
      decided.reason = .fiftyMoveClaim)
    (outcome : (state.project rules crypto params).decision = some decided) :
    state.Undecided rules crypto params := by
  have unfolded : (state.project rules crypto params).decision =
    decision rules crypto state params (state.doubleSigned params)
      (state.finalWalk rules crypto params) := rfl
  rw [unfolded] at outcome
  unfold decision at outcome
  cases found : state.doubleSigned params with
  | some fraud =>
    rw [found] at outcome
    cases outcome
    simp at statement
  | none =>
    cases resigned' : state.resigned params with
    | mk white black =>
      cases result : boardResult rules (state.finalWalk rules crypto params) with
      | none =>
        have playing : white = false ∧ black = false := by
          rw [found, resigned'] at outcome
          cases white <;> cases black <;> simp_all <;> cases outcome <;> simp at statement
        obtain ⟨rfl, rfl⟩ := playing
        exact ⟨found, resigned', result⟩
      | some board =>
        have other : board.reason ≠ .drawAgreement ∧ board.reason ≠ .threefoldClaim ∧
            board.reason ≠ .fiftyMoveClaim := by
          unfold boardResult at result
          split_ifs at result <;> cases result <;> simp
        exfalso
        rw [found, resigned', result] at outcome
        cases white <;> cases black <;> cases outcome <;> simp_all

theorem decision_eq_agreement_iff :
    (state.project rules crypto params).decision = some ⟨none, .drawAgreement⟩ ↔
      state.Undecided rules crypto params ∧ state.liveClaim rules crypto params = none ∧
        state.liveAgreement rules crypto params = true := by
  by_cases undecided : state.Undecided rules crypto params
  · rw [decision_of_undecided undecided, and_iff_right undecided]
    cases claimed : state.liveClaim rules crypto params with
    | none => cases state.liveAgreement rules crypto params <;> simp
    | some reason =>
      have differs : reason ≠ .drawAgreement := fun same => liveClaim_ne_drawAgreement (same ▸ claimed)
      simp [differs]
  · exact ⟨fun agreed => absurd (undecided_of_statement (.inl rfl) agreed) undecided,
      fun ⟨fine, _⟩ => absurd fine undecided⟩

theorem decision_eq_claim_iff {reason : Reason}
    (claim : reason = .threefoldClaim ∨ reason = .fiftyMoveClaim) :
    (state.project rules crypto params).decision = some ⟨none, reason⟩ ↔
      state.Undecided rules crypto params ∧ state.liveClaim rules crypto params = some reason := by
  by_cases undecided : state.Undecided rules crypto params
  · rw [decision_of_undecided undecided, and_iff_right undecided]
    cases claimed : state.liveClaim rules crypto params with
    | none =>
      have differs : Reason.drawAgreement ≠ reason := by rcases claim with rfl | rfl <;> simp
      cases state.liveAgreement rules crypto params <;> simp [differs]
    | some _ => simp
  · exact ⟨fun outcome => absurd (undecided_of_statement (.inr claim) outcome) undecided,
      fun ⟨fine, _⟩ => absurd fine undecided⟩

theorem reason_of_playing {winner : Option Color} {reason : Reason}
    (honest : state.doubleSigned params = none) (playing : state.resigned params = (false, false))
    (decided : (state.project rules crypto params).decision = some ⟨winner, reason⟩) :
    reason ≠ .resignation ∧ reason ≠ .doubleSignForfeit := by
  cases result : boardResult rules (state.finalWalk rules crypto params) with
  | none =>
    rw [decision_of_undecided ⟨honest, playing, result⟩] at decided
    cases claimed : state.liveClaim rules crypto params with
    | none =>
      rw [claimed, Option.map_none, Option.none_or] at decided
      split_ifs at decided
      cases decided
      simp
    | some reason' =>
      have fixed := drawClaimed_eq_some claimed
      rw [claimed, Option.map_some, Option.some_or] at decided
      cases decided
      rw [fixed, ground]
      split_ifs <;> simp
  | some outcome =>
    have walked : state.finalWalk rules crypto params = walk rules crypto state params none := by
      simp [finalWalk, honest]
    rw [walked] at result
    simp only [project, honest, decision, playing, Option.map_none, result, Option.some_or,
      Option.some.injEq] at decided
    unfold boardResult at result
    split_ifs at result <;> cases result <;> cases decided <;> simp

theorem decision_ne_forfeit (honest : state.doubleSigned params = none) (winner : Option Color) :
    (state.project rules crypto params).decision ≠ some ⟨winner, .doubleSignForfeit⟩ := by
  intro forfeited
  cases resigns : state.resigned params with
  | mk white black =>
    cases white <;> cases black
    case false.false => exact absurd rfl (reason_of_playing honest resigns forfeited).2
    all_goals simp [project, decision, honest, resigns] at forfeited

theorem decision_of_resigned {color : Color} (honest : state.doubleSigned params = none)
    (resigns : state.resignedBy params color = true)
    (plays : state.resignedBy params color.other = false) :
    (state.project rules crypto params).decision = some ⟨some color.other, .resignation⟩ := by
  cases color <;> simp_all [project, decision, resigned, Color.other]

theorem decision_of_settled (frauds : state.doubleSigned params = other.doubleSigned params)
    (walks : state.finalWalk rules crypto params = other.finalWalk rules crypto params)
    (resignations : state.resigned params = other.resigned params)
    (undecided : ¬state.Undecided rules crypto params) :
    (state.project rules crypto params).decision = (other.project rules crypto params).decision := by
  have unfolded : ∀ s : GameState, (s.project rules crypto params).decision =
      decision rules crypto s params (s.doubleSigned params) (s.finalWalk rules crypto params) :=
    fun _ => rfl
  have settled : ¬(other.doubleSigned params = none ∧ other.resigned params = (false, false) ∧
      boardResult rules (other.finalWalk rules crypto params) = none) := by
    simpa only [Undecided, frauds, walks, resignations] using undecided
  rw [unfolded, unfolded, frauds, walks]
  unfold decision
  rw [resignations]
  cases fraud : other.doubleSigned params with
  | some fraud => rfl
  | none =>
    cases resigned' : other.resigned params with
    | mk white black =>
      cases result : boardResult rules (other.finalWalk rules crypto params) with
      | some outcome => cases white <;> cases black <;> rfl
      | none => cases white <;> cases black <;> simp_all

/-- Two states with the same forfeits, walk and resignations can differ in the decision
only through their draw statements. -/
theorem decision_eq_iff (frauds : state.doubleSigned params = other.doubleSigned params)
    (walks : state.finalWalk rules crypto params = other.finalWalk rules crypto params)
    (resignations : state.resigned params = other.resigned params) :
    (state.project rules crypto params).decision = (other.project rules crypto params).decision ↔
      (state.Undecided rules crypto params →
        ((state.liveClaim rules crypto params).isSome ↔ (other.liveClaim rules crypto params).isSome) ∧
        (state.liveClaim rules crypto params = none →
          state.liveAgreement rules crypto params = other.liveAgreement rules crypto params)) := by
  by_cases undecided : state.Undecided rules crypto params
  · have undecided' : other.Undecided rules crypto params := by
      simpa only [Undecided, frauds, walks, resignations] using undecided
    rw [decision_of_undecided undecided, decision_of_undecided undecided', forall_prop_of_true undecided]
    cases mine : state.liveClaim rules crypto params with
    | none =>
      cases theirs : other.liveClaim rules crypto params with
      | none =>
        cases state.liveAgreement rules crypto params <;>
          cases other.liveAgreement rules crypto params <;> simp
      | some reason =>
        have differs : reason ≠ .drawAgreement := fun same => liveClaim_ne_drawAgreement (same ▸ theirs)
        cases state.liveAgreement rules crypto params <;> simp [differs.symm]
    | some reason =>
      have fixed := drawClaimed_eq_some mine
      cases theirs : other.liveClaim rules crypto params with
      | none =>
        have differs : reason ≠ .drawAgreement := fun same => liveClaim_ne_drawAgreement (same ▸ mine)
        cases other.liveAgreement rules crypto params <;> simp [differs]
      | some reason' =>
        have fixed' := drawClaimed_eq_some theirs
        simp [fixed, fixed', walks]
  · exact ⟨fun _ settled => absurd settled undecided,
      fun _ => decision_of_settled frauds walks resignations undecided⟩

theorem mem_keptIds_of_one {id : RecordId} {rec : Record} {ply : U16} (held : state.records[id]? = some rec)
    (index : rec.body.ply = some ply) (one : rec.body.kind.k = 1) :
    id ∈ state.keptIds ↔ Foremost state id := by
  have own : groupOf rec = some ⟨rec.signer, rec.body.kind, ply⟩ := by rw [groupOf, index, Option.map_some]
  have atId := (groupAt_of_get held).trans own
  have present : id ∈ state.ids := mem_ids.2 ⟨rec, held⟩
  rw [keptIds, mem_cut, and_iff_right present, atId, Foremost, atId]
  simp only [Option.mem_def, Option.some.injEq, forall_eq', one, Nat.lt_one_iff, Finset.card_eq_zero,
    Finset.eq_empty_iff_forall_notMem, below, Finset.mem_filter, not_and, not_lt]
  constructor
  · intro none' id' less same
    cases held' : state.records[id']? with
    | none => simp [groupAt, held'] at same
    | some rec' => exact absurd less (not_lt.2 (none' id' (mem_ids.2 ⟨rec', held'⟩) same))
  · intro foremost id' _ same
    by_contra less
    exact foremost id' (not_le.1 less) same

section Evicted
variable (walks : state.evict.finalWalk rules crypto params = state.finalWalk rules crypto params)
include walks

theorem liveClaim_evict : (state.evict.Grounded rules crypto params ∧
    ∃ id, state.evict.LiveClaim rules crypto params id) ↔ state.ForemostClaim rules crypto params := by
  simp only [Grounded, LiveClaim, ForemostClaim, GameState.head, walks, getElem?_evict_eq_some]
  refine and_congr_right fun _ => exists_congr fun id => ?_
  constructor
  · rintro ⟨rec, ply, ⟨held, kept⟩, body, mover⟩
    have foremost := (mem_keptIds_of_one held (by rw [body]; rfl) (by rw [body]; rfl)).1 kept
    exact ⟨⟨rec, ply, held, body, mover⟩, foremost⟩
  · rintro ⟨⟨rec, ply, held, body, mover⟩, foremost⟩
    have kept := (mem_keptIds_of_one held (by rw [body]; rfl) (by rw [body]; rfl)).2 foremost
    exact ⟨rec, ply, ⟨held, kept⟩, body, mover⟩

theorem liveAccept_evict : (∃ id offer, state.evict.LiveAccept rules crypto params id offer) ↔
    state.ForemostPair rules crypto params := by
  simp only [LiveAccept, ForemostPair, GameState.head, walks, getElem?_evict_eq_some]
  refine exists_congr fun id => exists_congr fun offer => ?_
  constructor
  · rintro ⟨rec, offerRec, ply, ply', accepter, offerer, ⟨held, kept⟩, body, ⟨held', kept'⟩, body', rest⟩
    have foremost := (mem_keptIds_of_one held (by rw [body]; rfl) (by rw [body]; rfl)).1 kept
    have foremost' := (mem_keptIds_of_one held' (by rw [body']; rfl) (by rw [body']; rfl)).1 kept'
    exact ⟨⟨rec, offerRec, ply, ply', accepter, offerer, held, body, held', body', rest⟩, foremost, foremost'⟩
  · rintro ⟨⟨rec, offerRec, ply, ply', accepter, offerer, held, body, held', body', rest⟩, first, first'⟩
    have kept := (mem_keptIds_of_one held (by rw [body]; rfl) (by rw [body]; rfl)).2 first
    have kept' := (mem_keptIds_of_one held' (by rw [body']; rfl) (by rw [body']; rfl)).2 first'
    exact ⟨rec, offerRec, ply, ply', accepter, offerer, ⟨held, kept⟩, body, ⟨held', kept'⟩, body', rest⟩

end Evicted

end GameState

end Adjourn
