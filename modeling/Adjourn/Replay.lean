import Adjourn.Draws

/-! A chain played over again from the start. The walk's position, its table of seen
positions and its automatic draws are those of the replay. -/

namespace Adjourn.Replay
open Std (ExtTreeMap)
open Cbor OrderedMap GameState

section View
variable (rules : Rules) (state : GameState)

def moveOf (pos : rules.Position) (id : RecordId) : Option rules.Move := do
  let rec ← state.records[id]?
  match rec.body with
  | .move _ _ uci => do
    let parsed ← rules.fromAscii (utf8 uci)
    rules.toMove parsed pos
  | _ => none

def positions (pos : rules.Position) : List RecordId → List rules.Position
  | [] => [pos]
  | id :: rest =>
    match moveOf rules state pos id with
    | some mv => pos :: positions (rules.play pos mv) rest
    | none => [pos]

def occurrences (key : String) (positions : List rules.Position) : Nat :=
  (positions.map rules.repetitionKey).count key

end View

variable {rules : Rules} {crypto : Crypto} {state : GameState} {params : GameParams}
  {stopBefore : Option U16} {pos last : rules.Position} {id : RecordId} {mv : rules.Move}
  {chain : List RecordId} {w w' : Walk rules}

theorem positions_first : (positions rules state pos chain)[0]? = some pos := by
  cases chain with
  | nil => rfl
  | cons id rest =>
    rw [positions]
    cases moveOf rules state pos id <;> rfl

theorem positions_append (full : (positions rules state pos chain).length = chain.length + 1)
    (ends : (positions rules state pos chain).getLast? = some last) (legal : moveOf rules state last id = some mv) :
    positions rules state pos (chain ++ [id]) = positions rules state pos chain ++ [rules.play last mv] := by
  induction chain generalizing pos with
  | nil =>
    obtain rfl : pos = last := by simpa [positions] using ends
    simp [positions, legal]
  | cons first rest ih =>
    cases played : moveOf rules state pos first with
    | none => simp [positions, played] at full
    | some mv' =>
      simp only [List.cons_append, positions, played, List.length_cons, List.getLast?_cons] at full ends ⊢
      have full' : (positions rules state (rules.play pos mv') rest).length = rest.length + 1 := by omega
      rw [ih full']
      cases more : (positions rules state (rules.play pos mv') rest).getLast? with
      | none =>
        rw [List.getLast?_eq_none_iff] at more
        simp [more] at full'
      | some other => simpa [more] using ends

theorem moveOf_of_candidate {parent : RecordId} {ply : U16}
    (member : (id, mv) ∈ candidates rules state params pos parent ply) : moveOf rules state pos id = some mv := by
  obtain ⟨rec, uci, parsed, held, body, -, read, legal⟩ := mem_candidates.1 member
  simp [moveOf, held, body, read, legal]

/-- What the walk's variables say about the replay of its chain. -/
structure Replayed (state : GameState) (w : Walk rules) : Prop where
  full : (positions rules state rules.start w.chain).length = w.chain.length + 1
  ends : (positions rules state rules.start w.chain).getLast? = some w.pos
  seen : ∀ key, (w.seen[key]?).getD 0 = occurrences rules key (positions rules state rules.start w.chain)
  repetitions : w.repetitions =
    occurrences rules (rules.repetitionKey w.pos) (positions rules state rules.start w.chain)
  autoDraw : w.autoDraw = true ↔ w.chain ≠ [] ∧
    (FIVEFOLD ≤ w.repetitions ∨ SEVENTY_FIVE_MOVE_HALFMOVES ≤ rules.halfmoves w.pos)

theorem replayed_start : Replayed state (walkStart rules crypto params) where
  full := rfl
  ends := rfl
  seen key := by
    simp only [walkStart, positions, occurrences, ExtTreeMap.getElem?_insert, compare_eq_iff_eq,
      List.map_cons, List.map_nil, List.count_singleton]
    by_cases same : rules.repetitionKey rules.start = key <;> simp [same]
  repetitions := by simp [walkStart, positions, occurrences]
  autoDraw := by simp [walkStart]

theorem Replayed.step (replayed : Replayed state w)
    (taken : walkStep rules state params stopBefore w = some w') :
    Replayed state w' ∧
      positions rules state rules.start w'.chain = positions rules state rules.start w.chain ++ [w'.pos] := by
  obtain ⟨-, -, id, mv, single, rfl⟩ := walkStep_eq_some.1 taken
  have legal := moveOf_of_candidate (candidates_eq_singleton.1 single).1
  have grown : positions rules state rules.start (w.chain ++ [id]) =
      positions rules state rules.start w.chain ++ [rules.play w.pos mv] :=
    positions_append replayed.full replayed.ends legal
  refine ⟨⟨?_, ?_, ?_, ?_, ?_⟩, grown⟩
  · simp [advance, grown, replayed.full]
  · simp [advance, grown]
  · intro key
    simp only [advance, grown, occurrences, List.map_append, List.map_cons, List.map_nil, List.count_append,
      List.count_singleton, ExtTreeMap.getElem?_insert, compare_eq_iff_eq]
    have before := replayed.seen key
    by_cases same : rules.repetitionKey (rules.play w.pos mv) = key
    · subst same
      rw [if_pos rfl, Option.getD_some, before, occurrences]
      simp
    · simp only [same, if_false, before, occurrences]
      simp [same]
  · simp only [advance, grown, occurrences, List.map_append, List.map_cons, List.map_nil, List.count_append,
      List.count_singleton_self]
    rw [replayed.seen, occurrences]
  · simp [advance]

theorem replayed_walk : Replayed state (walk rules crypto state params stopBefore) :=
  Stepping.reaches_preserves _ (fun _ _ taken replayed => (Replayed.step replayed taken).1)
    (Stepping.reaches_run _ _) replayed_start

/-- No position before the last one is a fifth occurrence, or one that the 75-move rule
ends, unless the clock of the start says so. -/
def Playable (state : GameState) (w : Walk rules) : Prop :=
  ∀ i < w.chain.length, ∀ pos, (positions rules state rules.start w.chain)[i]? = some pos →
    occurrences rules (rules.repetitionKey pos) ((positions rules state rules.start w.chain).take (i + 1)) <
        FIVEFOLD ∧
      (0 < i → rules.halfmoves pos < SEVENTY_FIVE_MOVE_HALFMOVES)

theorem Replayed.last_eq (replayed : Replayed state w) :
    (positions rules state rules.start w.chain)[w.chain.length]? = some w.pos := by
  have ends := replayed.ends
  rwa [List.getLast?_eq_getElem?, replayed.full, Nat.add_sub_cancel] at ends

theorem Playable.step (replayed : Replayed state w) (playable : Playable state w)
    (taken : walkStep rules state params stopBefore w = some w') : Playable state w' := by
  have grown := (replayed.step taken).2
  obtain ⟨running, -, id, mv, -, rfl⟩ := walkStep_eq_some.1 taken
  intro i short pos at'
  have short : i < w.chain.length + 1 := by simpa [advance] using short
  have inside : i + 1 ≤ (positions rules state rules.start w.chain).length := by
    rw [replayed.full]
    exact short
  rw [grown] at at' ⊢
  rw [List.getElem?_append_left inside] at at'
  rw [List.take_append_of_le_length inside]
  rcases Nat.lt_succ_iff_lt_or_eq.1 short with earlier | rfl
  · exact playable i earlier pos at'
  · obtain rfl : w.pos = pos := Option.some.inj (replayed.last_eq.symm.trans at')
    have whole : (positions rules state rules.start w.chain).take (w.chain.length + 1) =
        positions rules state rules.start w.chain := List.take_of_length_le replayed.full.le
    have quiet : w.chain = [] ∨ (w.repetitions < FIVEFOLD ∧
        rules.halfmoves w.pos < SEVENTY_FIVE_MOVE_HALFMOVES) := by
      by_contra drawn
      push Not at drawn
      have reported : w.autoDraw = true := by
        refine replayed.autoDraw.2 ⟨drawn.1, ?_⟩
        by_contra few
        push Not at few
        exact absurd few.2 (not_lt.2 (drawn.2 few.1))
      rw [running] at reported
      cases reported
    rw [whole, ← replayed.repetitions]
    rcases quiet with none' | ⟨few, clock⟩
    · refine ⟨?_, fun moved => absurd moved (by simp [none'])⟩
      rw [replayed.repetitions, none']
      refine Nat.lt_of_le_of_lt List.count_le_length ?_
      simp [positions, FIVEFOLD]
    · exact ⟨few, fun _ => clock⟩

theorem playable_walk : Playable state (walk rules crypto state params stopBefore) := by
  have both : Replayed state (walk rules crypto state params stopBefore) ∧
      Playable state (walk rules crypto state params stopBefore) :=
    Stepping.reaches_preserves (fun w : Walk rules => Replayed state w ∧ Playable state w)
      (fun _ _ taken kept => ⟨(kept.1.step taken).1, kept.2.step kept.1 taken⟩)
      (Stepping.reaches_run _ _) ⟨replayed_start, fun i short => absurd short (Nat.not_lt_zero i)⟩
  exact both.2

theorem grounds_of_decision (rules : Rules) (crypto : Crypto) (params : GameParams) (state : GameState) :
    ((state.project rules crypto params).decision = some ⟨none, .threefoldClaim⟩ →
      THREEFOLD ≤ (state.finalWalk rules crypto params).repetitions) ∧
    ((state.project rules crypto params).decision = some ⟨none, .fiftyMoveClaim⟩ →
      FIFTY_MOVE_HALFMOVES ≤ rules.halfmoves (state.finalWalk rules crypto params).pos) := by
  have claimed : ∀ reason, state.liveClaim rules crypto params = some reason →
      state.Grounded rules crypto params ∧ reason = ground (state.finalWalk rules crypto params).repetitions :=
    fun reason live => ⟨(isSome_liveClaim.1 (by rw [live]; rfl)).1, drawClaimed_eq_some live⟩
  refine ⟨fun decided => ?_, fun decided => ?_⟩
  · obtain ⟨-, fixed⟩ := claimed _ ((decision_eq_claim_iff (.inl rfl)).1 decided).2
    unfold ground at fixed
    split_ifs at fixed with threefold
    exact threefold
  · obtain ⟨grounded, fixed⟩ := claimed _ ((decision_eq_claim_iff (.inr rfl)).1 decided).2
    unfold ground at fixed
    split_ifs at fixed with threefold
    exact grounded.resolve_left threefold

def line (rules : Rules) (crypto : Crypto) (params : GameParams) (state : GameState) : List rules.Position :=
  positions rules state rules.start (state.project rules crypto params).chain

/-- The repetition count, the automatic draws and the grounds of a claim are those of the
positions along the reported chain, the start included. -/
theorem bookkeeping_exact (rules : Rules) (crypto : Crypto) (params : GameParams) (state : GameState) :
    ∃ last, (line rules crypto params state).length = (state.project rules crypto params).chain.length + 1 ∧
      (line rules crypto params state).getLast? = some last ∧
      (state.project rules crypto params).fen = rules.fen last ∧
      (state.project rules crypto params).halfmoveClock = rules.halfmoves last ∧
      (state.project rules crypto params).repetitions =
        occurrences rules (rules.repetitionKey last) (line rules crypto params state) ∧
      (∀ i < (state.project rules crypto params).chain.length, ∀ pos,
        (line rules crypto params state)[i]? = some pos →
          occurrences rules (rules.repetitionKey pos) ((line rules crypto params state).take (i + 1)) < FIVEFOLD ∧
          (0 < i ∨ rules.halfmoves rules.start < SEVENTY_FIVE_MOVE_HALFMOVES →
            rules.halfmoves pos < SEVENTY_FIVE_MOVE_HALFMOVES)) ∧
      ((state.finalWalk rules crypto params).autoDraw = true ↔
        (state.project rules crypto params).chain ≠ [] ∧
          (FIVEFOLD ≤ occurrences rules (rules.repetitionKey last) (line rules crypto params state) ∨
            SEVENTY_FIVE_MOVE_HALFMOVES ≤ rules.halfmoves last)) ∧
      ((state.project rules crypto params).decision = some ⟨none, .threefoldClaim⟩ →
        THREEFOLD ≤ occurrences rules (rules.repetitionKey last) (line rules crypto params state)) ∧
      ((state.project rules crypto params).decision = some ⟨none, .fiftyMoveClaim⟩ →
        FIFTY_MOVE_HALFMOVES ≤ rules.halfmoves last) := by
  have replayed : Replayed state (state.finalWalk rules crypto params) := replayed_walk
  have playable : Playable state (state.finalWalk rules crypto params) := playable_walk
  obtain ⟨threefold, fifty⟩ := grounds_of_decision rules crypto params state
  have counted : (state.finalWalk rules crypto params).repetitions = occurrences rules
      (rules.repetitionKey (state.finalWalk rules crypto params).pos) (line rules crypto params state) :=
    replayed.repetitions
  refine ⟨(state.finalWalk rules crypto params).pos, replayed.full, replayed.ends, rfl, rfl, counted, ?_, ?_,
    fun decided => ?_, fifty⟩
  · intro i short pos at'
    obtain ⟨few, clock⟩ := playable i short pos at'
    refine ⟨few, fun fresh => ?_⟩
    rcases Nat.eq_zero_or_pos i with rfl | moved
    · rw [line, positions_first] at at'
      rw [← Option.some.inj at']
      exact fresh.resolve_left (lt_irrefl 0)
    · exact clock moved
  · exact counted ▸ replayed.autoDraw
  · exact counted ▸ threefold decided

end Adjourn.Replay
