import Adjourn.Replay
import Adjourn.Session

/-! The reported chain is well formed, and as long as it can be: each entry is the one
legal continuation of those before it, and where the walk ends without being stopped there
is no further one. -/

namespace Adjourn.ChainShape
open Std (ExtTreeMap)
open Cbor OrderedMap GameState Replay

variable {rules : Rules} {crypto : Crypto} {state : GameState} {params : GameParams}
  {stopBefore : Option U16} {w w' : Walk rules} {id : RecordId} {i : Nat} {chain : List RecordId}

/-- A held move of ply `i + 1` that names the entry before it, is signed by the player of
that ply, and is legal where the earlier entries lead. -/
def Entered (rules : Rules) (crypto : Crypto) (params : GameParams) (state : GameState)
    (chain : List RecordId) (i : Nat) (id : RecordId) : Prop :=
  ∃ rec ply uci parsed mv pos, state.records[id]? = some rec ∧
    rec.body = .move ply (headOf crypto params (chain.take i)) uci ∧ ply.val = i + 1 ∧
    rec.signer = params.keyOf (colorAtPly ply) ∧
    (positions rules state rules.start chain)[i]? = some pos ∧ rules.fromAscii (utf8 uci) = some parsed ∧
    rules.toMove parsed pos = some mv ∧
    (positions rules state rules.start chain)[i + 1]? = some (rules.play pos mv)

def Linked (crypto : Crypto) (params : GameParams) (state : GameState) (w : Walk rules) : Prop :=
  ∀ i id, w.chain[i]? = some id → Entered rules crypto params state w.chain i id

theorem Linked.step (walked : Walked crypto state params w) (replayed : Replayed state w)
    (linked : Linked crypto params state w) (taken : walkStep rules state params stopBefore w = some w') :
    Linked crypto params state w' := by
  have grown := (replayed.step taken).2
  obtain ⟨-, -, last, mv, single, rfl⟩ := walkStep_eq_some.1 taken
  have chain : (advance rules w last mv).chain = w.chain ++ [last] := rfl
  have next : (advance rules w last mv).pos = rules.play w.pos mv := rfl
  rw [chain, next] at grown
  intro i id at'
  rw [chain] at at' ⊢
  unfold Entered
  rw [grown]
  rcases Nat.lt_trichotomy i w.chain.length with earlier | rfl | later
  · rw [List.getElem?_append_left earlier] at at'
    obtain ⟨rec, ply, uci, parsed, mv', pos, held, body, number, signer, before, read, legal, after⟩ :=
      linked i id at'
    have inside : i + 1 < (positions rules state rules.start w.chain).length := by
      rw [replayed.full]
      omega
    refine ⟨rec, ply, uci, parsed, mv', pos, held, ?_, number, signer, ?_, read, legal, ?_⟩
    · rwa [List.take_append_of_le_length earlier.le]
    · rwa [List.getElem?_append_left (by omega)]
    · rwa [List.getElem?_append_left inside]
  · obtain rfl : last = id := by simpa using at'
    obtain ⟨rec, uci, parsed, held, body, signer, read, legal⟩ :=
      mem_candidates.1 (candidates_eq_singleton.1 single).1
    have full := replayed.full
    refine ⟨rec, w.ply, uci, parsed, mv, w.pos, held, ?_, walked.ply_eq, signer, ?_, read, legal, ?_⟩
    · rw [List.take_left, ← walked.parent_eq]
      exact body
    · rw [List.getElem?_append_left (by omega)]
      exact replayed.last_eq
    · rw [← full, List.getElem?_append_right le_rfl, Nat.sub_self]
      rfl
  · rw [List.getElem?_eq_none (by simp; omega)] at at'
    cases at'

theorem linked_walk (valid : state.allValid crypto params = true) :
    Linked crypto params state (walk rules crypto state params stopBefore) := by
  have all : Walked crypto state params (walk rules crypto state params stopBefore) ∧
      Replayed state (walk rules crypto state params stopBefore) ∧
      Linked crypto params state (walk rules crypto state params stopBefore) :=
    Stepping.reaches_preserves
      (fun w : Walk rules => Walked crypto state params w ∧ Replayed state w ∧ Linked crypto params state w)
      (fun _ _ taken kept => ⟨kept.1.step valid taken, (kept.2.1.step taken).1,
        kept.2.2.step kept.1 kept.2.1 taken⟩)
      (Stepping.reaches_run _ _) ⟨walked_start, replayed_start, fun i id absent => by cases absent⟩
  exact all.2.2

theorem candidates_length_le (running : ∀ stop ∈ (state.doubleSigned params).map Fraud.firstPly, w.ply < stop) :
    (candidates rules state params w.pos w.parent w.ply).length ≤ 1 := by
  cases list : candidates rules state params w.pos w.parent w.ply with
  | nil => exact Nat.zero_le 1
  | cons first rest =>
    have member : first ∈ candidates rules state params w.pos w.parent w.ply := by
      rw [list]
      exact List.mem_cons_self
    have single : ∀ color, ¬state.Doubled params color w.ply := by
      intro color doubled
      obtain ⟨fraud, found⟩ := Option.isSome_iff_exists.1 (doubleSigned_isSome.2 ⟨color, w.ply, doubled⟩)
      have late := running fraud.firstPly (by simp [found])
      exact absurd ((proven_of_doubleSigned found).least color w.ply doubled) (not_le.2 late)
    rw [Takeback.candidates_of_single single member] at list
    rw [← list]
    exact le_rfl

/-- The loop has ended by itself after `MAX_PLY` rounds at the latest. -/
theorem run_eq_walk (valid : state.allValid crypto params = true) {fuel : Nat} (enough : MAX_PLY.val ≤ fuel) :
    Stepping.run (walkStep rules state params stopBefore) fuel (walkStart rules crypto params) =
      walk rules crypto state params stopBefore := by
  have ended : walkStep rules state params stopBefore
      (Stepping.run (walkStep rules state params stopBefore) MAX_PLY.val (walkStart rules crypto params)) =
        none := by
    refine Stepping.run_finished (fun w => MAX_PLY.val + 1 - w.ply.val) ?_ _ _ le_rfl
    intro w w' taken
    obtain ⟨bound, next⟩ := ply_of_walkStep valid taken
    omega
  have whole : MAX_PLY.val ≤ 65535 := by decide
  exact (Stepping.run_of_finished ended enough).trans (Stepping.run_of_finished ended whole).symm

theorem length_ignored (walked : Walked crypto state params w) :
    (state.records.toList.filter fun (id, rec) =>
        decide (rec.body.kind = .move) && !w.chain.contains id).length + w.chain.length =
      (valuesOf state.records).countP fun rec => decide (rec.body.kind = .move) := by
  have accepted : (state.records.toList.filter fun (id, rec) =>
      decide (rec.body.kind = .move) && w.chain.contains id).length = w.chain.length := by
    rw [← List.length_map Prod.fst]
    refine List.Perm.length_eq ((List.perm_ext_iff_of_nodup ?_ walked.chain_nodup).2 fun id => ?_)
    · exact ((keys_sorted state.records).sublist (List.filter_sublist.map _)).imp ne_of_lt
    · simp only [List.mem_map, List.mem_filter, Prod.exists, exists_and_right, exists_eq_right,
        ExtTreeMap.mem_toList_iff_getElem?_eq_some, Bool.and_eq_true, decide_eq_true_eq, List.contains_iff_mem]
      constructor
      · rintro ⟨rec, -, -, member⟩
        exact member
      · intro member
        obtain ⟨i, at'⟩ := List.getElem?_of_mem member
        obtain ⟨rec, ply, parent, uci, held, body, -⟩ := walked.held i id at'
        exact ⟨rec, held, by rw [body]; rfl, member⟩
  have split := List.countP_eq_countP_filter_add state.records.toList
    (fun entry => decide (entry.2.body.kind = .move)) (fun entry => w.chain.contains entry.1)
  rw [List.countP_filter, List.countP_filter, List.countP_eq_length_filter, List.countP_eq_length_filter,
    List.countP_eq_length_filter, accepted] at split
  rw [valuesOf, List.countP_map, List.countP_eq_length_filter, add_comm]
  exact split.symm

theorem stopped_or_maximal (rules : Rules) (valid : state.allValid crypto params = true) :
    (state.finalWalk rules crypto params).autoDraw = true ∨
      (∃ fraud, state.doubleSigned params = some fraud ∧
        fraud.firstPly ≤ (state.finalWalk rules crypto params).ply) ∨
      candidates rules state params (state.finalWalk rules crypto params).pos
        (state.finalWalk rules crypto params).parent (state.finalWalk rules crypto params).ply = [] := by
  by_contra further
  push Not at further
  obtain ⟨running, honest, some'⟩ := further
  have before : ∀ stop ∈ (state.doubleSigned params).map Fraud.firstPly,
      (state.finalWalk rules crypto params).ply < stop := by
    intro stop named
    obtain ⟨fraud, found, rfl⟩ := Option.map_eq_some_iff.1 named
    exact honest fraud found
  have few : (candidates rules state params (state.finalWalk rules crypto params).pos
      (state.finalWalk rules crypto params).parent (state.finalWalk rules crypto params).ply).length ≤ 1 :=
    candidates_length_le before
  have ended : walkStep rules state params ((state.doubleSigned params).map Fraud.firstPly)
      (state.finalWalk rules crypto params) = none := walkStep_walk valid
  cases list : candidates rules state params (state.finalWalk rules crypto params).pos
      (state.finalWalk rules crypto params).parent (state.finalWalk rules crypto params).ply with
  | nil => exact some' list
  | cons first rest =>
    rw [list, List.length_cons] at few
    have single : rest = [] := List.eq_nil_of_length_eq_zero (by omega)
    rw [single] at list
    have taken := walkStep_eq_some.2 ⟨by simpa using running, before, first.1, first.2, list, rfl⟩
    rw [ended] at taken
    cases taken

theorem ply_project (rules : Rules) (valid : state.allValid crypto params = true) :
    (state.project rules crypto params).ply.val = (state.project rules crypto params).chain.length ∧
      (state.project rules crypto params).chain.length ≤ MAX_PLY.val ∧
      (state.project rules crypto params).ply + 1 = (state.finalWalk rules crypto params).ply := by
  have walked : Walked crypto state params (state.finalWalk rules crypto params) := walked_walk valid
  have short : (state.finalWalk rules crypto params).chain.length ≤ 4096 := walked.short
  have ply : (state.project rules crypto params).ply.val = (state.finalWalk rules crypto params).chain.length :=
    Nat.mod_eq_of_lt (short.trans_lt (by decide))
  refine ⟨ply, short, Fin.ext ?_⟩
  rw [Fin.val_add, ply, walked.ply_eq]
  exact Nat.mod_eq_of_lt (by omega)

theorem filterMap_all {α β : Type} {f : α → Option β} {entries : List α}
    (all : ∀ entry ∈ entries, (f entry).isSome) :
    (entries.filterMap f).length = entries.length ∧
      ∀ (i : Nat) (entry : α), entries[i]? = some entry → (entries.filterMap f)[i]? = f entry := by
  induction entries with
  | nil => simp
  | cons first rest ih =>
    obtain ⟨found, rest'⟩ := List.forall_mem_cons.1 all
    obtain ⟨value, is⟩ := Option.isSome_iff_exists.1 found
    obtain ⟨length, each⟩ := ih rest'
    rw [List.filterMap_cons_some is]
    refine ⟨by rw [List.length_cons, List.length_cons, length], fun i entry here => ?_⟩
    cases i with
    | zero =>
      obtain rfl := Option.some.inj here
      exact is.symm
    | succ i => exact each i entry here

theorem movesInOrder_spec {view : Session.GameView} (walked : Walked crypto view.state params w)
    (same : view.status.chain = w.chain) :
    (Session.movesInOrder view).length = w.chain.length ∧
      ∀ (i : Nat) (id : RecordId), w.chain[i]? = some id →
        ∃ (rec : Record) (ply : U16) (parent : RecordId) (uci : String), view.state.records[id]? = some rec ∧
        rec.body = .move ply parent uci ∧ (Session.movesInOrder view)[i]? = some uci := by
  obtain ⟨text, listed, read⟩ : ∃ text : RecordId → Option String,
      Session.movesInOrder view = w.chain.filterMap text ∧ ∀ (id : RecordId) (rec : Record) (ply : U16)
        (parent : RecordId) (uci : String), view.state.records[id]? = some rec → rec.body = .move ply parent uci →
          text id = some uci := by
    refine ⟨_, by rw [Session.movesInOrder, same], fun id rec ply parent uci held body => ?_⟩
    simp only [held, Option.map_some, body]
  obtain ⟨whole, each⟩ : (w.chain.filterMap text).length = w.chain.length ∧
      ∀ (i : Nat) (id : RecordId), w.chain[i]? = some id → (w.chain.filterMap text)[i]? = text id := by
    refine filterMap_all fun id member => ?_
    obtain ⟨i, at'⟩ := List.getElem?_of_mem member
    obtain ⟨rec, ply, parent, uci, held, body, -⟩ := walked.held i id at'
    rw [read id rec ply parent uci held body]
    rfl
  rw [listed]
  refine ⟨whole, fun i id at' => ?_⟩
  obtain ⟨rec, ply, parent, uci, held, body, -⟩ := walked.held i id at'
  exact ⟨rec, ply, parent, uci, held, body, (each i id at').trans (read id rec ply parent uci held body)⟩

/-- The walk ends by itself after at most `MAX_PLY` moves, having met at most one candidate
at each ply; its chain links held moves of alternating players, each legal after those
before it; all other moves are ignored; and no held move continues it, unless an automatic
draw or a double-signed ply has stopped it. -/
theorem chain_well_formed (rules : Rules) (crypto : Crypto) (params : GameParams) (state : GameState)
    (alternates : rules.Alternates) (valid : state.allValid crypto params = true) :
    (∀ fuel, MAX_PLY.val ≤ fuel →
      Stepping.run (walkStep rules state params ((state.doubleSigned params).map Fraud.firstPly)) fuel
        (walkStart rules crypto params) = state.finalWalk rules crypto params) ∧
    (∀ w, Relation.ReflTransGen
        (Stepping.Steps (walkStep rules state params ((state.doubleSigned params).map Fraud.firstPly)))
        (walkStart rules crypto params) w →
      w.ply.val = w.chain.length + 1 ∧ w.chain.length ≤ MAX_PLY.val ∧
        ((∀ stop ∈ (state.doubleSigned params).map Fraud.firstPly, w.ply < stop) →
          (candidates rules state params w.pos w.parent w.ply).length ≤ 1)) ∧
    (state.project rules crypto params).ply.val = (state.project rules crypto params).chain.length ∧
    (state.project rules crypto params).chain.length ≤ MAX_PLY.val ∧
    (∀ (i : Nat) (id : RecordId), (state.project rules crypto params).chain[i]? = some id →
      Entered rules crypto params state (state.project rules crypto params).chain i id) ∧
    (state.project rules crypto params).turn = colorAtPly ((state.project rules crypto params).ply + 1) ∧
    (state.project rules crypto params).ignored + (state.project rules crypto params).ply.val =
      (valuesOf state.records).countP (fun rec => decide (rec.body.kind = .move)) ∧
    (∀ view : Session.GameView, view.state = state → view.status = state.project rules crypto params →
      (Session.movesInOrder view).length = (state.project rules crypto params).ply.val ∧
        ∀ (i : Nat) (id : RecordId), (state.project rules crypto params).chain[i]? = some id →
          ∃ (rec : Record) (ply : U16) (parent : RecordId) (uci : String),
            state.records[id]? = some rec ∧ rec.body = .move ply parent uci ∧
            (Session.movesInOrder view)[i]? = some uci) ∧
    ((state.finalWalk rules crypto params).autoDraw = true ∨
      (∃ fraud, state.doubleSigned params = some fraud ∧
        fraud.firstPly ≤ (state.project rules crypto params).ply + 1) ∨
      ∀ (id : RecordId) (rec : Record) uci parsed last, state.records[id]? = some rec →
        rec.body = .move ((state.project rules crypto params).ply + 1)
          (headOf crypto params (state.project rules crypto params).chain) uci →
        rec.signer = params.keyOf (colorAtPly ((state.project rules crypto params).ply + 1)) →
        rules.fromAscii (utf8 uci) = some parsed →
        (line rules crypto params state).getLast? = some last → rules.toMove parsed last = none) := by
  have walked : Walked crypto state params (state.finalWalk rules crypto params) := walked_walk valid
  have replayed : Replayed state (state.finalWalk rules crypto params) := replayed_walk
  obtain ⟨ply, short, next⟩ := ply_project rules valid
  refine ⟨fun fuel enough => run_eq_walk valid enough, fun w reached => ?_, ply, short, linked_walk valid, ?_,
    ?_, ?_, ?_⟩
  · have walked' : Walked crypto state params w := Stepping.reaches_preserves _
      (fun _ _ taken walked => Walked.step valid walked taken) reached walked_start
    exact ⟨walked'.ply_eq, walked'.short, candidates_length_le⟩
  · rw [next]
    exact turn_walk alternates valid
  · rw [ply]
    exact length_ignored walked
  · rintro view rfl projected
    rw [ply]
    exact movesInOrder_spec walked (by rw [projected]; rfl)
  · rw [next]
    rcases stopped_or_maximal rules valid with drawn | fraud | none'
    · exact .inl drawn
    · exact .inr (.inl fraud)
    · refine .inr (.inr fun id rec uci parsed last held body signer read ends => ?_)
      obtain rfl : (state.finalWalk rules crypto params).pos = last :=
        Option.some.inj (replayed.ends.symm.trans ends)
      by_contra legal
      obtain ⟨mv, legal⟩ := Option.ne_none_iff_exists'.1 legal
      have member : (id, mv) ∈ candidates rules state params (state.finalWalk rules crypto params).pos
          (state.finalWalk rules crypto params).parent (state.finalWalk rules crypto params).ply := by
        rw [mem_candidates, walked.parent_eq]
        exact ⟨rec, uci, parsed, held, body, signer, read, legal⟩
      rw [none'] at member
      cases member

/-- A game of one move, with an accepted draw offer beside it. -/
theorem chain_well_formed_agreed :
    (∀ (i : Nat) (id : RecordId),
      (Sample.agreed.project Sample.rules Sample.crypto Sample.params).chain[i]? = some id →
      Entered Sample.rules Sample.crypto Sample.params Sample.agreed
        (Sample.agreed.project Sample.rules Sample.crypto Sample.params).chain i id) ∧
    (Sample.agreed.project Sample.rules Sample.crypto Sample.params).ignored +
        (Sample.agreed.project Sample.rules Sample.crypto Sample.params).ply.val =
      (valuesOf Sample.agreed.records).countP fun rec => decide (rec.body.kind = .move) := by
  obtain ⟨-, -, -, -, entered, -, ignored, -⟩ := chain_well_formed Sample.rules Sample.crypto Sample.params
    Sample.agreed Sample.rules_alternates (by decide +kernel)
  exact ⟨entered, ignored⟩

end Adjourn.ChainShape
