import Adjourn.DoubleSign

/-! The walk along the parent hashes: what one round takes, and what holds of every
position the walk reaches. -/

namespace Adjourn
open Std (ExtTreeMap)
open Cbor OrderedMap NormalForm

namespace GameState

variable {rules : Rules} {crypto : Crypto} {state : GameState} {params : GameParams}
  {stopBefore : Option U16} {pos : rules.Position} {parent id : RecordId} {ply : U16} {mv : rules.Move}
  {w w' : Walk rules}

theorem candidate_eq_some {entry : RecordId × Record} :
    candidate rules params pos parent ply entry = some (id, mv) ↔
      entry.1 = id ∧ entry.2.signer = params.keyOf (colorAtPly ply) ∧
        ∃ uci parsed, entry.2.body = .move ply parent uci ∧ rules.fromAscii (utf8 uci) = some parsed ∧
          rules.toMove parsed pos = some mv := by
  unfold candidate
  cases body : entry.2.body with
  | move recPly recParent uci =>
    by_cases fits : recPly ≠ ply ∨ recParent ≠ parent ∨ entry.2.signer ≠ params.keyOf (colorAtPly ply)
    · simp only [fits, if_true, Body.move.injEq, reduceCtorEq, false_iff]
      rintro ⟨-, signer, uci', parsed, ⟨rfl, rfl, -⟩, -⟩
      simp [signer] at fits
    · simp only [fits, if_false]
      push Not at fits
      obtain ⟨rfl, rfl, signer⟩ := fits
      simp only [signer, Option.bind_eq_bind, Option.bind_eq_some_iff, pure, Option.some.injEq,
        Prod.mk.injEq, Body.move.injEq, true_and]
      constructor
      · rintro ⟨parsed, read, mv, legal, rfl, rfl⟩
        exact ⟨rfl, uci, parsed, rfl, read, legal⟩
      · rintro ⟨rfl, uci', parsed, rfl, read, legal⟩
        exact ⟨parsed, read, mv, legal, rfl, rfl⟩
  | _ => simp

theorem mem_candidates : (id, mv) ∈ candidates rules state params pos parent ply ↔
    ∃ rec uci parsed, state.records[id]? = some rec ∧ rec.body = .move ply parent uci ∧
      rec.signer = params.keyOf (colorAtPly ply) ∧ rules.fromAscii (utf8 uci) = some parsed ∧
        rules.toMove parsed pos = some mv := by
  simp only [candidates, List.mem_filterMap, Prod.exists, candidate_eq_some,
    ExtTreeMap.mem_toList_iff_getElem?_eq_some]
  constructor
  · rintro ⟨_, rec, held, rfl, signer, uci, parsed, body, read, legal⟩
    exact ⟨rec, uci, parsed, held, body, signer, read, legal⟩
  · rintro ⟨rec, uci, parsed, held, body, signer, read, legal⟩
    exact ⟨id, rec, held, rfl, signer, uci, parsed, body, read, legal⟩

theorem candidates_sorted :
    (candidates rules state params pos parent ply).Pairwise fun first second => first.1 < second.1 := by
  have sorted := keys_sorted state.records
  rw [List.pairwise_map] at sorted
  refine List.Pairwise.filterMap _ ?_ sorted
  rintro entry entry' less ⟨id, mv⟩ taken ⟨id', mv'⟩ taken'
  obtain ⟨rfl, -⟩ := candidate_eq_some.1 taken
  obtain ⟨rfl, -⟩ := candidate_eq_some.1 taken'
  exact less

theorem candidates_eq_singleton : candidates rules state params pos parent ply = [(id, mv)] ↔
    (id, mv) ∈ candidates rules state params pos parent ply ∧
      ∀ id' mv', (id', mv') ∈ candidates rules state params pos parent ply → id' = id := by
  constructor
  · intro single
    rw [single]
    simp only [List.mem_singleton, Prod.mk.injEq, true_and]
    exact fun id' mv' same => same.1
  · rintro ⟨member, only⟩
    have sorted : (candidates rules state params pos parent ply).Pairwise _ := candidates_sorted
    cases list : candidates rules state params pos parent ply with
    | nil => simp [list] at member
    | cons first rest =>
      rw [list] at member only sorted
      have head := only first.1 first.2 List.mem_cons_self
      cases rest with
      | nil => rw [List.mem_singleton.1 member]
      | cons second rest =>
        have next := only second.1 second.2 (by simp)
        have less := (List.pairwise_cons.1 sorted).1 second List.mem_cons_self
        rw [head, next] at less
        exact absurd less (lt_irrefl _)

theorem walkStep_eq_some : walkStep rules state params stopBefore w = some w' ↔
    w.autoDraw = false ∧ (∀ stop ∈ stopBefore, w.ply < stop) ∧
      ∃ id mv, candidates rules state params w.pos w.parent w.ply = [(id, mv)] ∧
        w' = advance rules w id mv := by
  unfold walkStep
  cases w.autoDraw with
  | true => simp
  | false =>
    by_cases stopped : stopBefore.any (· ≤ w.ply) = true
    · simp only [Bool.false_eq_true, if_false, stopped, if_true, reduceCtorEq, false_iff]
      rintro ⟨-, before, -⟩
      obtain ⟨stop, named, le⟩ := Option.any_eq_true _ _ |>.1 stopped
      exact absurd (before stop named) (not_lt.2 (by simpa using le))
    · have before : ∀ stop ∈ stopBefore, w.ply < stop := by
        intro stop named
        by_contra le
        exact stopped (Option.any_eq_true _ _ |>.2 ⟨stop, named, by simpa using le⟩)
      rw [if_neg Bool.false_ne_true, if_neg stopped, and_iff_right rfl, and_iff_right before]
      cases list : candidates rules state params w.pos w.parent w.ply with
      | nil => simp
      | cons first rest =>
        cases rest with
        | nil => simp [eq_comm, Prod.ext_iff, and_assoc]
        | cons second rest => simp

theorem walkStep_chain (taken : walkStep rules state params stopBefore w = some w') :
    w.chain <+: w'.chain := by
  obtain ⟨-, -, id, mv, -, rfl⟩ := walkStep_eq_some.1 taken
  exact List.prefix_append _ _

theorem chain_of_reaches
    (reaches : Relation.ReflTransGen (Stepping.Steps (walkStep rules state params stopBefore)) w w') :
    w.chain <+: w'.chain :=
  Stepping.reaches_preserves (fun later : Walk rules => w.chain <+: later.chain)
    (fun _ _ taken grown => grown.trans (walkStep_chain taken)) reaches List.prefix_rfl

/-- What holds of every walk that verified records allow: its ply and head follow from
its chain, and each id in the chain is a held move of that ply by that player. -/
structure Walked (crypto : Crypto) (state : GameState) (params : GameParams) (w : Walk rules) : Prop where
  ply_eq : w.ply.val = w.chain.length + 1
  parent_eq : w.parent = headOf crypto params w.chain
  short : w.chain.length ≤ MAX_PLY.val
  held : ∀ (i : Nat) (id : RecordId), w.chain[i]? = some id → ∃ rec ply parent uci,
    state.records[id]? = some rec ∧ rec.body = .move ply parent uci ∧ ply.val = i + 1 ∧
      rec.signer = params.keyOf (colorAtPly ply)

theorem headOf_append (chain : List RecordId) (id : RecordId) :
    headOf crypto params (chain ++ [id]) = id := by
  simp [headOf]

theorem walked_start : Walked crypto state params (walkStart rules crypto params) where
  ply_eq := rfl
  parent_eq := rfl
  short := Nat.zero_le _
  held i id absent := by simp [walkStart] at absent

theorem ply_of_walkStep (valid : state.allValid crypto params = true)
    (taken : walkStep rules state params stopBefore w = some w') :
    w.ply.val ≤ MAX_PLY.val ∧ w'.ply.val = w.ply.val + 1 := by
  obtain ⟨-, -, id, mv, single, rfl⟩ := walkStep_eq_some.1 taken
  obtain ⟨rec, uci, parsed, held, body, -⟩ := mem_candidates.1 (candidates_eq_singleton.1 single).1
  have verified := (Record.verify_iff _ _ _).1 (allValid_iff.1 valid id rec held)
  have bound : w.ply.val ≤ 4096 := verified.2.1 w.ply (by simp [body, Body.ply])
  refine ⟨bound, ?_⟩
  rw [advance, Fin.val_add]
  exact Nat.mod_eq_of_lt (Nat.lt_of_le_of_lt (Nat.succ_le_succ bound) (by decide))

theorem Walked.step (valid : state.allValid crypto params = true) (walked : Walked crypto state params w)
    (taken : walkStep rules state params stopBefore w = some w') : Walked crypto state params w' := by
  obtain ⟨bound, next⟩ := ply_of_walkStep valid taken
  obtain ⟨-, -, id, mv, single, rfl⟩ := walkStep_eq_some.1 taken
  obtain ⟨rec, uci, parsed, held, body, signer, -⟩ := mem_candidates.1 (candidates_eq_singleton.1 single).1
  refine ⟨?_, ?_, ?_, ?_⟩
  · rw [next, walked.ply_eq]
    simp [advance]
  · exact (headOf_append _ _).symm
  · simpa [advance, ← walked.ply_eq] using bound
  · intro i id' at'
    simp only [advance] at at'
    by_cases earlier : i < w.chain.length
    · rw [List.getElem?_append_left earlier] at at'
      exact walked.held i id' at'
    · rw [List.getElem?_append_right (not_lt.1 earlier), List.getElem?_singleton] at at'
      split_ifs at at' with last
      obtain rfl := Option.some.inj at'
      have plyEq := walked.ply_eq
      exact ⟨rec, w.ply, w.parent, uci, held, body, by omega, signer⟩

theorem walked_walk (valid : state.allValid crypto params = true) :
    Walked crypto state params (walk rules crypto state params stopBefore) :=
  Stepping.reaches_preserves _ (fun _ _ taken walked => Walked.step valid walked taken)
    (Stepping.reaches_run _ _) walked_start

theorem colorAtPly_succ {ply ply' : U16} (next : ply'.val = ply.val + 1) :
    colorAtPly ply' = (colorAtPly ply).other := by
  unfold colorAtPly
  rcases Nat.mod_two_eq_zero_or_one ply.val with even | odd
  · rw [if_pos (by omega), if_neg (by omega)]
    rfl
  · rw [if_neg (by omega), if_pos odd]
    rfl

theorem turn_walk (alternates : rules.Alternates) (valid : state.allValid crypto params = true) :
    rules.turn (walk rules crypto state params stopBefore).pos =
      colorAtPly (walk rules crypto state params stopBefore).ply := by
  refine Stepping.reaches_preserves (fun w : Walk rules => rules.turn w.pos = colorAtPly w.ply) ?_
    (Stepping.reaches_run _ _) alternates.start
  intro w w' taken turns
  obtain ⟨-, next⟩ := ply_of_walkStep valid taken
  obtain ⟨-, -, id, mv, single, rfl⟩ := walkStep_eq_some.1 taken
  obtain ⟨rec, uci, parsed, -, -, -, -, legal⟩ := mem_candidates.1 (candidates_eq_singleton.1 single).1
  rw [colorAtPly_succ next, ← turns]
  exact alternates.play parsed w.pos mv legal

theorem genesisInput_ne_idInput (rec : Record) : params.genesisInput crypto ≠ rec.idInput := by
  intro same
  have tags := congrArg (List.take 12) same
  have long : (12 : Nat) ≤ DOMAIN_GENESIS.length := by decide +kernel
  have long' : (12 : Nat) ≤ DOMAIN_REC.length := by decide +kernel
  rw [GameParams.genesisInput, Record.idInput, List.append_assoc, List.take_append_of_le_length long,
    List.take_append_of_le_length long'] at tags
  exact absurd tags (by decide +kernel)

theorem Walked.chain_nodup (walked : Walked crypto state params w) : w.chain.Nodup := by
  refine List.nodup_iff_getElem?_ne_getElem?.2 fun i j less short same => ?_
  have at' := List.getElem?_eq_getElem (less.trans short)
  obtain ⟨rec, ply, parent, uci, held, body, number, -⟩ := walked.held i _ at'
  obtain ⟨rec', ply', parent', uci', held', body', number', -⟩ := walked.held j _ (same ▸ at')
  obtain rfl : rec = rec' := Option.some.inj (held.symm.trans held')
  obtain ⟨rfl, -⟩ : ply = ply' ∧ _ := by simpa using body.symm.trans body'
  omega

/-- The heads along a chain are pairwise different: a record has one ply, and no record
hashes to the genesis id. -/
theorem Walked.nodup {records : Set Record}
    (free : crypto.CollisionFree (insert (params.genesisInput crypto) (Record.idInput '' records)))
    (keyed : state.Keyed crypto) (inside : ∀ rec ∈ valuesOf state.records, rec ∈ records)
    (walked : Walked crypto state params w) : (params.genesis crypto :: w.chain).Nodup := by
  refine List.nodup_cons.2 ⟨fun member => ?_, walked.chain_nodup⟩
  obtain ⟨i, at'⟩ := List.getElem?_of_mem member
  obtain ⟨rec, -, -, -, held, -⟩ := walked.held i _ at'
  have known : rec ∈ records := inside rec (mem_valuesOf.2 ⟨_, held⟩)
  have same : crypto.sha256 rec.idInput = crypto.sha256 (params.genesisInput crypto) := keyed _ rec held
  exact genesisInput_ne_idInput rec (free (.inr ⟨rec, known, rfl⟩) (.inl rfl) same).symm

theorem headOf_ne_of_nodup {chain longer : List RecordId} {past : RecordId}
    (distinct : (params.genesis crypto :: longer).Nodup) (grown : chain <+: longer)
    (moved : past ∈ (params.genesis crypto :: chain).dropLast) : past ≠ headOf crypto params longer := by
  obtain ⟨rest, rfl⟩ := grown
  have last : (params.genesis crypto :: (chain ++ rest)).getLast? =
      some (headOf crypto params (chain ++ rest)) := by
    rw [headOf, List.getLast?_cons]
  have early : past ∈ (params.genesis crypto :: (chain ++ rest)).dropLast := by
    rw [← List.cons_append, List.dropLast_append]
    split_ifs
    · exact moved
    · exact List.mem_append_left _ (List.mem_of_mem_dropLast moved)
  rw [← List.dropLast_append_getLast? _ last, List.nodup_append] at distinct
  exact distinct.2.2 past early _ (List.mem_singleton_self _)

theorem walkStep_walk (valid : state.allValid crypto params = true) :
    walkStep rules state params stopBefore (walk rules crypto state params stopBefore) = none := by
  refine Stepping.run_finished (fun w => MAX_PLY.val + 1 - w.ply.val) ?_ _ _ (Nat.sub_le _ _ |>.trans ?_)
  swap
  · decide
  intro w w' taken
  obtain ⟨bound, next⟩ := ply_of_walkStep valid taken
  omega

end GameState

end Adjourn
