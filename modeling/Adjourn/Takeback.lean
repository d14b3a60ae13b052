import Adjourn.Chain
import Adjourn.Forfeit

/-! No takeback: while nobody has forfeited, the accepted chain only grows. -/

namespace Adjourn.Takeback
open Std (ExtTreeMap)
open Cbor OrderedMap TopK NormalForm GameState

variable {rules : Rules} {crypto : Crypto} {params : GameParams} {records : Set Record}
  {offers offers' : List Record} {state later : GameState} {id : RecordId} {rec : Record} {ply : U16}
  {stopBefore : Option U16}

theorem candidates_of_single {pos : rules.Position} {parent : RecordId} {mv : rules.Move}
    (single : ∀ color, ¬later.Doubled params color ply)
    (member : (id, mv) ∈ candidates rules later params pos parent ply) :
    candidates rules later params pos parent ply = [(id, mv)] := by
  refine candidates_eq_singleton.2 ⟨member, fun id' mv' member' => ?_⟩
  obtain ⟨rec, uci, -, atId, body, signer, -⟩ := mem_candidates.1 member
  obtain ⟨rec', uci', -, atId', body', signer', -⟩ := mem_candidates.1 member'
  by_contra differs
  obtain ⟨color, owner⟩ := Option.isSome_iff_exists.1 (params.colorOf_keyOf_isSome (colorAtPly ply))
  have group : later.groupAt id = some ⟨params.keyOf (colorAtPly ply), .move, ply⟩ := by
    rw [groupAt_of_get atId]
    exact groupOf_eq_move.2 ⟨parent, uci, body, signer⟩
  have group' : later.groupAt id' = some ⟨params.keyOf (colorAtPly ply), .move, ply⟩ := by
    rw [groupAt_of_get atId']
    exact groupOf_eq_move.2 ⟨parent, uci', body', signer'⟩
  exact single color ⟨_, id', id, owner, differs, group', group⟩

section Universe
variable (free : crypto.CollisionFree (Record.idInput '' records))
  (inside : ∀ rec ∈ offers', rec ∈ records)
  (after : Between crypto params offers' later)
  (single : ∀ color, ¬later.Doubled params color ply)
include free inside after single

/-- Dropping a move takes two others of its group, so where nobody has doubled every
move ever offered is held, possibly under another signature. -/
theorem held_of_offered {signer : KeyBytes} (member : rec ∈ offers') (valid : rec.verify crypto params = true)
    (own : groupOf rec = some ⟨signer, .move, ply⟩) :
    ∃ rec', later.records[rec.id crypto]? = some rec' ∧ rec'.signer = rec.signer ∧ rec'.body = rec.body := by
  have offeredId : rec.id crypto ∈ offerIds crypto params offers' :=
    mem_offerIds.2 ⟨rec, member, valid, rfl⟩
  have group := (groupIn_of_mem free inside member valid).trans own
  have kept : rec.id crypto ∈ cut (groupIn crypto params offers') (fun group => group.kind.k)
      (offerIds crypto params offers') := by
    refine mem_cut_of_small offeredId fun group' same => ?_
    obtain rfl := Option.some.inj (group.symm.trans same)
    refine (Finset.card_le_one.2 fun first inFirst second inSecond => ?_).trans (Nat.le_succ 1)
    obtain ⟨inFirst, own'⟩ := Finset.mem_filter.1 inFirst
    obtain ⟨inSecond, own''⟩ := Finset.mem_filter.1 inSecond
    obtain ⟨move, isOffered, ok, rfl⟩ := mem_offerIds.1 inFirst
    obtain ⟨move', isOffered', ok', rfl⟩ := mem_offerIds.1 inSecond
    rw [groupIn_of_mem free inside isOffered ok] at own'
    rw [groupIn_of_mem free inside isOffered' ok'] at own''
    by_contra differs
    obtain ⟨-, -, -, rfl⟩ := groupOf_eq_move.1 own'
    obtain ⟨color, owner⟩ := Option.isSome_iff_exists.1 ((Record.verify_iff _ _ _).1 ok).1
    exact single color ((after.doubled_iff free inside).2
      ⟨move, isOffered, move', isOffered', ok, ok', differs, owner, own', own''⟩)
  exact after.exists_held free inside member kept

theorem candidates_of_offered {pos : rules.Position} {parent : RecordId} {mv : rules.Move} (member : rec ∈ offers')
    (valid : rec.verify crypto params = true)
    (continues : candidate rules params pos parent ply (rec.id crypto, rec) = some (id, mv)) :
    candidates rules later params pos parent ply = [(id, mv)] := by
  obtain ⟨rfl, signer, uci, parsed, body, read, legal⟩ := candidate_eq_some.1 continues
  have own : groupOf rec = some ⟨rec.signer, .move, ply⟩ := groupOf_eq_move.2 ⟨parent, uci, body, rfl⟩
  obtain ⟨rec', held, signers, bodies⟩ := held_of_offered free inside after single member valid own
  exact candidates_of_single single (mem_candidates.2
    ⟨rec', uci, parsed, held, bodies.trans body, signers.trans signer, read, legal⟩)

theorem candidates_eq {pos : rules.Position} {parent : RecordId} {mv : rules.Move}
    (fewer : ∀ rec ∈ offers, rec ∈ offers') (before : Between crypto params offers state)
    (unique : candidates rules state params pos parent ply = [(id, mv)]) :
    candidates rules later params pos parent ply = [(id, mv)] := by
  obtain ⟨rec, uci, parsed, held, body, signer, read, legal⟩ :=
    mem_candidates.1 (candidates_eq_singleton.1 unique).1
  obtain ⟨rfl, valid, early⟩ := before.sound id rec held
  exact candidates_of_offered free inside after single (fewer rec early) valid
    (candidate_eq_some.2 ⟨rfl, signer, uci, parsed, body, read, legal⟩)

end Universe

section Clean
variable (free : crypto.CollisionFree (Record.idInput '' records))
  (inside : ∀ rec ∈ offers', rec ∈ records) (fewer : ∀ rec ∈ offers, rec ∈ offers')
  (before : Between crypto params offers state) (after : Between crypto params offers' later)
  (clean : later.doubleSigned params = none)
include free inside fewer before after clean

theorem walkStep_included (w w' : Walk rules) (taken : walkStep rules state params stopBefore w = some w') :
    walkStep rules later params none w = some w' := by
  obtain ⟨running, -, id, mv, unique, rfl⟩ := walkStep_eq_some.1 taken
  have single : ∀ color, ¬later.Doubled params color w.ply :=
    fun color => doubleSigned_eq_none.1 clean color w.ply
  exact walkStep_eq_some.2 ⟨running, by simp, id, mv,
    candidates_eq free inside after single fewer before unique, rfl⟩

theorem walk_reaches : Relation.ReflTransGen (Stepping.Steps (walkStep rules later params none))
    (walk rules crypto state params stopBefore) (walk rules crypto later params none) :=
  Stepping.run_extends (walkStep_included free inside fewer before after clean) _ _

theorem walk_extends :
    (walk rules crypto state params stopBefore).chain <+: (walk rules crypto later params none).chain :=
  Stepping.reaches_preserves
    (fun w : Walk rules => (walk rules crypto state params stopBefore).chain <+: w.chain)
    (fun _ _ taken grown => grown.trans (walkStep_chain taken))
    (walk_reaches free inside fewer before after clean) (List.prefix_refl _)

theorem walk_eq (honest : state.doubleSigned params = none) (valid : state.allValid crypto params = true)
    (old : ∀ (id : RecordId) (rec : Record) (uci : String), later.records[id]? = some rec →
      rec.body = .move (walk rules crypto state params none).ply (walk rules crypto state params none).parent uci →
      rec.signer = params.keyOf (colorAtPly (walk rules crypto state params none).ply) →
        state.records[id]? = some rec) :
    walk rules crypto later params none = walk rules crypto state params none := by
  refine Stepping.reaches_of_stuck ?_ (walk_reaches free inside fewer before after clean)
  by_contra moves
  obtain ⟨w, taken⟩ := Option.ne_none_iff_exists'.1 moves
  obtain ⟨running, -, id, mv, unique, -⟩ := walkStep_eq_some.1 taken
  obtain ⟨rec, uci, parsed, held, body, signer, read, legal⟩ :=
    mem_candidates.1 (candidates_eq_singleton.1 unique).1
  -- the state has the same single candidate, so its own walk would have taken it
  have alone : candidates rules state params (walk rules crypto state params none).pos
      (walk rules crypto state params none).parent (walk rules crypto state params none).ply = [(id, mv)] :=
    candidates_of_single (fun color => doubleSigned_eq_none.1 honest color _)
      (mem_candidates.2 ⟨rec, uci, parsed, old id rec uci held body signer, body, signer, read, legal⟩)
  have next := walkStep_eq_some.2 (⟨running, by simp, id, mv, alone, rfl⟩ :
    _ ∧ (∀ stop ∈ (none : Option U16), _ < stop) ∧ _)
  rw [walkStep_walk valid] at next
  exact absurd next (by simp)

end Clean

/-- A draw statement that names one head counts while another is the head. -/
def Counts (params : GameParams) (state : GameState) (past head : RecordId) : Prop :=
  (∃ rec ply turn repetitions halfmoves, rec.body = .drawClaim ply past ∧
    claims params head turn repetitions halfmoves rec ≠ none) ∨
  ∃ rec ply offer offerRec ply', rec.body = .drawAccept ply offer ∧
    state.records[offer]? = some offerRec ∧ offerRec.body = .drawOffer ply' past ∧
      accepts state params head rec = true

theorem Counts.eq {past head : RecordId} (counts : Counts params state past head) : past = head := by
  rcases counts with ⟨rec, ply, turn, repetitions, halfmoves, body, counts⟩ |
    ⟨rec, ply, offer, offerRec, ply', body, held, body', counts⟩
  · by_contra differs
    simp [claims, body, differs] at counts
  · by_contra differs
    cases owner : rec.color params <;> simp [accepts, body, held, body', differs, owner] at counts

/-- After any run from a verified state, either a double-sign is proven, or the chain
of the start is a prefix of the chain now; a head the chain had moved past is not its
head again, and no draw statement that names it counts. -/
theorem no_takeback (rules : Rules) (crypto : Crypto) (params : GameParams) (records : Set Record)
    (start : GameState) (ops : List Op)
    (free : crypto.CollisionFree (insert (params.genesisInput crypto) (Record.idInput '' records)))
    (keyed : start.Keyed crypto) (valid : start.allValid crypto params = true)
    (inside : ∀ rec ∈ offered start ops, rec ∈ records) :
    (∃ winner, ((run crypto params start ops).project rules crypto params).decision =
      some ⟨winner, .doubleSignForfeit⟩) ∨
    ((start.project rules crypto params).chain <+:
        ((run crypto params start ops).project rules crypto params).chain ∧
      ∀ past ∈ (params.genesis crypto :: (start.project rules crypto params).chain).dropLast,
        past ≠ headOf crypto params ((run crypto params start ops).project rules crypto params).chain ∧
        ¬Counts params (run crypto params start ops) past
          (headOf crypto params ((run crypto params start ops).project rules crypto params).chain)) := by
  have idsFree : crypto.CollisionFree (Record.idInput '' records) := free.mono (Set.subset_insert _ _)
  obtain ⟨before, after⟩ := Forfeit.between_start idsFree keyed valid inside
  cases found : (run crypto params start ops).doubleSigned params with
  | some fraud => exact .inl ⟨fraud.winner, Forfeit.project_decision found⟩
  | none =>
    have late : (run crypto params start ops).Keyed crypto := fun id rec held => (after.sound id rec held).1
    have verified : (run crypto params start ops).allValid crypto params = true :=
      allValid_iff.2 fun id rec held => (after.sound id rec held).2.1
    have kept : ∀ rec ∈ valuesOf (run crypto params start ops).records, rec ∈ records := by
      intro rec member
      obtain ⟨id, held⟩ := mem_valuesOf.1 member
      exact inside rec (after.sound id rec held).2.2
    have grown : (start.project rules crypto params).chain <+:
        ((run crypto params start ops).project rules crypto params).chain := by
      simp only [project, found]
      exact walk_extends idsFree inside (fun rec member => List.mem_append_left _ member) before after found
    have distinct : (params.genesis crypto ::
        ((run crypto params start ops).project rules crypto params).chain).Nodup :=
      (walked_walk verified).nodup free late kept
    refine .inr ⟨grown, fun past moved => ?_⟩
    have expired := headOf_ne_of_nodup distinct grown moved
    exact ⟨expired, fun counts => expired counts.eq⟩

theorem no_takeback_reply :
    (∃ winner, ((run Sample.crypto Sample.params
        (GameState.empty.absorbForTest Sample.crypto Sample.opening) [.insertVerified Sample.reply]).project
          Sample.rules Sample.crypto Sample.params).decision = some ⟨winner, .doubleSignForfeit⟩) ∨
    (((GameState.empty.absorbForTest Sample.crypto Sample.opening).project
        Sample.rules Sample.crypto Sample.params).chain <+:
        ((run Sample.crypto Sample.params (GameState.empty.absorbForTest Sample.crypto Sample.opening)
          [.insertVerified Sample.reply]).project Sample.rules Sample.crypto Sample.params).chain ∧
      ∀ past ∈ (Sample.params.genesis Sample.crypto ::
          ((GameState.empty.absorbForTest Sample.crypto Sample.opening).project
            Sample.rules Sample.crypto Sample.params).chain).dropLast,
        past ≠ headOf Sample.crypto Sample.params ((run Sample.crypto Sample.params
          (GameState.empty.absorbForTest Sample.crypto Sample.opening)
            [.insertVerified Sample.reply]).project Sample.rules Sample.crypto Sample.params).chain ∧
        ¬Counts Sample.params (run Sample.crypto Sample.params
            (GameState.empty.absorbForTest Sample.crypto Sample.opening) [.insertVerified Sample.reply]) past
          (headOf Sample.crypto Sample.params ((run Sample.crypto Sample.params
            (GameState.empty.absorbForTest Sample.crypto Sample.opening)
              [.insertVerified Sample.reply]).project Sample.rules Sample.crypto Sample.params).chain)) := by
  refine no_takeback Sample.rules Sample.crypto Sample.params
    {rec | rec ∈ [Sample.opening, Sample.reply]} _ _ ?_ ((GameState.keyed_empty _).absorbForTest _) ?_ ?_
  · refine Sample.collisionFree_of_list _ (Sample.params.genesisInput Sample.crypto ::
      [Sample.opening, Sample.reply].map Record.idInput) ?_ (by decide +kernel)
    rintro x (rfl | ⟨rec, member, rfl⟩)
    · exact List.mem_cons_self
    · exact List.mem_cons_of_mem _ (List.mem_map_of_mem member)
  · decide +kernel
  · decide +kernel

end Adjourn.Takeback
