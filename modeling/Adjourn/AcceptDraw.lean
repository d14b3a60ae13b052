import Adjourn.ChainShape
import Adjourn.NextMove

/-! Accepting a draw offer. The acceptance takes effect once the state holds it, and it
shares its group with every acceptance that the player has signed under the same ply
index. -/

namespace Adjourn.AcceptDraw
open Std (ExtTreeMap)
open Cbor OrderedMap NormalForm GameState Session

def offerToAccept (crypto : Crypto) (view : GameView) : Option RecordId :=
  let head := headOf crypto view.params view.status.chain
  (view.state.records.toList.find? fun (_, rec) =>
    (match rec.body with
      | .drawOffer _ named => decide (named = head)
      | _ => false) && decide (rec.color view.params = some view.side.toColor.other)).map Prod.fst

def drawAccept {N : Type} [NodeClient N] (rules : Rules) (crypto : Crypto) (reader : Reader)
    (instanceId : Bytes → Bytes → Bytes32) (label : String) (wasm : Bytes) : Client N Status := do
  let game ← openGame rules crypto reader instanceId label wasm
  if game.view.status.isOver then throw (.bail "the game is already over")
  else
    match offerToAccept crypto game.view with
    | none => throw (.bail "no live draw offer from your opponent to accept")
    | some offer =>
      signAndSubmit rules crypto reader instanceId game (.drawAccept game.view.status.ply offer)

variable {rules : Rules} {crypto : Crypto} {params : GameParams} {records : Set Record}
  {state : GameState} {op : Op} {view : GameView} {rec added : Record} {group : Group} {color : Color}
  {offers : List Record} {id : RecordId}

theorem perform_drawAccept {N : Type} [NodeClient N] {reader : Reader} {instanceId : Bytes → Bytes → Bytes32}
    {label : String} {wasm : Bytes} {node node' : N} {game : OpenGame} {offer : RecordId}
    (opened : perform (openGame rules crypto reader instanceId label wasm) node = (.ok game, node'))
    (playing : game.view.status.decision = none) (found : offerToAccept crypto game.view = some offer) :
    perform (drawAccept rules crypto reader instanceId label wasm) node =
      perform (signAndSubmit rules crypto reader instanceId game
        (.drawAccept game.view.status.ply offer)) node' := by
  have unfinished : game.view.status.isOver = false := by rw [Status.isOver, playing]; rfl
  rw [drawAccept, perform_bind, opened]
  simp only [unfinished, Bool.false_eq_true, if_false, found]

theorem offerToAccept_eq_some {offer : RecordId} (found : offerToAccept crypto view = some offer) :
    ∃ rec ply, view.state.records[offer]? = some rec ∧
      rec.body = .drawOffer ply (headOf crypto view.params view.status.chain) ∧
      rec.color view.params = some view.side.toColor.other := by
  obtain ⟨⟨id, rec⟩, first, rfl⟩ := Option.map_eq_some_iff.1 found
  have held := ExtTreeMap.mem_toList_iff_getElem?_eq_some.1 (List.mem_of_find?_eq_some first)
  have suits := List.find?_some first
  simp only [Bool.and_eq_true, decide_eq_true_eq] at suits
  obtain ⟨named, owner⟩ := suits
  cases body : rec.body with
  | drawOffer ply head =>
    rw [body] at named
    exact ⟨rec, ply, held, by rw [body, of_decide_eq_true named], owner⟩
  | _ => simp [body] at named

theorem offerToAccept_isSome {ply : U16} (held : view.state.records[id]? = some rec)
    (body : rec.body = .drawOffer ply (headOf crypto view.params view.status.chain))
    (owner : rec.color view.params = some view.side.toColor.other) :
    ∃ offer, offerToAccept crypto view = some offer := by
  rw [← Option.isSome_iff_exists, offerToAccept, Option.isSome_map, List.find?_isSome]
  exact ⟨(id, rec), ExtTreeMap.mem_toList_iff_getElem?_eq_some.2 held, by simp [body, owner]⟩

theorem survives_append (ids : added.id crypto ≠ rec.id crypto) (groups : groupOf added ≠ groupOf rec)
    (survives : Survives crypto params offers rec) : Survives crypto params (offers ++ [added]) rec := by
  obtain ⟨⟨member, valid, smallest⟩, few⟩ := survives
  refine ⟨⟨List.mem_append_left _ member, valid, fun other offered ok same => ?_⟩, fun group own => ?_⟩
  · rcases List.mem_append.1 offered with early | late
    · exact smallest other early ok same
    · rw [List.mem_singleton] at late
      exact absurd (late ▸ same) ids
  · refine (Finset.card_le_card fun id rival => ?_).trans_lt (few group own)
    obtain ⟨other, offered, ok, own', below⟩ := mem_rivals.1 rival
    rcases List.mem_append.1 offered with early | late
    · exact mem_rivals.2 ⟨other, early, ok, own', below⟩
    · rw [List.mem_singleton] at late
      rw [late, ← Option.mem_def.1 own] at own'
      exact absurd own' groups

theorem survives_new_iff (keyed : state.Keyed crypto) (valid : state.allValid crypto params = true)
    (ok : added.verify crypto params = true) (new : state.records[added.id crypto]? = none)
    (own : groupOf added = some group) (one : group.kind.k = 1) :
    Survives crypto params (valuesOf state.records ++ [added]) added ↔
      ∀ id < added.id crypto, state.groupAt id ≠ some group := by
  have alone : ∀ other ∈ valuesOf state.records ++ [added], other.id crypto = added.id crypto → other = added := by
    intro other member same
    rcases List.mem_append.1 member with early | late
    · obtain ⟨id, held⟩ := mem_valuesOf.1 early
      rw [← keyed id other held, same, new] at held
      cases held
    · exact List.mem_singleton.1 late
  constructor
  · rintro ⟨-, few⟩ id less same
    have none' := few group own
    rw [one, Nat.lt_one_iff, Finset.card_eq_zero, Finset.eq_empty_iff_forall_notMem] at none'
    cases held : state.records[id]? with
    | none => simp [groupAt, held] at same
    | some other =>
      have ids := keyed id other held
      refine none' id (mem_rivals.2 ⟨other, ?_, ?_, (groupAt_of_get held).symm.trans same, ids, less⟩)
      · exact List.mem_append_left _ (mem_valuesOf.2 ⟨id, held⟩)
      · exact allValid_iff.1 valid id other held
  · intro first
    refine ⟨⟨by simp, ok, fun other member _ same => (alone other member same) ▸ le_rfl⟩, fun group' own' => ?_⟩
    obtain rfl : group = group' := Option.some.inj (own.symm.trans own')
    rw [one, Nat.lt_one_iff, Finset.card_eq_zero, Finset.eq_empty_iff_forall_notMem]
    intro id rival
    obtain ⟨other, member, -, own'', rfl, less⟩ := mem_rivals.1 rival
    rcases List.mem_append.1 member with early | late
    · obtain ⟨id, held⟩ := mem_valuesOf.1 early
      obtain rfl := keyed id other held
      exact first _ less ((groupAt_of_get held).trans own'')
    · rw [List.mem_singleton.1 late] at less
      exact absurd less (lt_irrefl _)

def acceptance (crypto : Crypto) (key : Bytes32) (view : GameView) (offer : RecordId) : Record :=
  Record.sign crypto key view.params (.drawAccept view.status.ply offer)

theorem groupOf_acceptance {key : Bytes32} (player : crypto.verifyingKey key = view.params.keyOf color)
    (offer : RecordId) : groupOf (acceptance crypto key view offer) =
      some ⟨view.params.keyOf color, .drawAccept, view.status.ply⟩ := by
  rw [acceptance, Record.sign, player]
  rfl

/-- The undecided game of a player, with an offer by the opponent at its head. -/
structure Offered (rules : Rules) (crypto : Crypto) (records : Set Record) (view : GameView) (color : Color) :
    Prop where
  distinct : view.params.white ≠ view.params.black
  keyed : view.state.Keyed crypto
  valid : view.state.allValid crypto view.params = true
  normal : view.state.filterValid crypto view.params = view.state
  inside : ∀ rec ∈ valuesOf view.state.records, rec ∈ records
  status : view.status = view.state.project rules crypto view.params
  side : view.side = .ofColor color
  playing : view.status.decision = none
  live : ∃ (id : RecordId) (rec : Record) (ply : U16), view.state.records[id]? = some rec ∧
    rec.body = .drawOffer ply (view.state.head rules crypto view.params) ∧
    rec.color view.params = some color.other

section Setting
variable {key : Bytes32} {offer : RecordId} (setting : Offered rules crypto records view color)
include setting

theorem Offered.undecided : view.state.Undecided rules crypto view.params :=
  NextMove.undecided_of_open (setting.status ▸ setting.playing)

theorem Offered.head_eq :
    headOf crypto view.params view.status.chain = view.state.head rules crypto view.params := by
  rw [setting.status]
  rfl

theorem Offered.opponent : view.side.toColor.other = color.other := by
  rw [setting.side]
  cases color <;> rfl

theorem Offered.found : ∃ offer, offerToAccept crypto view = some offer := by
  obtain ⟨id, rec, ply, held, body, owner⟩ := setting.live
  rw [← setting.head_eq] at body
  exact offerToAccept_isSome held body (owner.trans (congrArg some setting.opponent.symm))

theorem Offered.unaccepted (id offer : RecordId) : ¬view.state.LiveAccept rules crypto view.params id offer := by
  intro live
  have outcome := decision_of_undecided setting.undecided
  rw [← setting.status, setting.playing, liveAgreement_iff.2 ⟨id, offer, live⟩] at outcome
  cases claimed : view.state.liveClaim rules crypto view.params <;> rw [claimed] at outcome <;> cases outcome

section Player
variable (player : crypto.verifyingKey key = view.params.keyOf color)
include player

theorem Offered.color_acceptance : (acceptance crypto key view offer).color view.params = some color := by
  rw [Record.color, acceptance, Record.sign, player, GameParams.colorOf_keyOf setting.distinct]

theorem Offered.verify_acceptance (signs : crypto.Signs) :
    (acceptance crypto key view offer).verify crypto view.params = true := by
  refine (Record.verify_iff _ _ _).2 ⟨?_, ?_, (crypto.sign key _).length_eq, signs _ _⟩
  · rw [setting.color_acceptance player]
    rfl
  · rintro ply ⟨⟩
    obtain ⟨number, short, -⟩ := ChainShape.ply_project rules setting.valid
    rw [setting.status]
    exact Fin.le_def.2 (number ▸ short)

end Player

section Merged
variable (free : crypto.CollisionFree (Record.idInput '' records))
  (known : acceptance crypto key view offer ∈ records)
include free known

theorem Offered.fresh (player : crypto.verifyingKey key = view.params.keyOf color)
    (found : offerToAccept crypto view = some offer) :
    view.state.records[(acceptance crypto key view offer).id crypto]? = none := by
  by_contra present
  obtain ⟨rec, held⟩ := Option.ne_none_iff_exists'.1 present
  have ids := setting.keyed _ rec held
  obtain ⟨signers, bodies⟩ := Record.id_inj free (setting.inside rec (mem_valuesOf.2 ⟨_, held⟩)) known ids
  obtain ⟨offerRec, ply, held', body, owner⟩ := offerToAccept_eq_some found
  have owner' : rec.color view.params = some color := by
    have own : (acceptance crypto key view offer).color view.params = some color := setting.color_acceptance player
    rwa [Record.color, ← signers] at own
  rw [setting.head_eq] at body
  rw [setting.opponent] at owner
  exact setting.unaccepted _ offer ⟨rec, offerRec, _, ply, color, color.other, held, bodies, held', body, owner',
    owner, color.other_ne⟩

variable (brings : op.records = [acceptance crypto key view offer])
include brings

theorem Offered.merged :
    (∀ rec ∈ valuesOf view.state.records ++ [acceptance crypto key view offer], rec ∈ records) ∧
    Represents crypto view.params (valuesOf view.state.records ++ [acceptance crypto key view offer])
      (op.apply crypto view.params view.state) := by
  have inside : ∀ rec ∈ valuesOf view.state.records ++ [acceptance crypto key view offer], rec ∈ records := by
    intro rec member
    rcases List.mem_append.1 member with early | late
    · exact setting.inside rec early
    · rwa [List.mem_singleton.1 late]
  have start : Between crypto view.params (valuesOf view.state.records) view.state :=
    Between.start setting.keyed setting.valid
  exact ⟨inside, brings ▸ start.apply free op (brings ▸ inside)⟩

theorem Offered.walk_merged : (op.apply crypto view.params view.state).doubleSigned view.params = none ∧
    (op.apply crypto view.params view.state).finalWalk rules crypto view.params =
      view.state.finalWalk rules crypto view.params := by
  obtain ⟨inside, represents⟩ := setting.merged free known brings
  have honest := setting.undecided.1
  have before : Between crypto view.params (valuesOf view.state.records) view.state :=
    Between.start setting.keyed setting.valid
  have early : ∀ rec ∈ valuesOf view.state.records ++ [acceptance crypto key view offer], ∀ ply parent uci,
      rec.body = .move ply parent uci → rec ∈ valuesOf view.state.records := by
    intro rec member ply parent uci body
    refine (List.mem_append.1 member).resolve_right fun late => ?_
    rw [List.mem_singleton.1 late] at body
    cases body
  have clean : (op.apply crypto view.params view.state).doubleSigned view.params = none := by
    refine doubleSigned_eq_none.2 fun color' ply doubled => ?_
    obtain ⟨one, member, two, member', ok, ok', differs, owner, own, own'⟩ :=
      (represents.between.doubled_iff free inside).1 doubled
    obtain ⟨parent, uci, body, -⟩ := groupOf_eq_move.1 own
    obtain ⟨parent', uci', body', -⟩ := groupOf_eq_move.1 own'
    exact doubleSigned_eq_none.1 honest color' ply ((before.doubled_iff free setting.inside).2
      ⟨one, early one member _ _ _ body, two, early two member' _ _ _ body', ok, ok', differs, owner, own, own'⟩)
  refine ⟨clean, ?_⟩
  simp only [finalWalk, clean, honest, Option.map_none]
  refine Takeback.walk_eq free inside (fun rec member => List.mem_append_left _ member) before represents.between
    clean honest setting.valid fun id rec uci held body _ => ?_
  obtain ⟨rfl, -, member⟩ := represents.between.sound id rec held
  obtain ⟨id, held'⟩ := mem_valuesOf.1 (early rec member _ _ _ body)
  rwa [setting.keyed id rec held']

variable (player : crypto.verifyingKey key = view.params.keyOf color)
  (found : offerToAccept crypto view = some offer)
include player found

theorem Offered.offer_merged {rec : Record} {ply : U16} {head : RecordId}
    (held : view.state.records[offer]? = some rec) (body : rec.body = .drawOffer ply head) :
    (op.apply crypto view.params view.state).records[offer]? = some rec := by
  obtain ⟨-, represents⟩ := setting.merged free known brings
  have normal : Represents crypto view.params (valuesOf view.state.records) view.state := by
    have filtered : Represents crypto view.params _ _ := Convergence.represents_filterValid free setting.inside
    rwa [setting.normal] at filtered
  obtain ⟨own, survives⟩ := (normal offer rec).1 held
  refine (represents offer rec).2 ⟨own, survives_append ?_ ?_ survives⟩
  · intro same
    have fresh := setting.fresh free known player found
    rw [same, own, held] at fresh
    cases fresh
  · rw [groupOf_acceptance player offer, groupOf, body]
    simp [Body.kind]

theorem Offered.held_iff (signs : crypto.Signs) :
    (op.apply crypto view.params view.state).records[(acceptance crypto key view offer).id crypto]? =
        some (acceptance crypto key view offer) ↔
      ∀ id < (acceptance crypto key view offer).id crypto,
        view.state.groupAt id ≠ some ⟨view.params.keyOf color, .drawAccept, view.status.ply⟩ := by
  obtain ⟨-, represents⟩ := setting.merged free known brings
  rw [represents, and_iff_right rfl]
  exact survives_new_iff setting.keyed setting.valid (setting.verify_acceptance player signs)
    (setting.fresh free known player found) (groupOf_acceptance player offer) rfl

theorem Offered.decided_of_held
    (held : (op.apply crypto view.params view.state).records[(acceptance crypto key view offer).id crypto]? =
      some (acceptance crypto key view offer)) :
    ((op.apply crypto view.params view.state).project rules crypto view.params).decision ≠ none := by
  intro open'
  have undecided := NextMove.undecided_of_open open'
  obtain ⟨-, walks⟩ := setting.walk_merged free known brings
  obtain ⟨offerRec, ply, heldOffer, body, owner⟩ := offerToAccept_eq_some found
  rw [setting.opponent] at owner
  rw [setting.head_eq] at body
  have still := setting.offer_merged free known brings player found heldOffer body
  have agreed : (op.apply crypto view.params view.state).liveAgreement rules crypto view.params = true := by
    refine liveAgreement_iff.2 ⟨_, offer, _, offerRec, view.status.ply, ply, color, color.other, held, rfl, still,
      ?_, setting.color_acceptance player, owner, color.other_ne⟩
    rw [body, GameState.head, GameState.head, walks]
  rw [decision_of_undecided undecided, agreed] at open'
  cases claimed : (op.apply crypto view.params view.state).liveClaim rules crypto view.params <;>
    rw [claimed] at open' <;> cases open'

end Merged

end Setting

/-- With a live offer on the board the flow finds one, and asks for an acceptance of it.
The acceptance is held by the merged state, which is then decided, exactly where the player
has signed no other acceptance of that ply index with a smaller id. -/
theorem acceptance_decides_iff (rules : Rules) (crypto : Crypto) (records : Set Record) (view : GameView)
    (color : Color) (key : Bytes32) (free : crypto.CollisionFree (Record.idInput '' records))
    (signs : crypto.Signs) (setting : Offered rules crypto records view color)
    (player : crypto.verifyingKey key = view.params.keyOf color) :
    ∃ offer, offerToAccept crypto view = some offer ∧
      (∀ (N : Type) [NodeClient N] (reader : Reader) (instanceId : Bytes → Bytes → Bytes32) (label : String)
        (wasm : Bytes) (node node' : N) (game : OpenGame),
        perform (openGame rules crypto reader instanceId label wasm) node = (.ok game, node') →
        game.view = view → perform (drawAccept rules crypto reader instanceId label wasm) node =
          perform (signAndSubmit rules crypto reader instanceId game
            (acceptance crypto key view offer).body) node') ∧
      ∀ op : Op, op.records = [acceptance crypto key view offer] → acceptance crypto key view offer ∈ records →
        (((op.apply crypto view.params view.state).records[(acceptance crypto key view offer).id crypto]? =
              some (acceptance crypto key view offer) ∧
            ((op.apply crypto view.params view.state).project rules crypto view.params).decision ≠ none) ↔
          ∀ id < (acceptance crypto key view offer).id crypto,
            view.state.groupAt id ≠ some ⟨view.params.keyOf color, .drawAccept, view.status.ply⟩) := by
  obtain ⟨offer, found⟩ := setting.found
  refine ⟨offer, found, ?_, fun op brings known => ?_⟩
  · rintro N inst reader instanceId label wasm node node' game opened rfl
    exact perform_drawAccept opened setting.playing found
  · rw [← setting.held_iff free known brings player found signs]
    exact and_iff_left_of_imp (setting.decided_of_held free known brings player found)

def blackView (state : GameState) : GameView where
  label := "black"
  side := .black
  params := Sample.params
  gameId := Sample.params.gameId Sample.crypto
  contract := zeros
  previous := none
  state := state
  status := state.project Sample.rules Sample.crypto Sample.params

theorem blackView_status (state : GameState) : (blackView state).status =
    (blackView state).state.project Sample.rules Sample.crypto (blackView state).params := rfl

def earlyOffer : Record :=
  Record.sign Sample.crypto Sample.whiteKey Sample.params (.drawOffer 1 (Sample.params.genesis Sample.crypto))
def earlyAcceptance : Record :=
  Record.sign Sample.crypto Sample.blackKey Sample.params (.drawAccept 0 (earlyOffer.id Sample.crypto))

def reoffered : GameState :=
  run Sample.crypto Sample.params .empty [.insertVerified earlyOffer, .insertVerified earlyAcceptance,
    .insertVerified Sample.laterDecoy, .insertVerified Sample.offer]

theorem reoffered_keyed : reoffered.Keyed Sample.crypto := by
  have start : GameState.empty.Holds Sample.crypto fun _ => True :=
    fun id rec held => ⟨keyed_empty _ id rec held, trivial⟩
  have holds : reoffered.Holds Sample.crypto fun _ => True := start.run fun _ _ _ => trivial
  exact fun id rec held => (holds id rec held).1

theorem reoffered_offered : Offered Sample.rules Sample.crypto
    {rec | rec ∈ [earlyOffer, earlyAcceptance, Sample.laterDecoy, Sample.offer, Sample.acceptance]}
    (blackView reoffered) .black where
  distinct := by decide +kernel
  keyed := reoffered_keyed
  valid := by decide +kernel
  normal := by decide +kernel
  inside := by decide +kernel
  status := blackView_status reoffered
  side := rfl
  playing := by decide +kernel
  live := by
    refine ⟨Sample.offer.id Sample.crypto, Sample.offer, 0, ?_, ?_, ?_⟩ <;> decide +kernel

/-- Black accepts the new offer. The earlier acceptance has the smaller id, so the new one
is dropped, and the game goes on. -/
theorem acceptance_dropped :
    Offered Sample.rules Sample.crypto
      {rec | rec ∈ [earlyOffer, earlyAcceptance, Sample.laterDecoy, Sample.offer, Sample.acceptance]}
      (blackView reoffered) .black ∧
    offerToAccept Sample.crypto (blackView reoffered) = some (Sample.offer.id Sample.crypto) ∧
    acceptance Sample.crypto Sample.blackKey (blackView reoffered) (Sample.offer.id Sample.crypto) =
      Sample.acceptance ∧
    ((Op.insertVerified Sample.acceptance).apply Sample.crypto Sample.params reoffered).records[
      Sample.acceptance.id Sample.crypto]? = none ∧
    (((Op.insertVerified Sample.acceptance).apply Sample.crypto Sample.params reoffered).project
      Sample.rules Sample.crypto Sample.params).decision = none := by
  refine ⟨reoffered_offered, ?_, ?_, ?_, ?_⟩ <;> decide +kernel

/-- There the acceptance counts exactly where no earlier one has a smaller id. -/
theorem acceptance_decides_iff_reoffered :
    ∃ offer, offerToAccept Sample.crypto (blackView reoffered) = some offer ∧
      ∀ op : Op, op.records = [acceptance Sample.crypto Sample.blackKey (blackView reoffered) offer] →
        acceptance Sample.crypto Sample.blackKey (blackView reoffered) offer ∈
          [earlyOffer, earlyAcceptance, Sample.laterDecoy, Sample.offer, Sample.acceptance] →
        (((op.apply Sample.crypto Sample.params reoffered).records[
              (acceptance Sample.crypto Sample.blackKey (blackView reoffered) offer).id Sample.crypto]? =
              some (acceptance Sample.crypto Sample.blackKey (blackView reoffered) offer) ∧
            ((op.apply Sample.crypto Sample.params reoffered).project
              Sample.rules Sample.crypto Sample.params).decision ≠ none) ↔
          ∀ id < (acceptance Sample.crypto Sample.blackKey (blackView reoffered) offer).id Sample.crypto,
            reoffered.groupAt id ≠
              some ⟨Sample.params.keyOf .black, .drawAccept, (blackView reoffered).status.ply⟩) := by
  obtain ⟨offer, found, -, decides⟩ := acceptance_decides_iff Sample.rules Sample.crypto
    {rec | rec ∈ [earlyOffer, earlyAcceptance, Sample.laterDecoy, Sample.offer, Sample.acceptance]}
    (blackView reoffered) .black Sample.blackKey (Sample.collisionFree_image _ _ (by decide +kernel))
    Sample.crypto_signs reoffered_offered rfl
  exact ⟨offer, found, decides⟩

end Adjourn.AcceptDraw
