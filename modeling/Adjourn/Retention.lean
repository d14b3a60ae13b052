import Adjourn.Network
import Adjourn.Resignation

/-! What a replica keeps while it is never replaced: the moves, of which a player states one
for each ply, and the resignations, which have no group. -/

namespace Adjourn.Retention
open Cbor OrderedMap TopK NormalForm GameState Contract StateSize Network

variable {setting : Setting} {Node : Type} {system system' early late : System Node} {rec : Record}
  {node : Node} {color : Color} {bytes result : Bytes}

/-- Any event, but for one at which the replica forgets what it has. -/
def Retains [DecidableEq Node] (setting : Setting) (node : Node) (system system' : System Node) : Prop :=
  ∃ event, (∀ state, event ≠ .adopt node state) ∧
    (∀ rec ∈ brings setting event, Vouched setting system rec) ∧ system' = react setting system event

def Holds (setting : Setting) (bytes : Bytes) (rec : Record) : Prop :=
  ∃ state rec', decodeState setting.crypto setting.reader bytes = .ok state ∧
    state.records[rec.id setting.crypto]? = some rec' ∧ rec'.signer = rec.signer ∧ rec'.body = rec.body

/-- Nobody has made another statement that counts for the same group. -/
def Alone (setting : Setting) (system : System Node) (rec : Record) : Prop :=
  ∀ group, groupOf rec = some group → ∀ rec' : Record, rec'.verify setting.crypto setting.params = true →
    Vouched setting system rec' → groupOf rec' = some group → rec'.id setting.crypto = rec.id setting.crypto

section Keeping
variable {crypto : Crypto} {params : GameParams} {records : Set Record} {offers : List Record}
  {state later : GameState}

/-- A record that shares its group with no other is not dropped. -/
theorem held_of_alone (free : crypto.CollisionFree (Record.idInput '' records))
    (inside : ∀ rec ∈ offers, rec ∈ records) (between : Between crypto params offers state)
    (member : rec ∈ offers) (valid : rec.verify crypto params = true)
    (alone : ∀ group, groupOf rec = some group → ∀ rec' ∈ offers, rec'.verify crypto params = true →
      groupOf rec' = some group → rec'.id crypto = rec.id crypto) :
    ∃ rec', state.records[rec.id crypto]? = some rec' ∧ rec'.signer = rec.signer ∧ rec'.body = rec.body := by
  refine between.exists_held free inside member ?_
  refine mem_cut_of_small (mem_offerIds.2 ⟨rec, member, valid, rfl⟩) fun group own => ?_
  have own : groupOf rec = some group := (groupIn_of_mem free inside member valid).symm.trans own
  have single : ∀ id ∈ {id ∈ offerIds crypto params offers | groupIn crypto params offers id = some group},
      id = rec.id crypto := by
    intro id rival
    obtain ⟨isOffered, group'⟩ := Finset.mem_filter.1 rival
    obtain ⟨rec', member', valid', rfl⟩ := mem_offerIds.1 isOffered
    rw [groupIn_of_mem free inside member' valid'] at group'
    exact alone group own rec' member' valid' group'
  calc _ ≤ 1 := Finset.card_le_one.2 fun a inA b inB => (single a inA).trans (single b inB).symm
    _ ≤ group.kind.k := by cases group.kind <;> decide

theorem walk_grows {rules : Rules} {stop : Option U16} (clean : later.doubleSigned params = none)
    (kept : ∀ (id : RecordId) (rec : Record) ply parent uci, state.records[id]? = some rec →
      rec.body = .move ply parent uci →
        ∃ rec', later.records[id]? = some rec' ∧ rec'.signer = rec.signer ∧ rec'.body = rec.body) :
    Relation.ReflTransGen (Stepping.Steps (walkStep rules later params none))
      (walk rules crypto state params stop) (walk rules crypto later params none) := by
  refine Stepping.run_extends (fun w w' taken => ?_) _ _
  obtain ⟨running, -, id, mv, unique, rfl⟩ := walkStep_eq_some.1 taken
  obtain ⟨rec, uci, parsed, held, body, signer, read, legal⟩ :=
    mem_candidates.1 (candidates_eq_singleton.1 unique).1
  obtain ⟨rec', held', signers, bodies⟩ := kept id rec _ _ _ held body
  have only := Takeback.candidates_of_single (fun color => doubleSigned_eq_none.1 clean color w.ply)
    (mem_candidates.2 ⟨rec', uci, parsed, held', bodies.trans body, signers.trans signer, read, legal⟩)
  exact walkStep_eq_some.2 ⟨running, by simp, id, mv, only, rfl⟩

end Keeping

theorem next_of_retains [DecidableEq Node] (retains : Retains setting node system system') :
    Next setting system system' := by
  obtain ⟨event, -, vouched, same⟩ := retains
  exact ⟨event, vouched, same⟩

theorem reaches_of_retains [DecidableEq Node] (goes : Relation.ReflTransGen (Retains setting node) early late) :
    Relation.ReflTransGen (Next setting) early late :=
  Relation.ReflTransGen.mono (fun _ _ retains => next_of_retains retains) _ _ goes

theorem retains_asks {Node : Type} [DecidableEq Node] (setting : Setting) (node : Node) (system : System Node)
    (color : Color) (calls : List Signing.Call) : Relation.ReflTransGen (Retains setting node) system
      { system with asked := Function.update system.asked color (system.asked color ++ calls) } := by
  induction calls using List.reverseRecOn with
  | nil =>
    rw [List.append_nil, Function.update_eq_self]
  | append_singleton calls call ih =>
    refine ih.tail ⟨.ask color call, by simp, by simp [brings], ?_⟩
    simp [react]

theorem Alone.mono (asked : ∀ color, early.asked color <+: late.asked color) (alone : Alone setting late rec) :
    Alone setting early rec :=
  fun group own rec' valid vouched => alone group own rec' valid (vouched.mono asked)

theorem alone_of_move {ply : U16} {parent : RecordId} {uci : String} (sealed : setting.secrets.RoundTrips)
    (bodies : ∀ color, setting.crypto.CollisionFree
      (bodyHashInput '' {body | ∃ call ∈ system.asked color, ∃ gameId, call.request = .sign gameId body}))
    (valid : rec.verify setting.crypto setting.params = true) (vouched : Vouched setting system rec)
    (is : rec.body = .move ply parent uci) : Alone setting system rec := by
  intro group own rec' valid' vouched' own'
  obtain rfl : group = ⟨rec.signer, .move, ply⟩ :=
    Option.some.inj (own.symm.trans (groupOf_eq_move.2 ⟨parent, uci, is, rfl⟩))
  obtain ⟨parent', uci', is', signers⟩ := groupOf_eq_move.1 own'
  obtain ⟨color, owner⟩ := Option.isSome_iff_exists.1 ((Record.verify_iff _ _ _).1 valid).1
  have owner' : rec'.color setting.params = some color := by
    rw [Record.color, signers]
    exact owner
  refine Record.id_congr _ signers ?_
  exact body_of_stated sealed bodies (vouched' valid' color owner') (vouched valid color owner) is' is

theorem alone_of_resign (resigns : rec.body = .resign) : Alone setting system rec := by
  intro group own
  rw [groupOf, resigns] at own
  cases own

section Accepting
variable {crypto : Crypto} {reader : Reader} {params : GameParams} {start game : GameState} {update : UpdateData}

theorem verify_of_applyUpdate (accepted : applyUpdate crypto reader params start update = .ok game) :
    ∀ rec ∈ carried crypto reader update, rec.verify crypto params = true := by
  have whole : ∀ {bytes : Bytes} {start game : GameState},
      updateWithState crypto reader params start bytes = .ok game → ∀ rec ∈ recordsOf crypto reader bytes,
        rec.verify crypto params = true := by
    intro bytes start game accepted rec member
    obtain ⟨incoming, decodes, valid, -⟩ := updateWithState_eq_ok.1 accepted
    rw [recordsOf, decodes] at member
    obtain ⟨id, held⟩ := mem_valuesOf.1 member
    exact allValid_iff.1 valid id rec held
  have part : ∀ {bytes : Bytes} {start game : GameState},
      updateWithDelta crypto reader params start bytes = .ok game → ∀ rec ∈ deltaOf reader bytes,
        rec.verify crypto params = true := by
    intro bytes start game accepted rec member
    rcases updateWithDelta_eq_ok.1 accepted with ⟨nothing, -⟩ | ⟨sent, delta, decodes, valid, -⟩
    · rw [deltaOf, if_pos nothing] at member
      cases member
    · rw [deltaOf, sent, decodes] at member
      exact List.all_eq_true.1 valid rec member
  cases update with
  | state bytes => exact whole accepted
  | delta bytes => exact part accepted
  | stateAndDelta bytes bytes' =>
    obtain ⟨half, first, second⟩ := applyUpdate_stateAndDelta.1 accepted
    exact List.forall_mem_append.2 ⟨whole first, part second⟩
  | _ => exact fun rec member => by cases member

theorem verify_of_foldlM {data : List UpdateData}
    (accepted : data.foldlM (applyUpdate crypto reader params) start = .ok game) :
    ∀ rec ∈ data.flatMap (carried crypto reader), rec.verify crypto params = true := by
  induction data generalizing start with
  | nil => exact fun rec member => by cases member
  | cons update rest ih =>
    obtain ⟨middle, first, accepted⟩ := foldlM_cons_eq_ok.1 accepted
    rw [List.flatMap_cons]
    exact List.forall_mem_append.2 ⟨verify_of_applyUpdate first, ih accepted⟩

end Accepting

section Replicas
variable (reads : setting.reader.RoundTrips)
include reads

theorem between_updateState {data : List UpdateData} (genuine : Genuine setting system bytes)
    (brought : ∀ rec ∈ data.flatMap (carried setting.crypto setting.reader), Vouched setting system rec)
    (free : setting.crypto.CollisionFree (Record.idInput '' {rec | ∃ color, Stated setting system color rec}))
    (accepted : updateState setting.crypto setting.reader setting.params.encode bytes data = .ok result) :
    ∃ base game, decodeState setting.crypto setting.reader bytes = .ok base ∧
      decodeState setting.crypto setting.reader result = .ok game ∧
      Between setting.crypto setting.params
        (valuesOf base.records ++ data.flatMap (carried setting.crypto setting.reader)) game ∧
      ∀ rec ∈ valuesOf base.records ++ data.flatMap (carried setting.crypto setting.reader),
        rec.verify setting.crypto setting.params = true ∧ Vouched setting system rec ∧
          ∃ color, Stated setting system color rec := by
  obtain ⟨base, decodes, holds⟩ := genuine
  obtain ⟨params, base', game, read, decodes', folded, rfl⟩ := updateState_eq_ok accepted
  obtain rfl : setting.params = params := Except.ok.inj ((decodeParams_encode reads _).symm.trans read)
  obtain rfl : base = base' := Except.ok.inj (decodes.symm.trans decodes')
  have verified : ∀ rec ∈ valuesOf base.records ++ data.flatMap (carried setting.crypto setting.reader),
      rec.verify setting.crypto setting.params = true ∧ Vouched setting system rec := by
    intro rec member
    rcases List.mem_append.1 member with old | new
    · obtain ⟨id, held⟩ := mem_valuesOf.1 old
      exact (holds id rec held).2
    · exact ⟨verify_of_foldlM folded rec new, brought rec new⟩
  have stated : ∀ rec ∈ valuesOf base.records ++ data.flatMap (carried setting.crypto setting.reader),
      ∃ color, Stated setting system color rec := by
    intro rec member
    obtain ⟨valid, vouched⟩ := verified rec member
    obtain ⟨color, owner⟩ := Option.isSome_iff_exists.1 ((Record.verify_iff _ _ _).1 valid).1
    exact ⟨color, vouched valid color owner⟩
  have before : Represents setting.crypto setting.params (valuesOf base.records)
      (base.filterValid setting.crypto setting.params) :=
    Convergence.represents_filterValid free fun rec member => stated rec (List.mem_append_left _ member)
  have represents := represents_applyUpdates free stated before folded
  refine ⟨base, game, decodes, decodeState_encode reads represents.keyed, represents.between,
    fun rec member => ?_⟩
  obtain ⟨valid, vouched⟩ := verified rec member
  exact ⟨valid, vouched, stated rec member⟩

theorem holds_updateState {data : List UpdateData} (genuine : Genuine setting system bytes)
    (brought : ∀ rec ∈ data.flatMap (carried setting.crypto setting.reader), Vouched setting system rec)
    (free : setting.crypto.CollisionFree (Record.idInput '' {rec | ∃ color, Stated setting system color rec}))
    (accepted : updateState setting.crypto setting.reader setting.params.encode bytes data = .ok result)
    (alone : Alone setting system rec)
    (known : Holds setting bytes rec ∨ rec ∈ data.flatMap (carried setting.crypto setting.reader)) :
    Holds setting result rec := by
  obtain ⟨base, game, decodes, decodes', between, stated⟩ :=
    between_updateState reads genuine brought free accepted
  obtain ⟨rec', member, signers, bodies⟩ : ∃ rec' ∈ valuesOf base.records ++
      data.flatMap (carried setting.crypto setting.reader), rec'.signer = rec.signer ∧ rec'.body = rec.body := by
    rcases known with ⟨base', rec', decodes'', held, same⟩ | new
    · obtain rfl : base = base' := Except.ok.inj (decodes.symm.trans decodes'')
      exact ⟨rec', List.mem_append_left _ (mem_valuesOf.2 ⟨_, held⟩), same⟩
    · exact ⟨rec, List.mem_append_right _ new, rfl, rfl⟩
  have ids : rec'.id setting.crypto = rec.id setting.crypto := Record.id_congr _ signers bodies
  have group : groupOf rec' = groupOf rec := by rw [groupOf, groupOf, signers, bodies]
  obtain ⟨kept, held, signers', bodies'⟩ := held_of_alone free (fun rec member => (stated rec member).2.2) between
    member (stated rec' member).1 fun group' own other member' valid own' => by
      rw [ids]
      exact alone group' (group.symm.trans own) other valid (stated other member').2.1 own'
  rw [ids] at held
  exact ⟨game, kept, decodes', held, signers'.trans signers, bodies'.trans bodies⟩

variable [DecidableEq Node]

theorem stored_of_retains (genuine : ∀ node, Genuine setting system (system.stored node))
    (retains : Retains setting node system system') :
    system'.stored node = system.stored node ∨ ∃ data,
      updateState setting.crypto setting.reader setting.params.encode (system.stored node) data =
        .ok (system'.stored node) ∧
      ∀ rec ∈ data.flatMap (carried setting.crypto setting.reader), Vouched setting system rec := by
  obtain ⟨event, remembers, vouched, rfl⟩ := retains
  have elsewhere : ∀ {node' : Node} {result : Except ContractError Bytes}, node' ≠ node →
      (system.keep node' result).stored node = system.stored node := by
    intro node' result other
    cases result with
    | ok bytes => exact Function.update_of_ne (Ne.symm other) ..
    | error fault => rfl
  have here : ∀ {bytes : Bytes}, (system.keep node (.ok bytes)).stored node = bytes := Function.update_self ..
  cases event with
  | ask color call => exact .inl rfl
  | update node' data =>
    rw [react]
    by_cases same : node' = node
    · subst same
      cases outcome : updateState setting.crypto setting.reader setting.params.encode (system.stored node') data with
      | ok bytes => exact .inr ⟨data, by rw [here, outcome], by simpa [brings] using vouched⟩
      | error fault => exact .inl rfl
    · exact .inl (elsewhere same)
  | pull node' peer =>
    rw [react]
    by_cases same : node' = node
    · subst same
      cases outcome : Sync.pull setting.crypto setting.reader setting.params.encode (system.stored node')
          (system.stored peer) with
      | ok bytes =>
        obtain ⟨data, accepted, offered⟩ := updates_of_pull reads (genuine node') (genuine peer) outcome
        exact .inr ⟨data, by rw [here, accepted], offered⟩
      | error fault => exact .inl rfl
    · exact .inl (elsewhere same)
  | adopt node' state =>
    have same : node' ≠ node := by
      intro same
      exact remembers state (by rw [same])
    rw [react]
    split
    · exact .inl (elsewhere same)
    · exact .inl rfl

theorem holds_next (genuine : ∀ node, Genuine setting system (system.stored node))
    (free : setting.crypto.CollisionFree (Record.idInput '' {rec | ∃ color, Stated setting system color rec}))
    (alone : Alone setting system rec) (retains : Retains setting node system system')
    (holds : Holds setting (system.stored node) rec) : Holds setting (system'.stored node) rec := by
  rcases stored_of_retains reads genuine retains with same | ⟨data, accepted, vouched⟩
  · rwa [same]
  · exact holds_updateState reads (genuine node) vouched free accepted alone (.inl holds)

theorem holds_reaches (starts : Relation.ReflTransGen (Next setting) (System.start Node) early)
    (goes : Relation.ReflTransGen (Retains setting node) early late)
    (free : setting.crypto.CollisionFree (Record.idInput '' {rec | ∃ color, Stated setting late color rec}))
    (alone : Alone setting late rec) (holds : Holds setting (early.stored node) rec) :
    Holds setting (late.stored node) rec := by
  induction goes with
  | refl => exact holds
  | @tail middle late before retains ih =>
    have asked := asked_grows (next_of_retains retains)
    have free' := free_mono asked free
    have alone' : Alone setting middle rec := alone.mono asked
    have genuine : ∀ node, Genuine setting middle (middle.stored node) :=
      genuine_reaches reads (starts.trans (reaches_of_retains before))
    exact holds_next reads genuine free' alone' retains (ih free' alone')

end Replicas

section Games
variable {rules : Rules} {state : GameState}

theorem resignation_of_held {id : RecordId} (clean : state.doubleSigned setting.params = none)
    (held : state.records[id]? = some rec) (resigns : rec.body = .resign)
    (owner : rec.color setting.params = some color) :
    (state.project rules setting.crypto setting.params).decision = some ⟨some color.other, .resignation⟩ ∨
      (state.project rules setting.crypto setting.params).decision = some ⟨none, .mutualResignation⟩ := by
  rcases Resignation.decision_cases rules setting.crypto (Resignation.resignedBy_of_held held resigns owner) with
    ⟨fraud, found, -⟩ | drawn | lost
  · rw [clean] at found
    cases found
  · exact .inr drawn
  · exact .inl lost

end Games

section Showing
variable [DecidableEq Node] (reads : setting.reader.RoundTrips) (sealed : setting.secrets.RoundTrips)
  (starts : Relation.ReflTransGen (Next setting) (System.start Node) early)
  (goes : Relation.ReflTransGen (Retains setting node) early late)
  (bodies : ∀ color, setting.crypto.CollisionFree
    (bodyHashInput '' {body | ∃ call ∈ late.asked color, ∃ gameId, call.request = .sign gameId body}))
  (free : setting.crypto.CollisionFree (Record.idInput '' {rec | ∃ color, Stated setting late color rec}))
include reads sealed starts goes bodies free

/-- The replica before and after: the records of moves and resignations are still there, and
the later walk goes through all of the earlier one. -/
theorem grown_of_retains : ∃ state later,
    decodeState setting.crypto setting.reader (early.stored node) = .ok state ∧
    decodeState setting.crypto setting.reader (late.stored node) = .ok later ∧
    state.allValid setting.crypto setting.params = true ∧ later.allValid setting.crypto setting.params = true ∧
    state.doubleSigned setting.params = none ∧ later.doubleSigned setting.params = none ∧
    (∀ (id : RecordId) (rec : Record), state.records[id]? = some rec →
      (rec.body = .resign ∨ ∃ ply parent uci, rec.body = .move ply parent uci) →
        ∃ rec', later.records[id]? = some rec' ∧ rec'.signer = rec.signer ∧ rec'.body = rec.body) ∧
    ∀ stop, Relation.ReflTransGen (Stepping.Steps (walkStep setting.rules later setting.params none))
      (walk setting.rules setting.crypto state setting.params stop)
      (walk setting.rules setting.crypto later setting.params none) := by
  have asked := asked_reaches (reaches_of_retains goes)
  obtain ⟨state, decodes, -, keyed, valid, vouched⟩ :=
    ((genuine_reaches reads starts node).mono asked).shown_eq
  obtain ⟨later, decodes', -, keyed', valid', vouched'⟩ :=
    (genuine_reaches reads (starts.trans (reaches_of_retains goes)) node).shown_eq
  have kept : ∀ (id : RecordId) (rec : Record), state.records[id]? = some rec →
      (rec.body = .resign ∨ ∃ ply parent uci, rec.body = .move ply parent uci) →
        ∃ rec', later.records[id]? = some rec' ∧ rec'.signer = rec.signer ∧ rec'.body = rec.body := by
    intro id rec held kind
    obtain rfl := keyed id rec held
    have ours := (vouched rec (mem_valuesOf.2 ⟨_, held⟩)).1
    have alone : Alone setting late rec := by
      rcases kind with resigns | ⟨ply, parent, uci, is⟩
      · exact alone_of_resign resigns
      · exact alone_of_move sealed bodies (allValid_iff.1 valid _ rec held) ours is
    obtain ⟨later', rec', decodes'', held', same⟩ :=
      holds_reaches reads starts goes free alone ⟨state, rec, decodes, held, rfl, rfl⟩
    obtain rfl : later = later' := Except.ok.inj (decodes'.symm.trans decodes'')
    exact ⟨rec', held', same⟩
  have clean := honest_of_vouched sealed bodies free keyed' valid' vouched'
  refine ⟨state, later, decodes, decodes', valid, valid', honest_of_vouched sealed bodies free keyed valid vouched,
    clean, kept, fun stop => ?_⟩
  exact walk_grows clean fun id rec ply parent uci held body => kept id rec held (.inr ⟨ply, parent, uci, body⟩)

theorem shown_of_retains : ∃ status status', shown setting early node = .ok status ∧
    shown setting late node = .ok status' ∧ status.chain <+: status'.chain := by
  obtain ⟨state, later, decodes, decodes', -, -, honest, clean, -, grows⟩ :=
    grown_of_retains reads sealed starts goes bodies free
  refine ⟨state.project setting.rules setting.crypto setting.params,
    later.project setting.rules setting.crypto setting.params, ?_, ?_, ?_⟩
  · rw [shown, decodes]
    rfl
  · rw [shown, decodes']
    rfl
  · simp only [project, honest, clean]
    exact chain_of_reaches (grows none)

end Showing

/-- Nothing is taken back at a replica that is not replaced, whatever reaches it and whatever
is asked of the delegates: the game that it shows is continued by every later one, and whoever
has resigned there has lost, unless both have resigned. -/
theorem replica_takes_nothing_back [DecidableEq Node] (setting : Setting) (early late : System Node) (node : Node)
    (reads : setting.reader.RoundTrips) (sealed : setting.secrets.RoundTrips)
    (starts : Relation.ReflTransGen (Next setting) (System.start Node) early)
    (goes : Relation.ReflTransGen (Retains setting node) early late)
    (bodies : ∀ color, setting.crypto.CollisionFree
      (bodyHashInput '' {body | ∃ call ∈ late.asked color, ∃ gameId, call.request = .sign gameId body}))
    (free : setting.crypto.CollisionFree (Record.idInput '' {rec | ∃ color, Stated setting late color rec})) :
    ∃ status status', shown setting early node = .ok status ∧ shown setting late node = .ok status' ∧
      status.chain <+: status'.chain ∧
      ∀ rec ∈ recordsOf setting.crypto setting.reader (early.stored node), rec.body = .resign →
        ∀ color, rec.color setting.params = some color →
          status'.decision = some ⟨some color.other, .resignation⟩ ∨
            status'.decision = some ⟨none, .mutualResignation⟩ := by
  obtain ⟨state, later, decodes, decodes', -, -, honest, clean, kept, grows⟩ :=
    grown_of_retains reads sealed starts goes bodies free
  have shows : shown setting early node = .ok (state.project setting.rules setting.crypto setting.params) := by
    rw [shown, decodes]
    rfl
  have shows' : shown setting late node = .ok (later.project setting.rules setting.crypto setting.params) := by
    rw [shown, decodes']
    rfl
  refine ⟨_, _, shows, shows', ?_, fun rec member resigns color owner => ?_⟩
  · simp only [project, honest, clean]
    exact chain_of_reaches (grows none)
  · rw [recordsOf, decodes] at member
    obtain ⟨id, held⟩ := mem_valuesOf.1 member
    obtain ⟨rec', held', signers, same⟩ := kept id rec held (.inl resigns)
    exact resignation_of_held clean held' (same.trans resigns) (by rw [Record.color, signers]; exact owner)

section Sample
open Delegate Signing StateSize

variable {rules : Rules} {before after records : List Record} {base : GameState} {bytes : Bytes} {color : Color}

def pairParams : GameParams := { sampleParams with black := sampleAccepter }

noncomputable def pairSetting (rules : Rules) : Setting :=
  { sampleSetting with
    rules := rules
    params := pairParams }

def pairLabel (color : Color) : String := if color = .white then "white" else "black"

def saidBy (color : Color) (records : List Record) : List Body :=
  (records.filter fun rec => rec.color pairParams = some color).map Record.body

/-- Each delegate has been asked for its player's records, and a replica stores the bytes. -/
def pairSystem (records : List Record) (bytes : Bytes) : System Bool where
  asked color := Seating.calls Sample.crypto sampleHost none (pairLabel color) (some Sample.whiteKey) pairParams zeros
    (saidBy color records)
  stored := Function.update (fun _ => []) true bytes

/-- The players' statements in an order in which both delegates sign them. -/
structure Spoken (records : List Record) : Prop where
  valid : ∀ rec ∈ records, rec.verify Sample.crypto pairParams = true
  ordered : ∀ color, Seating.inOrder color 0 (saidBy color records) = true

theorem eq_sign_of_verify {rec : Record} (valid : rec.verify Sample.crypto pairParams = true) :
    rec = Record.sign Sample.crypto rec.signer pairParams rec.body := by
  obtain ⟨-, -, -, checks⟩ := (Record.verify_iff _ _ _).1 valid
  have sig : rec.sig = (Sample.sign rec.signer (signingPayload (pairParams.gameId Sample.crypto) rec.body)).val :=
    of_decide_eq_true checks
  obtain ⟨signer, body, bytes⟩ := rec
  exact congrArg (Record.mk signer body) sig

theorem pair_released (spoken : Spoken records) (color : Color) :
    (session (pairSetting rules) (pairSystem records bytes) color).released =
      (records.filter fun rec => rec.color pairParams = some color).map fun rec =>
        (gameId (pairSetting rules), rec) := by
  have signs : ∀ (label : String) (seed : Bytes32), deriveSeed Sample.crypto (classifyHostEntropy zeros zeros)
      (some Sample.whiteKey) label = .ok (seed, .degraded) → pairParams.colorOf seed = some color →
      (serve rules Sample.crypto Reader.exact SecretReader.exact (Seating.calls Sample.crypto sampleHost none label
        (some Sample.whiteKey) pairParams zeros (saidBy color records))).released =
        (records.filter fun rec => rec.color pairParams = some color).map fun rec =>
          (gameId (pairSetting rules), rec) := by
    intro label seed derives player
    rw [Seating.released_of_inOrder rules Reader.exact SecretReader.exact_roundTrips (fun _ => rfl) rfl derives player
      _ (spoken.ordered color), saidBy, List.map_map]
    refine List.map_congr_left fun rec member => ?_
    obtain ⟨member, owner⟩ := List.mem_filter.1 member
    have mine : rec.signer = seed := by
      have owner : pairParams.colorOf rec.signer = some color := of_decide_eq_true owner
      exact (GameParams.keyOf_of_colorOf owner).symm.trans (GameParams.keyOf_of_colorOf player)
    have made := eq_sign_of_verify (spoken.valid rec member)
    rw [mine] at made
    exact congrArg _ made.symm
  cases color with
  | white => exact signs "white" samplePlayer samplePlayer_derived (by decide +kernel)
  | black => exact signs "black" sampleAccepter sampleAccepter_derived (by decide +kernel)

theorem pair_stated (spoken : Spoken records) {rec : Record} :
    Stated (pairSetting rules) (pairSystem records bytes) color rec ↔
      ∃ rec' ∈ records, rec'.color pairParams = some color ∧ rec'.signer = rec.signer ∧ rec'.body = rec.body := by
  unfold Stated
  rw [pair_released spoken]
  simp [and_assoc]

theorem pair_bodies (distinct : ∀ x ∈ records.map fun rec => bodyHashInput rec.body,
      ∀ y ∈ records.map fun rec => bodyHashInput rec.body, Sample.hash x = Sample.hash y → x = y) (color : Color) :
    Sample.crypto.CollisionFree (bodyHashInput '' {body | ∃ call ∈ (pairSystem records bytes).asked color, ∃ gameId,
      call.request = .sign gameId body}) := by
  refine Sample.collisionFree_of_list _ _ ?_ distinct
  intro input said
  obtain ⟨body, ⟨call, member, gameId, request⟩, rfl⟩ := said
  simp only [pairSystem, Seating.calls, List.cons_append, List.nil_append, List.mem_cons, List.mem_map] at member
  rcases member with rfl | rfl | ⟨said, member, rfl⟩
  · cases request
  · cases request
  · obtain ⟨-, rfl⟩ := Request.sign.inj request
    obtain ⟨rec, own, rfl⟩ := List.mem_map.1 member
    exact List.mem_map.2 ⟨rec, (List.mem_filter.1 own).1, rfl⟩

theorem pair_statements (spoken : Spoken records) (distinct : ∀ x ∈ records.map Record.idInput,
      ∀ y ∈ records.map Record.idInput, Sample.hash x = Sample.hash y → x = y) :
    Sample.crypto.CollisionFree (Record.idInput ''
      {rec | ∃ color, Stated (pairSetting rules) (pairSystem records bytes) color rec}) := by
  refine Sample.collisionFree_of_list _ _ ?_ distinct
  intro input said
  obtain ⟨rec, ⟨color, stated⟩, rfl⟩ := said
  obtain ⟨rec', member, -, signer, body⟩ := (pair_stated spoken).1 stated
  refine List.mem_map.2 ⟨rec', member, ?_⟩
  rw [Record.idInput, Record.idInput, signer, body]

def pairHeard (base : GameState) (records : List Record) : GameState :=
  (base.filterValid Sample.crypto pairParams).applyDelta Sample.crypto pairParams records

theorem pair_goes (rules : Rules) (spoken : Spoken (before ++ after))
    (decodes : decodeState Sample.crypto Reader.exact bytes = .ok base) :
    Relation.ReflTransGen (Retains (pairSetting rules) true) (pairSystem before bytes)
      (pairSystem (before ++ after) (pairHeard base after).encode) := by
  have grown : ∀ color, (pairSystem before bytes).asked color ++
      (saidBy color after).map (Seating.signCall sampleHost none (pairParams.gameId Sample.crypto)) =
        (pairSystem (before ++ after) bytes).asked color := by
    intro color
    simp [pairSystem, Seating.calls, saidBy]
  have first := retains_asks (pairSetting rules) true (pairSystem before bytes) .white
    ((saidBy .white after).map (Seating.signCall sampleHost none (pairParams.gameId Sample.crypto)))
  have second := first.trans (retains_asks (pairSetting rules) true _ .black
    ((saidBy .black after).map (Seating.signCall sampleHost none (pairParams.gameId Sample.crypto))))
  have asked : Relation.ReflTransGen (Retains (pairSetting rules) true) (pairSystem before bytes)
      (pairSystem (before ++ after) bytes) := by
    convert second using 1
    refine congrArg₂ System.mk (funext fun color => ?_) rfl
    cases color with
    | white => exact (grown .white).symm
    | black => exact (grown .black).symm
  refine asked.tail ⟨.update true [.delta (encodeRecords after)], by simp, ?_, ?_⟩
  · intro rec member
    have carries : deltaOf Reader.exact (encodeRecords after) = after :=
      deltaOf_encodeRecords Reader.exact_roundTrips after
    rw [brings, List.flatMap_singleton, carried] at member
    have heard : rec ∈ after := carries ▸ member
    exact fun _ color owner =>
      (pair_stated spoken).2 ⟨rec, List.mem_append_right _ heard, owner, rfl, rfl⟩
  · have taken : updateState Sample.crypto Reader.exact pairParams.encode bytes [.delta (encodeRecords after)] =
        .ok (pairHeard base after).encode :=
      Batches.updateState_verified Reader.exact_roundTrips decodes fun rec member =>
        spoken.valid rec (List.mem_append_right _ member)
    have stored : updateState (pairSetting rules).crypto (pairSetting rules).reader (pairSetting rules).params.encode
        ((pairSystem (before ++ after) bytes).stored true) [.delta (encodeRecords after)] =
          .ok (pairHeard base after).encode := taken
    rw [react, stored, System.keep]
    refine congrArg (System.mk _) ?_
    simp [pairSystem]

theorem pair_starts (rules : Rules) (spoken : Spoken records) :
    Relation.ReflTransGen (Retains (pairSetting rules) true) (System.start Bool)
      (pairSystem records (pairHeard .empty records).encode) := by
  have first := retains_asks (pairSetting rules) true (System.start Bool) .white ((pairSystem [] []).asked .white)
  have second := first.trans (retains_asks (pairSetting rules) true _ .black ((pairSystem [] []).asked .black))
  have opens : Relation.ReflTransGen (Retains (pairSetting rules) true) (System.start Bool) (pairSystem [] []) := by
    convert second using 1
    refine congrArg₂ System.mk (funext fun color => ?_) ?_
    · cases color <;> rfl
    · exact Function.update_eq_self true _
  exact opens.trans (@pair_goes [] records .empty [] rules spoken rfl)

theorem pairHeard_keyed (base : GameState) (records : List Record) : (pairHeard base records).Keyed Sample.crypto :=
  Batches.keyed_verified _ _ _ _

theorem pair_decodes (rules : Rules) (records : List Record) (keyed : base.Keyed Sample.crypto) :
    decodeState (pairSetting rules).crypto (pairSetting rules).reader
      ((pairSystem records base.encode).stored true) = .ok base := by
  have stored : (pairSystem records base.encode).stored true = base.encode := by simp [pairSystem]
  rw [stored]
  exact decodeState_encode Reader.exact_roundTrips keyed

theorem pair_shown (rules : Rules) (records : List Record) (keyed : base.Keyed Sample.crypto) :
    shown (pairSetting rules) (pairSystem records base.encode) true =
      .ok (base.project rules Sample.crypto pairParams) := by
  unfold shown
  rw [pair_decodes rules records keyed]
  rfl

def surrender : List Record :=
  Sample.played pairParams 1 (pairParams.genesis Sample.crypto) ["e2e4"] ++
    [Record.sign Sample.crypto sampleAccepter pairParams .resign]

def answer : List Record := (Sample.played pairParams 1 (pairParams.genesis Sample.crypto) ["e2e4", "e7e5"]).drop 1

theorem surrender_spoken : Spoken surrender where
  valid := by decide +kernel
  ordered color := by cases color <;> decide +kernel

theorem answer_spoken : Spoken (surrender ++ answer) where
  valid := by decide +kernel
  ordered color := by cases color <;> decide +kernel

/-- White's move and Black's resignation are there, and Black's move arrives. -/
theorem replica_takes_nothing_back_resigned : ∃ status status',
    shown (pairSetting Sample.rules) (pairSystem surrender (pairHeard .empty surrender).encode) true = .ok status ∧
    status.chain.length = 1 ∧
    shown (pairSetting Sample.rules) (pairSystem (surrender ++ answer)
      (pairHeard (pairHeard .empty surrender) answer).encode) true = .ok status' ∧
    status.chain <+: status'.chain ∧
    (status'.decision = some ⟨some .white, .resignation⟩ ∨ status'.decision = some ⟨none, .mutualResignation⟩) := by
  have keyed := pairHeard_keyed .empty surrender
  obtain ⟨status, status', shows, shows', grown, resigned⟩ := replica_takes_nothing_back (pairSetting Sample.rules)
    (pairSystem surrender (pairHeard .empty surrender).encode) (pairSystem (surrender ++ answer)
      (pairHeard (pairHeard .empty surrender) answer).encode) true Reader.exact_roundTrips
    SecretReader.exact_roundTrips (reaches_of_retains (pair_starts Sample.rules surrender_spoken))
    (pair_goes Sample.rules answer_spoken (decodeState_encode Reader.exact_roundTrips keyed))
    (pair_bodies (by decide +kernel)) (pair_statements answer_spoken (by decide +kernel))
  have early : (pairHeard .empty surrender).project Sample.rules Sample.crypto pairParams = status :=
    Except.ok.inj ((pair_shown Sample.rules surrender keyed).symm.trans shows)
  refine ⟨status, status', shows, ?_, shows', grown, ?_⟩
  · rw [← early]
    decide +kernel
  · refine resigned (Record.sign Sample.crypto sampleAccepter pairParams .resign) ?_ rfl .black (by decide +kernel)
    rw [recordsOf, pair_decodes Sample.rules surrender keyed]
    decide +kernel

end Sample

end Adjourn.Retention
