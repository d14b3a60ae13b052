import Adjourn.Batches
import Adjourn.InSync
import Adjourn.Seating
import Adjourn.Takeback

/-! One game as a system: the two delegates, which answer whoever asks, and the replicas of
the contract, which take whatever is sent to them. -/

namespace Adjourn.Network
open Cbor OrderedMap NormalForm GameState Contract Delegate Signing StateSize

/-- What the parties of a game share. -/
structure Setting where
  rules : Rules
  crypto : Crypto
  reader : Reader
  secrets : SecretReader
  params : GameParams

/-- The requests that each delegate has served, and the bytes that each replica stores. -/
structure System (Node : Type) where
  asked : Color → List Signing.Call
  stored : Node → Bytes

inductive Event (Node : Type) where
  | ask (color : Color) (call : Signing.Call)
  | update (node : Node) (data : List UpdateData)
  /-- A replica catches up with a peer. -/
  | pull (node peer : Node)
  /-- A replica forgets what it has, and takes a state that it validates. -/
  | adopt (node : Node) (state : Bytes)

def System.start (Node : Type) : System Node := ⟨fun _ => [], fun _ => []⟩

section Steps
variable (setting : Setting) {Node : Type}

def gameId : GameId := setting.params.gameId setting.crypto

/-- What a delegate has been asked for is all that its answers depend on. -/
def session (system : System Node) (color : Color) : Session :=
  serve setting.rules setting.crypto setting.reader setting.secrets (system.asked color)

def System.keep [DecidableEq Node] (system : System Node) (node : Node) : Except ContractError Bytes → System Node
  | .ok bytes => { system with stored := Function.update system.stored node bytes }
  | .error _ => system

def react [DecidableEq Node] (system : System Node) : Event Node → System Node
  | .ask color call =>
    { system with asked := Function.update system.asked color (system.asked color ++ [call]) }
  | .update node data => system.keep node
      (updateState setting.crypto setting.reader setting.params.encode (system.stored node) data)
  | .pull node peer => system.keep node
      (Sync.pull setting.crypto setting.reader setting.params.encode (system.stored node) (system.stored peer))
  | .adopt node state =>
    match validateState setting.crypto setting.reader setting.params.encode state with
    | .ok .valid => system.keep node (.ok state)
    | _ => system

def brings : Event Node → List Record
  | .update _ data => data.flatMap (carried setting.crypto setting.reader)
  | .adopt _ state => recordsOf setting.crypto setting.reader state
  | .ask _ _ | .pull _ _ => []

/-- A player has made the statement: the player's delegate has signed it for this game. -/
def Stated (system : System Node) (color : Color) (rec : Record) : Prop :=
  ∃ rec' : Record, (gameId setting, rec') ∈ (session setting system color).released ∧
    rec'.signer = rec.signer ∧ rec'.body = rec.body

/-- Nobody forges: what verifies under a player's key says what the player has stated. -/
def Vouched (system : System Node) (rec : Record) : Prop :=
  rec.verify setting.crypto setting.params = true → ∀ color, rec.color setting.params = some color →
    Stated setting system color rec

def Next [DecidableEq Node] (system system' : System Node) : Prop :=
  ∃ event, (∀ rec ∈ brings setting event, Vouched setting system rec) ∧ system' = react setting system event

def shown (system : System Node) (node : Node) : Except ContractError Status := do
  let state ← decodeState setting.crypto setting.reader (system.stored node)
  return state.project setting.rules setting.crypto setting.params

end Steps

variable {setting : Setting} {Node : Type} {system system' early late : System Node}
  {state other : GameState} {rec : Record} {color : Color} {node peer : Node} {bytes : Bytes} {event : Event Node}

/-- All that a replica stores is verified, and stated by its player. -/
def Genuine (setting : Setting) (system : System Node) (bytes : Bytes) : Prop :=
  ∃ state, decodeState setting.crypto setting.reader bytes = .ok state ∧
    state.Holds setting.crypto fun rec =>
      rec.verify setting.crypto setting.params = true ∧ Vouched setting system rec

theorem Stated.mono (asked : early.asked color <+: late.asked color) (stated : Stated setting early color rec) :
    Stated setting late color rec := by
  obtain ⟨rest, asked⟩ := asked
  obtain ⟨rec', member, same⟩ := stated
  refine ⟨rec', ?_, same⟩
  rw [session, ← asked]
  exact (Provenance.released_grows _ rest).subset member

theorem Vouched.mono (asked : ∀ color, early.asked color <+: late.asked color)
    (vouched : Vouched setting early rec) : Vouched setting late rec :=
  fun valid color owner => (vouched valid color owner).mono (asked color)

theorem free_mono (asked : ∀ color, early.asked color <+: late.asked color)
    (free : setting.crypto.CollisionFree (Record.idInput '' {rec | ∃ color, Stated setting late color rec})) :
    setting.crypto.CollisionFree (Record.idInput '' {rec | ∃ color, Stated setting early color rec}) := by
  refine free.mono (Set.image_mono fun rec said => ?_)
  obtain ⟨color, stated⟩ := said
  exact ⟨color, stated.mono (asked color)⟩

theorem Genuine.mono (asked : ∀ color, early.asked color <+: late.asked color)
    (genuine : Genuine setting early bytes) : Genuine setting late bytes := by
  obtain ⟨state, decodes, holds⟩ := genuine
  refine ⟨state, decodes, fun id rec held => ?_⟩
  obtain ⟨own, valid, vouched⟩ := holds id rec held
  exact ⟨own, valid, vouched.mono asked⟩

theorem genuine_nil : Genuine setting system [] :=
  ⟨.empty, rfl, fun id rec held => by simp [GameState.empty] at held⟩

section Updates
variable {crypto : Crypto} {reader : Reader} {params : GameParams} {property : Record → Prop}
  {start game : GameState}

theorem holds_updateWithState (holds : start.Holds crypto property)
    (accepted : updateWithState crypto reader params start bytes = .ok game)
    (brought : ∀ rec ∈ recordsOf crypto reader bytes, rec.verify crypto params = true → property rec) :
    game.Holds crypto property := by
  obtain ⟨incoming, decodes, -, rfl⟩ := updateWithState_eq_ok.1 accepted
  rw [recordsOf, decodes] at brought
  have merged : (run crypto params start [.merge incoming]).Holds crypto property :=
    GameState.Holds.run holds (by simpa [Op.records] using brought)
  exact merged

theorem holds_updateWithDelta (holds : start.Holds crypto property)
    (accepted : updateWithDelta crypto reader params start bytes = .ok game)
    (brought : ∀ rec ∈ deltaOf reader bytes, rec.verify crypto params = true → property rec) :
    game.Holds crypto property := by
  rcases updateWithDelta_eq_ok.1 accepted with ⟨nothing, rfl⟩ | ⟨sent, delta, decodes, -, rfl⟩
  · exact holds
  · rw [deltaOf, sent, decodes] at brought
    have applied : (run crypto params start [.applyDelta delta]).Holds crypto property :=
      GameState.Holds.run holds (by simpa [Op.records] using brought)
    exact applied

theorem holds_applyUpdate {update : UpdateData} (holds : start.Holds crypto property)
    (accepted : applyUpdate crypto reader params start update = .ok game)
    (brought : ∀ rec ∈ carried crypto reader update, rec.verify crypto params = true → property rec) :
    game.Holds crypto property := by
  cases update with
  | state bytes => exact holds_updateWithState holds accepted brought
  | delta bytes => exact holds_updateWithDelta holds accepted brought
  | stateAndDelta bytes bytes' =>
    rw [carried, List.forall_mem_append] at brought
    obtain ⟨half, first, second⟩ := applyUpdate_stateAndDelta.1 accepted
    exact holds_updateWithDelta (holds_updateWithState holds first brought.1) second brought.2
  | unknown => cases accepted
  | relatedState | relatedDelta | relatedStateAndDelta =>
    obtain rfl := Except.ok.inj accepted
    exact holds

theorem holds_applyUpdates {data : List UpdateData} (holds : start.Holds crypto property)
    (accepted : data.foldlM (applyUpdate crypto reader params) start = .ok game)
    (brought : ∀ rec ∈ data.flatMap (carried crypto reader), rec.verify crypto params = true → property rec) :
    game.Holds crypto property := by
  induction data generalizing start with
  | nil =>
    obtain rfl := Except.ok.inj accepted
    exact holds
  | cons update rest ih =>
    rw [List.flatMap_cons, List.forall_mem_append] at brought
    obtain ⟨middle, first, accepted⟩ := foldlM_cons_eq_ok.1 accepted
    exact ih (holds_applyUpdate holds first brought.1) accepted brought.2

end Updates

section Growth
variable [DecidableEq Node]

theorem asked_keep (system : System Node) (node : Node) (result : Except ContractError Bytes) :
    (system.keep node result).asked = system.asked := by
  cases result <;> rfl

theorem session_ask (system : System Node) (color : Color) (call : Signing.Call) :
    session setting (react setting system (.ask color call)) color = Signing.step setting.rules setting.crypto
      setting.reader setting.secrets (session setting system color) call := by
  have asked : (react setting system (.ask color call)).asked color = system.asked color ++ [call] :=
    Function.update_self ..
  rw [session, asked, Provenance.serve_append]
  rfl

theorem asked_grows (next : Next setting system system') (color : Color) :
    system.asked color <+: system'.asked color := by
  obtain ⟨event, -, rfl⟩ := next
  cases event with
  | ask color' call =>
    by_cases same : color = color'
    · subst same
      simp [react]
    · simp [react, same]
  | update node data | pull node peer =>
    rw [react, asked_keep]
  | adopt node state =>
    rw [react]
    split
    · rw [asked_keep]
    · exact List.prefix_rfl

theorem asked_reaches (reaches : Relation.ReflTransGen (Next setting) early late) (color : Color) :
    early.asked color <+: late.asked color := by
  induction reaches with
  | refl => exact List.prefix_rfl
  | tail _ next ih => exact ih.trans (asked_grows next color)

theorem genuine_keep {result : Except ContractError Bytes}
    (genuine : ∀ node, Genuine setting system (system.stored node))
    (good : ∀ bytes, result = .ok bytes → Genuine setting system bytes) (node node' : Node) :
    Genuine setting (system.keep node result) ((system.keep node result).stored node') := by
  have asked : ∀ color, system.asked color <+: (system.keep node result).asked color := by
    intro color
    rw [asked_keep]
  refine Genuine.mono asked ?_
  cases result with
  | error fault => exact genuine node'
  | ok bytes =>
    by_cases here : node' = node
    · have stored : (system.keep node (.ok bytes)).stored node' = bytes := by
        rw [here]
        exact Function.update_self ..
      rw [stored]
      exact good bytes rfl
    · have stored : (system.keep node (.ok bytes)).stored node' = system.stored node' :=
        Function.update_of_ne here ..
      rw [stored]
      exact genuine node'

end Growth

theorem deltaOf_encodeRecords {reader : Reader} (reads : reader.RoundTrips) (delta : Delta) :
    deltaOf reader (encodeRecords delta) = delta := by
  have sent : (encodeRecords delta).isEmpty = false := by simpa using encodeRecords_ne_nil delta
  rw [deltaOf, sent, reads.records]
  rfl

theorem deltaOf_encode {reader : Reader} (reads : reader.RoundTrips) (delta : Delta) :
    deltaOf reader (if delta.isEmpty then [] else encodeRecords delta) = delta := by
  cases delta with
  | nil => rfl
  | cons rec rest => exact deltaOf_encodeRecords reads (rec :: rest)

theorem Genuine.filterValid (holds : state.Holds setting.crypto fun rec =>
      rec.verify setting.crypto setting.params = true ∧ Vouched setting system rec) :
    (state.filterValid setting.crypto setting.params).Holds setting.crypto fun rec =>
      rec.verify setting.crypto setting.params = true ∧ Vouched setting system rec := by
  have nothing : GameState.empty.Holds setting.crypto fun rec =>
      rec.verify setting.crypto setting.params = true ∧ Vouched setting system rec :=
    fun id rec held => by simp [GameState.empty] at held
  have merged : (run setting.crypto setting.params .empty [.merge state]).Holds setting.crypto fun rec =>
      rec.verify setting.crypto setting.params = true ∧ Vouched setting system rec := by
    refine GameState.Holds.run nothing fun rec member valid => ?_
    obtain ⟨id, held⟩ := mem_valuesOf.1 (by simpa [Op.records] using member)
    exact (holds id rec held).2
  exact merged

section Replicas
variable (reads : setting.reader.RoundTrips)
include reads

theorem genuine_updateState {data : List UpdateData} {result : Bytes} (genuine : Genuine setting system bytes)
    (brought : ∀ rec ∈ data.flatMap (carried setting.crypto setting.reader), Vouched setting system rec)
    (accepted : updateState setting.crypto setting.reader setting.params.encode bytes data = .ok result) :
    Genuine setting system result := by
  obtain ⟨base, decodes, holds⟩ := genuine
  obtain ⟨params, base', game, read, decodes', folded, rfl⟩ := updateState_eq_ok accepted
  obtain rfl : setting.params = params := Except.ok.inj ((decodeParams_encode reads _).symm.trans read)
  obtain rfl : base = base' := Except.ok.inj (decodes.symm.trans decodes')
  have final := holds_applyUpdates (Genuine.filterValid holds) folded
    fun rec member valid => ⟨valid, brought rec member⟩
  exact ⟨game, decodeState_encode reads fun id rec held => (final id rec held).1, final⟩

theorem updates_of_pull {theirs result : Bytes} (mine : Genuine setting system bytes)
    (peers : Genuine setting system theirs)
    (pulled : Sync.pull setting.crypto setting.reader setting.params.encode bytes theirs = .ok result) :
    ∃ data, updateState setting.crypto setting.reader setting.params.encode bytes data = .ok result ∧
      ∀ rec ∈ data.flatMap (carried setting.crypto setting.reader), Vouched setting system rec := by
  obtain ⟨a, decodesA, -⟩ := mine
  obtain ⟨b, decodesB, holds⟩ := peers
  have read := decodeParams_encode reads setting.params
  obtain ⟨delta, offered, accepted⟩ := bind_eq_ok.1 pulled
  rw [Sync.offer_eq reads read decodesB decodesA] at offered
  refine ⟨_, accepted, fun rec member => ?_⟩
  obtain rfl := Except.ok.inj offered
  rw [List.flatMap_singleton, carried, deltaOf_encode reads] at member
  obtain ⟨id, held, -⟩ := Sync.mem_deltaAgainst.1 member
  exact (Genuine.filterValid holds id rec held).2.2

theorem genuine_pull {theirs result : Bytes} (mine : Genuine setting system bytes)
    (peers : Genuine setting system theirs)
    (pulled : Sync.pull setting.crypto setting.reader setting.params.encode bytes theirs = .ok result) :
    Genuine setting system result := by
  obtain ⟨data, accepted, vouched⟩ := updates_of_pull reads mine peers pulled
  exact genuine_updateState reads mine vouched accepted

theorem genuine_adopt {state : Bytes}
    (brought : ∀ rec ∈ recordsOf setting.crypto setting.reader state, Vouched setting system rec)
    (valid : validateState setting.crypto setting.reader setting.params.encode state = .ok .valid) :
    Genuine setting system state := by
  obtain ⟨game, decodes, -, keyed, verified⟩ := InSync.accepted (decodeParams_encode reads _) valid
  rw [recordsOf, decodes] at brought
  refine ⟨game, decodes, fun id rec held => ⟨keyed id rec held, allValid_iff.1 verified id rec held, ?_⟩⟩
  exact brought rec (mem_valuesOf.2 ⟨id, held⟩)

end Replicas

section Runs
variable [DecidableEq Node] (reads : setting.reader.RoundTrips)
include reads

theorem genuine_next (next : Next setting system system')
    (genuine : ∀ node, Genuine setting system (system.stored node)) :
    ∀ node, Genuine setting system' (system'.stored node) := by
  have asked := asked_grows next
  obtain ⟨event, brought, rfl⟩ := next
  cases event with
  | ask color call => exact fun node => (genuine node).mono asked
  | update node data =>
    exact genuine_keep genuine (fun bytes => genuine_updateState reads (genuine node) brought) node
  | pull node peer =>
    exact genuine_keep genuine (fun bytes => genuine_pull reads (genuine node) (genuine peer)) node
  | adopt node state =>
    rw [react]
    split
    · next valid =>
      refine genuine_keep genuine (fun bytes same => ?_) node
      obtain rfl := Except.ok.inj same
      exact genuine_adopt reads brought valid
    · exact genuine

theorem genuine_reaches (reaches : Relation.ReflTransGen (Next setting) (System.start Node) system) :
    ∀ node, Genuine setting system (system.stored node) := by
  induction reaches with
  | refl => exact fun node => genuine_nil
  | tail _ next ih => exact genuine_next reads next ih

end Runs

section Statements
variable (sealed : setting.secrets.RoundTrips)
  (bodies : ∀ color, setting.crypto.CollisionFree
    (bodyHashInput '' {body | ∃ call ∈ system.asked color, ∃ gameId, call.request = .sign gameId body}))
include sealed bodies

theorem body_of_stated {rec' : Record} {ply : U16} {parent parent' : RecordId} {uci uci' : String}
    (stated : Stated setting system color rec) (stated' : Stated setting system color rec')
    (is : rec.body = .move ply parent uci) (is' : rec'.body = .move ply parent' uci') : rec.body = rec'.body := by
  obtain ⟨signed, member, -, same⟩ := stated
  obtain ⟨signed', member', -, same'⟩ := stated'
  have free : setting.crypto.CollisionFree (bodyHashInput ''
      {body | ∃ entry ∈ (session setting system color).released, entry.2.body = body}) := by
    refine (bodies color).mono (Set.image_mono ?_)
    intro body said
    obtain ⟨entry, member, rfl⟩ := said
    obtain ⟨call, known, request⟩ := requested_of_released _ entry member
    exact ⟨call, known, entry.1, request⟩
  have equal := eq_of_released (sound_serve sealed _) free member member' (same.trans is) (same'.trans is')
  rw [← same, ← same', equal]

theorem not_doubledIn {offers : List Record} (vouched : ∀ rec ∈ offers, Vouched setting system rec) (ply : U16) :
    ¬DoubledIn setting.crypto setting.params offers color ply := by
  intro doubled
  obtain ⟨rec, member, rec', member', valid, valid', differs, owner, group, group'⟩ := doubled
  obtain ⟨parent, uci, is, -⟩ := groupOf_eq_move.1 group
  obtain ⟨parent', uci', is', signers⟩ := groupOf_eq_move.1 group'
  have owner' : rec'.color setting.params = some color := by
    rw [Record.color, signers]
    exact owner
  refine differs (Record.id_congr _ signers.symm ?_)
  exact body_of_stated sealed bodies (vouched rec member valid color owner)
    (vouched rec' member' valid' color owner') is is'

theorem honest_of_vouched
    (free : setting.crypto.CollisionFree (Record.idInput '' {rec | ∃ color, Stated setting system color rec}))
    (keyed : state.Keyed setting.crypto) (valid : state.allValid setting.crypto setting.params = true)
    (vouched : ∀ rec ∈ valuesOf state.records,
      Vouched setting system rec ∧ ∃ color, Stated setting system color rec) :
    state.doubleSigned setting.params = none := by
  refine doubleSigned_eq_none.2 fun color ply doubled => ?_
  exact not_doubledIn sealed bodies (fun rec member => (vouched rec member).1) ply
    (((Between.start keyed valid).doubled_iff free fun rec member => (vouched rec member).2).1 doubled)

end Statements

section Comparing
variable {rules : Rules} {crypto : Crypto} {params : GameParams} {records : Set Record}
  (free : crypto.CollisionFree (Record.idInput '' records))
  (keyed : state.Keyed crypto) (valid : state.allValid crypto params = true)
  (keyed' : other.Keyed crypto) (valid' : other.allValid crypto params = true)
  (inside : ∀ rec ∈ valuesOf state.records ++ valuesOf other.records, rec ∈ records)
  (honest : ∀ color ply,
    ¬DoubledIn crypto params (valuesOf state.records ++ valuesOf other.records) color ply)
include free keyed valid keyed' valid' inside honest

/-- Two replicas between which nobody has signed twice: the walk through all of their records
comes through both walks. -/
theorem walks_comparable (rules : Rules) :
    Relation.ReflTransGen (Stepping.Steps (walkStep rules (state.merge crypto params other) params none))
        (walk rules crypto state params none) (walk rules crypto other params none) ∨
      Relation.ReflTransGen (Stepping.Steps (walkStep rules (state.merge crypto params other) params none))
        (walk rules crypto other params none) (walk rules crypto state params none) := by
  have left := Between.start keyed valid
  have right := Between.start keyed' valid'
  have union : Between crypto params (valuesOf state.records ++ valuesOf other.records)
      (state.merge crypto params other) := (left.apply free (.merge other) inside).between
  have clean : (state.merge crypto params other).doubleSigned params = none :=
    doubleSigned_eq_none.2 fun color ply doubled => honest color ply ((union.doubled_iff free inside).1 doubled)
  exact Stepping.reaches_or_reaches
    (Stepping.reaches_run_of_included (Takeback.walkStep_included free inside
      (fun rec member => List.mem_append_left _ member) left union clean) _ _)
    (Stepping.reaches_run_of_included (Takeback.walkStep_included free inside
      (fun rec member => List.mem_append_right _ member) right union clean) _ _)

theorem chains_comparable :
    (walk rules crypto state params none).chain <+: (walk rules crypto other params none).chain ∨
      (walk rules crypto other params none).chain <+: (walk rules crypto state params none).chain := by
  rcases walks_comparable free keyed valid keyed' valid' inside honest rules with forth | back
  · exact .inl (chain_of_reaches forth)
  · exact .inr (chain_of_reaches back)

end Comparing

theorem Genuine.shown_eq (genuine : Genuine setting system (system'.stored node)) :
    ∃ state, decodeState setting.crypto setting.reader (system'.stored node) = .ok state ∧
      shown setting system' node = .ok (state.project setting.rules setting.crypto setting.params) ∧
      state.Keyed setting.crypto ∧ state.allValid setting.crypto setting.params = true ∧
      ∀ rec ∈ valuesOf state.records,
        Vouched setting system rec ∧ ∃ color, Stated setting system color rec := by
  obtain ⟨state, decodes, holds⟩ := genuine
  refine ⟨state, decodes, by rw [shown, decodes]; rfl, fun id rec held => (holds id rec held).1,
    allValid_iff.2 fun id rec held => (holds id rec held).2.1, fun rec member => ?_⟩
  obtain ⟨id, held⟩ := mem_valuesOf.1 member
  obtain ⟨-, valid, vouched⟩ := holds id rec held
  obtain ⟨color, owner⟩ := Option.isSome_iff_exists.1 ((Record.verify_iff _ _ _).1 valid).1
  exact ⟨vouched, color, vouched valid color owner⟩

/-- Agreement. In every run, whatever is asked of the delegates and whatever reaches the
replicas in whichever order, of the games that two replicas show at any two moments one
continues the other, and none is forfeited. -/
theorem replicas_agree [DecidableEq Node] (setting : Setting) (early late : System Node)
    (reads : setting.reader.RoundTrips) (sealed : setting.secrets.RoundTrips)
    (starts : Relation.ReflTransGen (Next setting) (System.start Node) early)
    (goes : Relation.ReflTransGen (Next setting) early late)
    (bodies : ∀ color, setting.crypto.CollisionFree
      (bodyHashInput '' {body | ∃ call ∈ late.asked color, ∃ gameId, call.request = .sign gameId body}))
    (free : setting.crypto.CollisionFree (Record.idInput '' {rec | ∃ color, Stated setting late color rec}))
    (node peer : Node) :
    ∃ status status', shown setting early node = .ok status ∧ shown setting late peer = .ok status' ∧
      (status.chain <+: status'.chain ∨ status'.chain <+: status.chain) ∧
      ∀ winner, status'.decision ≠ some ⟨winner, .doubleSignForfeit⟩ := by
  have before : Genuine setting late (early.stored node) :=
    (genuine_reaches reads starts node).mono (asked_reaches goes)
  have after : Genuine setting late (late.stored peer) := genuine_reaches reads (starts.trans goes) peer
  obtain ⟨state, -, shows, keyed, valid, vouched⟩ := before.shown_eq
  obtain ⟨other, -, shows', keyed', valid', vouched'⟩ := after.shown_eq
  have all : ∀ rec ∈ valuesOf state.records ++ valuesOf other.records,
      Vouched setting late rec ∧ ∃ color, Stated setting late color rec :=
    List.forall_mem_append.2 ⟨vouched, vouched'⟩
  have clean := honest_of_vouched sealed bodies free keyed valid vouched
  have clean' := honest_of_vouched sealed bodies free keyed' valid' vouched'
  refine ⟨_, _, shows, shows', ?_, fun winner => decision_ne_forfeit clean' winner⟩
  simp only [project, clean, clean']
  exact chains_comparable free keyed valid keyed' valid' (fun rec member => (all rec member).2)
    fun color ply => not_doubledIn sealed bodies (fun rec member => (all rec member).1) ply

/-- Whatever a replica holds under the key of a player was asked of the player's delegate, for
this game, by the caller that had made the key. Each move of the game that the replica shows is
a held record of the player to move, so the player's own were asked for as well. -/
theorem statements_asked_for [DecidableEq Node] (setting : Setting) (system : System Node) (color : Color)
    (earlier later : List Signing.Call) (creation : Signing.Call) (label : String) (caller : Option Bytes32)
    (publicKey : KeyBytes) (quality : EntropyQuality)
    (reads : setting.reader.RoundTrips) (sealed : setting.secrets.RoundTrips)
    (starts : Relation.ReflTransGen (Next setting) (System.start Node) system)
    (served : system.asked color = earlier ++ creation :: later)
    (free : setting.crypto.CollisionFree (Origins.keygenInputs (system.asked color)))
    (distinct : Set.InjOn setting.crypto.verifyingKey
      (setting.crypto.sha256 '' Origins.keygenInputs (system.asked color)))
    (asked : creation.request = .createGameKey label caller)
    (made : (handle setting.rules setting.crypto setting.reader setting.secrets creation.host
      (serve setting.rules setting.crypto setting.reader setting.secrets earlier).store creation.origin
        creation.request).2 = .gameKey label publicKey quality)
    (owner : setting.params.colorOf publicKey = some color) (node : Node) :
    ∃ state, decodeState setting.crypto setting.reader (system.stored node) = .ok state ∧
      (∀ (id : RecordId) (rec : Record), state.records[id]? = some rec → rec.signer = publicKey →
        ∃ call ∈ system.asked color,
          call.request = .sign (gameId setting) rec.body ∧ call.origin = creation.origin) ∧
      ∀ (i : Nat) (id : RecordId),
        (state.project setting.rules setting.crypto setting.params).chain[i]? = some id →
        ∃ rec ply parent uci, state.records[id]? = some rec ∧ rec.body = .move ply parent uci ∧ ply.val = i + 1 ∧
          rec.signer = setting.params.keyOf (colorAtPly ply) ∧
          (setting.params.keyOf (colorAtPly ply) = publicKey → ∃ call ∈ system.asked color,
            call.request = .sign (gameId setting) (.move ply parent uci) ∧ call.origin = creation.origin) := by
  obtain ⟨state, decodes, -, keyed, valid, vouched⟩ := (genuine_reaches reads starts node).shown_eq
  have maker : ∀ (id : RecordId) (rec : Record), state.records[id]? = some rec → rec.signer = publicKey →
      ∃ call ∈ system.asked color,
        call.request = .sign (gameId setting) rec.body ∧ call.origin = creation.origin := by
    intro id rec held signer
    have mine : rec.color setting.params = some color := by rw [Record.color, signer, owner]
    obtain ⟨rec', released, signers, bodies⟩ := (vouched rec (mem_valuesOf.2 ⟨id, held⟩)).1
      (allValid_iff.1 valid id rec held) color mine
    rw [session, served] at released
    rw [served] at free distinct ⊢
    obtain ⟨call, member, request, origin⟩ := Provenance.asked_by_maker sealed free distinct asked made released
      (signers.trans signer)
    exact ⟨call, member, by rw [request, bodies], origin⟩
  refine ⟨state, decodes, maker, fun i id entered => ?_⟩
  obtain ⟨rec, ply, parent, uci, held, body, number, signer⟩ := (walked_walk valid).held i id entered
  refine ⟨rec, ply, parent, uci, held, body, number, signer, fun mine => ?_⟩
  rw [← body]
  exact maker id rec held (signer.trans mine)

/-- Catching up loses nothing: the game that a replica shows afterwards continues its own and
the peer's. -/
theorem pull_extends_both [DecidableEq Node] (setting : Setting) (system : System Node)
    (reads : setting.reader.RoundTrips) (sealed : setting.secrets.RoundTrips)
    (starts : Relation.ReflTransGen (Next setting) (System.start Node) system)
    (bodies : ∀ color, setting.crypto.CollisionFree
      (bodyHashInput '' {body | ∃ call ∈ system.asked color, ∃ gameId, call.request = .sign gameId body}))
    (node peer : Node)
    (free : setting.crypto.CollisionFree (Record.idInput '' {rec |
      rec ∈ recordsOf setting.crypto setting.reader (system.stored node) ++
        recordsOf setting.crypto setting.reader (system.stored peer)}))
    (digests : setting.crypto.CollisionFree (Record.sigDigestInput '' {rec |
      rec ∈ recordsOf setting.crypto setting.reader (system.stored node) ++
        recordsOf setting.crypto setting.reader (system.stored peer)})) :
    ∃ mine theirs after, shown setting system node = .ok mine ∧ shown setting system peer = .ok theirs ∧
      shown setting (react setting system (.pull node peer)) node = .ok after ∧
      mine.chain <+: after.chain ∧ theirs.chain <+: after.chain := by
  obtain ⟨a, decodesA, shows, keyed, valid, vouched⟩ := (genuine_reaches reads starts node).shown_eq
  obtain ⟨b, decodesB, shows', keyed', valid', vouched'⟩ := (genuine_reaches reads starts peer).shown_eq
  have listed : recordsOf setting.crypto setting.reader (system.stored node) ++
      recordsOf setting.crypto setting.reader (system.stored peer) = valuesOf a.records ++ valuesOf b.records := by
    rw [recordsOf, recordsOf, decodesA, decodesB]
  rw [listed] at free digests
  obtain ⟨union, pulled, represents⟩ := Sync.pull_eq reads (decodeParams_encode reads _) decodesA decodesB free
    digests fun rec member => member
  have clean : union.doubleSigned setting.params = none := by
    refine doubleSigned_eq_none.2 fun color ply doubled => ?_
    refine not_doubledIn sealed bodies (fun rec member => ?_) ply
      ((represents.between.doubled_iff free fun rec member => member).1 doubled)
    rcases List.mem_append.1 member with left | right
    · exact (vouched rec left).1
    · exact (vouched' rec right).1
  have stored : (react setting system (.pull node peer)).stored node = union.encode := by
    rw [react, pulled]
    exact Function.update_self ..
  have after : shown setting (react setting system (.pull node peer)) node =
      .ok (union.project setting.rules setting.crypto setting.params) := by
    rw [shown, stored, decodeState_encode reads represents.keyed]
    rfl
  refine ⟨_, _, _, shows, shows', after, ?_, ?_⟩
  · simp only [project, clean]
    exact Takeback.walk_extends free (fun rec member => member)
      (fun rec member => List.mem_append_left _ member) (Between.start keyed valid) represents.between clean
  · simp only [project, clean]
    exact Takeback.walk_extends free (fun rec member => member)
      (fun rec member => List.mem_append_right _ member) (Between.start keyed' valid') represents.between clean

theorem reaches_asks [DecidableEq Node] (setting : Setting) (system : System Node) (color : Color)
    (calls : List Signing.Call) : Relation.ReflTransGen (Next setting) system
      { system with asked := Function.update system.asked color (system.asked color ++ calls) } := by
  induction calls using List.reverseRecOn with
  | nil =>
    rw [List.append_nil, Function.update_eq_self]
  | append_singleton calls call ih =>
    refine ih.tail ⟨.ask color call, by simp [brings], ?_⟩
    simp [react]

noncomputable def sampleSetting : Setting :=
  ⟨Sample.rules, Sample.crypto, Reader.exact, SecretReader.exact, sampleParams⟩

def sampleAsked : System Bool := { System.start Bool with
  asked := Function.update (fun _ => []) .white (sampleCalls.take 3) }

def sampleSigned : Record := Record.sign Sample.crypto samplePlayer sampleParams (sampleOpening "e2e4")

noncomputable def sampleMoved : System Bool :=
  react sampleSetting sampleAsked (.update true [.delta (encodeRecords [sampleSigned])])

theorem sampleAsked_released (color : Color) : (session sampleSetting sampleAsked color).released =
    if color = .white then [(sampleParams.gameId Sample.crypto, sampleSigned)] else [] := by
  cases color with
  | white =>
    change (serve Sample.rules Sample.crypto Reader.exact SecretReader.exact (sampleCalls.take 3)).released = _
    simp [serve, sampleCalls, Signing.step, handle, sampleKeyed_create, sampleKeyed_bind, sampleBound_sign,
      answered, sampleSigned]
  | black => rfl

theorem sampleAsked_stated {color : Color} {rec : Record} : Stated sampleSetting sampleAsked color rec ↔
    color = .white ∧ rec.signer = sampleSigned.signer ∧ rec.body = sampleSigned.body := by
  unfold Stated
  rw [sampleAsked_released]
  cases color with
  | white =>
    simp only [if_true, List.mem_singleton, Prod.mk.injEq]
    exact ⟨fun ⟨rec', same, signer, body⟩ => ⟨trivial, same.2 ▸ signer.symm, same.2 ▸ body.symm⟩,
      fun said => ⟨sampleSigned, ⟨rfl, rfl⟩, said.2.1.symm, said.2.2.symm⟩⟩
  | black => simp

theorem sampleMoved_asked : sampleMoved.asked = sampleAsked.asked := asked_keep ..

theorem sampleAsked_reached : Relation.ReflTransGen (Next sampleSetting) (System.start Bool) sampleAsked :=
  reaches_asks sampleSetting (System.start Bool) .white (sampleCalls.take 3)

theorem sampleMoved_vouched : ∀ rec ∈ brings sampleSetting
    (Event.update true [.delta (encodeRecords [sampleSigned])]), Vouched sampleSetting sampleAsked rec := by
  intro rec member
  have decoded : deltaOf Reader.exact (encodeRecords [sampleSigned]) = [sampleSigned] :=
    deltaOf_encodeRecords Reader.exact_roundTrips [sampleSigned]
  rw [brings, List.flatMap_singleton, carried] at member
  obtain rfl := List.mem_singleton.1 (decoded ▸ member)
  intro _ color owner
  have white : sampleSigned.color sampleParams = some .white := by decide +kernel
  obtain rfl : Color.white = color := Option.some.inj (white.symm.trans owner)
  exact sampleAsked_stated.2 ⟨rfl, rfl, rfl⟩

theorem sampleMoved_next : Next sampleSetting sampleAsked sampleMoved := ⟨_, sampleMoved_vouched, rfl⟩

theorem sampleMoved_reached : Relation.ReflTransGen (Next sampleSetting) (System.start Bool) sampleMoved :=
  sampleAsked_reached.tail sampleMoved_next

theorem sampleMoved_bodies (color : Color) : Sample.crypto.CollisionFree
    (bodyHashInput '' {body | ∃ call ∈ sampleMoved.asked color, ∃ gameId, call.request = .sign gameId body}) := by
  rw [sampleMoved_asked]
  refine sampleCalls_free.mono (Set.image_mono ?_)
  intro body said
  obtain ⟨call, member, said⟩ := said
  cases color with
  | white => exact ⟨call, List.mem_of_mem_take member, said⟩
  | black => cases member

theorem sampleMoved_statements : Sample.crypto.CollisionFree
    (Record.idInput '' {rec | ∃ color, Stated sampleSetting sampleMoved color rec}) := by
  refine Sample.collisionFree_of_list _ [sampleSigned.idInput] ?_ (by decide +kernel)
  intro input said
  obtain ⟨rec, ⟨color, stated⟩, rfl⟩ := said
  have stated' : Stated sampleSetting sampleAsked color rec := by
    unfold Stated session at stated ⊢
    rwa [sampleMoved_asked] at stated
  obtain ⟨-, signer, body⟩ := sampleAsked_stated.1 stated'
  have same : rec.idInput = sampleSigned.idInput := by rw [Record.idInput, signer, body]; rfl
  rw [same]
  exact List.mem_singleton_self _

/-- One replica has nothing yet, the other has the opening. -/
theorem replicas_agree_opening : ∃ status status', shown sampleSetting sampleAsked false = .ok status ∧
    shown sampleSetting sampleMoved true = .ok status' ∧
    (status.chain <+: status'.chain ∨ status'.chain <+: status.chain) ∧
    ∀ winner, status'.decision ≠ some ⟨winner, .doubleSignForfeit⟩ :=
  replicas_agree sampleSetting sampleAsked sampleMoved Reader.exact_roundTrips SecretReader.exact_roundTrips
    sampleAsked_reached (.single sampleMoved_next) sampleMoved_bodies sampleMoved_statements false true

theorem sampleMoved_inputs (color : Color) (member : color = .white) :
    Origins.keygenInputs (sampleMoved.asked color) ⊆
      {Origins.keygenInput .dead (some Sample.whiteKey) "white"} := by
  subst member
  rw [sampleMoved_asked]
  intro input said
  obtain ⟨call, member, label, caller, asked, rfl⟩ := said
  have known : call ∈ sampleCalls := List.mem_of_mem_take member
  simp only [sampleCalls, List.mem_cons, List.not_mem_nil, or_false] at known
  rcases known with rfl | rfl | rfl | rfl
  · obtain ⟨rfl, rfl⟩ := Request.createGameKey.inj asked
    rfl
  · cases asked
  · cases asked
  · cases asked

/-- The opening was asked for by the caller without a name that had made White's key. -/
theorem statements_asked_for_opening :
    ∃ state, decodeState Sample.crypto Reader.exact (sampleMoved.stored true) = .ok state ∧
      (∀ (id : RecordId) (rec : Record), state.records[id]? = some rec → rec.signer = samplePlayer →
        ∃ call ∈ sampleMoved.asked .white,
          call.request = .sign (gameId sampleSetting) rec.body ∧ call.origin = none) ∧
      ∀ (i : Nat) (id : RecordId),
        (state.project Sample.rules Sample.crypto sampleParams).chain[i]? = some id →
        ∃ rec ply parent uci, state.records[id]? = some rec ∧ rec.body = .move ply parent uci ∧ ply.val = i + 1 ∧
          rec.signer = sampleParams.keyOf (colorAtPly ply) ∧
          (sampleParams.keyOf (colorAtPly ply) = samplePlayer → ∃ call ∈ sampleMoved.asked .white,
            call.request = .sign (gameId sampleSetting) (.move ply parent uci) ∧ call.origin = none) := by
  refine statements_asked_for sampleSetting sampleMoved .white [] ((sampleCalls.take 3).drop 1)
    ⟨sampleHost, none, .createGameKey "white" (some Sample.whiteKey)⟩ "white" (some Sample.whiteKey) samplePlayer
    .degraded Reader.exact_roundTrips SecretReader.exact_roundTrips sampleMoved_reached ?_ ?_
    (fun a _ b _ same => same) rfl ?_ (by decide +kernel) true
  · rw [sampleMoved_asked]
    rfl
  · exact (Set.subsingleton_singleton.anti (sampleMoved_inputs .white rfl)).injOn _
  · have ours : Sample.crypto.verifyingKey samplePlayer = samplePlayer := rfl
    simp [sampleSetting, handle, handleCreateGameKey, serve, sampleHost, samplePlayer_derived, ours, afterWrites,
      Writes.start, Writes.set]

theorem eq_of_sampleMoved {rec : Record} {node : Bool}
    (member : rec ∈ recordsOf Sample.crypto Reader.exact (sampleMoved.stored node)) : rec = sampleSigned := by
  have genuine : Genuine sampleSetting sampleMoved (sampleMoved.stored node) :=
    genuine_reaches Reader.exact_roundTrips sampleMoved_reached node
  obtain ⟨state, decodes, holds⟩ := genuine
  have decodes : decodeState Sample.crypto Reader.exact (sampleMoved.stored node) = .ok state := decodes
  rw [recordsOf, decodes] at member
  obtain ⟨id, held⟩ := mem_valuesOf.1 member
  obtain ⟨-, valid, vouched⟩ := holds id rec held
  obtain ⟨owner, -, -, checks⟩ := (Record.verify_iff _ _ _).1 valid
  obtain ⟨color, owner⟩ := Option.isSome_iff_exists.1 owner
  have stated := vouched valid color owner
  unfold Stated session at stated
  rw [sampleMoved_asked] at stated
  obtain ⟨-, signer, body⟩ := sampleAsked_stated.1 stated
  have sig : rec.sig = (Sample.sign rec.signer (signingPayload (sampleParams.gameId Sample.crypto) rec.body)).val :=
    of_decide_eq_true checks
  rw [signer, body] at sig
  cases rec
  simp_all only [sampleSigned, Record.sign]
  rfl

theorem pull_extends_both_opening : ∃ mine theirs after,
    shown sampleSetting sampleMoved false = .ok mine ∧ shown sampleSetting sampleMoved true = .ok theirs ∧
    shown sampleSetting (react sampleSetting sampleMoved (.pull false true)) false = .ok after ∧
    mine.chain <+: after.chain ∧ theirs.chain <+: after.chain := by
  have only : ∀ rec ∈ recordsOf Sample.crypto Reader.exact (sampleMoved.stored false) ++
      recordsOf Sample.crypto Reader.exact (sampleMoved.stored true), rec = sampleSigned := by
    intro rec member
    rcases List.mem_append.1 member with left | right
    · exact eq_of_sampleMoved left
    · exact eq_of_sampleMoved right
  have single : Set.Subsingleton {rec | rec ∈ recordsOf Sample.crypto Reader.exact (sampleMoved.stored false) ++
      recordsOf Sample.crypto Reader.exact (sampleMoved.stored true)} :=
    fun rec member rec' member' => (only rec member).trans (only rec' member').symm
  exact pull_extends_both sampleSetting sampleMoved Reader.exact_roundTrips SecretReader.exact_roundTrips
    sampleMoved_reached sampleMoved_bodies false true ((single.image _).injOn _) ((single.image _).injOn _)

end Adjourn.Network
