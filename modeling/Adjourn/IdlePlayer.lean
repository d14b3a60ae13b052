import Adjourn.Forfeit
import Adjourn.InSync

/-! What one player's records cannot do. The other player's records stand, and while he
is to move, so do the chain and all that is read off it. -/

namespace Adjourn.IdlePlayer
open OrderedMap NormalForm GameState

/-- A valid state, and records of which only the sender's verify. -/
structure OneSided (crypto : Crypto) (params : GameParams) (records : Set Record) (state : GameState)
    (brought : List Record) (sender : Color) : Prop where
  distinct : params.white ≠ params.black
  keyed : state.Keyed crypto
  valid : state.allValid crypto params = true
  inside : ∀ rec ∈ valuesOf state.records ++ brought, rec ∈ records
  only : ∀ rec ∈ brought, rec.verify crypto params = true → rec.color params = some sender

variable {rules : Rules} {crypto : Crypto} {params : GameParams} {records : Set Record}
  {state after : GameState} {brought : List Record} {sender : Color} {ply : U16} {rec : Record}

section Setting
variable (setting : OneSided crypto params records state brought sender)
include setting

theorem OneSided.before : Between crypto params (valuesOf state.records) state :=
  Between.start setting.keyed setting.valid

theorem OneSided.inside_before : ∀ rec ∈ valuesOf state.records, rec ∈ records :=
  fun rec member => setting.inside rec (List.mem_append_left _ member)

theorem OneSided.held_of_other (member : rec ∈ valuesOf state.records ++ brought)
    (valid : rec.verify crypto params = true) (owner : rec.color params = some sender.other) :
    rec ∈ valuesOf state.records := by
  refine (List.mem_append.1 member).resolve_right fun sent => ?_
  have own := setting.only rec sent valid
  rw [owner] at own
  exact sender.other_ne (Option.some.inj own)

/-- A statement of the other player that the state keeps is kept with the sender's records
on top: they share no id and no group with it. -/
theorem OneSided.survives_of_other (free : crypto.CollisionFree (Record.idInput '' records))
    (owner : rec.color params = some sender.other)
    (survives : Survives crypto params (valuesOf state.records) rec) :
    Survives crypto params (valuesOf state.records ++ brought) rec := by
  obtain ⟨⟨member, valid, smallest⟩, few⟩ := survives
  refine ⟨⟨List.mem_append_left _ member, valid, fun other offered ok same => ?_⟩, fun group own => ?_⟩
  · have known := setting.inside rec (List.mem_append_left _ member)
    obtain ⟨signers, -⟩ := Record.id_inj free (setting.inside other offered) known same
    have owner' : other.color params = some sender.other := by rw [Record.color, signers]; exact owner
    exact smallest other (setting.held_of_other offered ok owner') ok same
  · refine (Finset.card_le_card fun id rival => ?_).trans_lt (few group own)
    obtain ⟨other, offered, ok, own', rfl, less⟩ := mem_rivals.1 rival
    have owner' : other.color params = some sender.other := by
      have signers : other.signer = rec.signer :=
        (signer_of_groupOf own').symm.trans (signer_of_groupOf own)
      rw [Record.color, signers]
      exact owner
    exact mem_rivals.2 ⟨other, setting.held_of_other offered ok owner', ok, own', rfl, less⟩

variable (between : Between crypto params (valuesOf state.records ++ brought) after)
include between

theorem OneSided.held_before {id : RecordId} (owner : rec.color params = some sender.other)
    (held : after.records[id]? = some rec) : state.records[id]? = some rec := by
  obtain ⟨own, valid, member⟩ := between.sound id rec held
  obtain ⟨id', held'⟩ := mem_valuesOf.1 (setting.held_of_other member valid owner)
  have own' := setting.keyed id' rec held'
  rwa [← own, own']

variable (free : crypto.CollisionFree (Record.idInput '' records))
  (undecided : state.Undecided rules crypto params)
include free undecided

theorem OneSided.other_not_doubled (ply : U16) : ¬after.Doubled params sender.other ply := by
  intro doubled
  obtain ⟨rec, member, rec', member', valid, valid', differs, owner, own, own'⟩ :=
    (between.doubled_iff free setting.inside).1 doubled
  obtain ⟨-, -, -, signer⟩ := groupOf_eq_move.1 own'
  have owner' : rec'.color params = some sender.other := by rw [Record.color, signer]; exact owner
  have early : DoubledIn crypto params (valuesOf state.records) sender.other ply :=
    ⟨rec, setting.held_of_other member valid owner, rec', setting.held_of_other member' valid' owner',
      valid, valid', differs, owner, own, own'⟩
  have shown := (setting.before.doubled_iff free setting.inside_before).2 early
  exact doubleSigned_eq_none.1 undecided.1 _ _ shown

theorem OneSided.other_not_resigned : after.resignedBy params sender.other = false := by
  rw [← Bool.not_eq_true, InSync.resignedBy_iff free setting.inside between]
  rintro ⟨rec, member, valid, body, owner⟩
  have early : state.resignedBy params sender.other = true :=
    (InSync.resignedBy_iff free setting.inside_before setting.before).2
      ⟨rec, setting.held_of_other member valid owner, valid, body, owner⟩
  have playing := undecided.2.1
  rw [resigned, Prod.mk.injEq] at playing
  cases sender <;> simp_all [Color.other]

theorem OneSided.honest_of_not_doubled (clean : ¬∃ ply, after.Doubled params sender ply) :
    after.doubleSigned params = none := by
  refine doubleSigned_eq_none.2 fun color ply bad => ?_
  rcases color.eq_or_other sender with rfl | rfl
  · exact clean ⟨ply, bad⟩
  · exact setting.other_not_doubled between free undecided ply bad

theorem OneSided.playing_of_not_resigned (silent : ¬after.resignedBy params sender = true) :
    after.resigned params = (false, false) := by
  have plays := setting.other_not_resigned between free undecided
  cases sender <;> simp_all [resigned, Color.other]

theorem OneSided.decision_of_doubled (doubled : after.Doubled params sender ply) :
    (after.project rules crypto params).decision = some ⟨some sender.other, .doubleSignForfeit⟩ := by
  obtain ⟨fraud, found⟩ := Option.isSome_iff_exists.1 (doubleSigned_isSome.2 ⟨sender, ply, doubled⟩)
  have winner : fraud.winner = some sender.other :=
    ((proven_of_doubleSigned found).winner _).2
      ⟨⟨ply, by rwa [Color.other_other]⟩, setting.other_not_doubled between free undecided⟩
  rw [Forfeit.project_decision found, winner]

theorem OneSided.decision_of_resigned (honest : after.doubleSigned params = none)
    (resigns : after.resignedBy params sender = true) :
    (after.project rules crypto params).decision = some ⟨some sender.other, .resignation⟩ :=
  GameState.decision_of_resigned honest resigns (setting.other_not_resigned between free undecided)

theorem OneSided.finalWalk_eq
    (mover : colorAtPly (state.finalWalk rules crypto params).ply = sender.other)
    (honest : after.doubleSigned params = none) :
    after.finalWalk rules crypto params = state.finalWalk rules crypto params := by
  have clean := undecided.1
  have walked : state.finalWalk rules crypto params = walk rules crypto state params none := by
    simp [finalWalk, clean]
  have walked' : after.finalWalk rules crypto params = walk rules crypto after params none := by
    simp [finalWalk, honest]
  rw [walked] at mover
  rw [walked, walked']
  refine Takeback.walk_eq free setting.inside (fun rec member => List.mem_append_left _ member) setting.before
    between honest clean setting.valid fun id rec uci held body signer => setting.held_before between ?_ held
  rw [Record.color, signer, mover, GameParams.colorOf_keyOf setting.distinct]

end Setting

end Adjourn.IdlePlayer
