import Mathlib

/-! Loops that run until no step applies, as iterations of a partial function, and two
such loops side by side. -/

namespace Adjourn.Stepping

variable {σ : Type} (step step' : σ → Option σ)

def Steps (s t : σ) : Prop := step s = some t

def run : Nat → σ → σ
  | 0, s => s
  | fuel + 1, s =>
    match step s with
    | some t => run fuel t
    | none => s

variable {step step'} {s t u : σ}

theorem run_of_stuck (stuck : step s = none) (fuel : Nat) : run step fuel s = s := by
  cases fuel with
  | zero => rfl
  | succ fuel => simp [run, stuck]

theorem run_succ (taken : step s = some t) (fuel : Nat) : run step (fuel + 1) s = run step fuel t := by
  simp [run, taken]

theorem reaches_run (fuel : Nat) (s : σ) : Relation.ReflTransGen (Steps step) s (run step fuel s) := by
  induction fuel generalizing s with
  | zero => exact .refl
  | succ fuel ih =>
    cases taken : step s with
    | none => rw [run_of_stuck taken]
    | some t =>
      rw [run_succ taken]
      exact .head taken (ih t)

/-- A loop that takes every step another takes gets at least as far. -/
theorem run_extends (included : ∀ s t, step s = some t → step' s = some t) (fuel : Nat) (s : σ) :
    Relation.ReflTransGen (Steps step') (run step fuel s) (run step' fuel s) := by
  induction fuel generalizing s with
  | zero => exact .refl
  | succ fuel ih =>
    cases taken : step s with
    | none =>
      rw [run_of_stuck taken]
      exact reaches_run _ s
    | some t =>
      rw [run_succ taken, run_succ (included s t taken)]
      exact ih t

theorem reaches_run_of_included (included : ∀ s t, step s = some t → step' s = some t) (fuel : Nat) (s : σ) :
    Relation.ReflTransGen (Steps step') s (run step fuel s) :=
  Relation.ReflTransGen.mono (fun _ _ taken => included _ _ taken) _ _ (reaches_run fuel s)

/-- Of two states that a loop comes through, it comes through the one first. -/
theorem reaches_or_reaches (reaches : Relation.ReflTransGen (Steps step) s t)
    (reaches' : Relation.ReflTransGen (Steps step) s u) :
    Relation.ReflTransGen (Steps step) t u ∨ Relation.ReflTransGen (Steps step) u t := by
  refine Relation.ReflTransGen.total_of_right_unique (fun a b c first second => ?_) reaches reaches'
  exact Option.some.inj (first.symm.trans second)

theorem reaches_of_stuck (stuck : step s = none) (reaches : Relation.ReflTransGen (Steps step) s t) :
    t = s := by
  rcases Relation.ReflTransGen.cases_head reaches with same | ⟨next, taken, -⟩
  · exact same.symm
  · rw [Steps, stuck] at taken
    exact absurd taken (by simp)

theorem reaches_of_taken (taken : step s = some t) (stuck : step u = none)
    (reaches : Relation.ReflTransGen (Steps step) s u) : Relation.ReflTransGen (Steps step) t u := by
  rcases Relation.ReflTransGen.cases_head reaches with same | ⟨next, first, rest⟩
  · rw [same, stuck] at taken
    cases taken
  · rw [Steps, taken] at first
    rwa [← Option.some.inj first] at rest

theorem reaches_of_reaches (reaches : Relation.ReflTransGen (Steps step) s t) (stuck : step u = none)
    (reaches' : Relation.ReflTransGen (Steps step) s u) : Relation.ReflTransGen (Steps step) t u := by
  induction reaches with
  | refl => exact reaches'
  | tail _ taken ih => exact reaches_of_taken taken stuck ih

theorem reaches_preserves (property : σ → Prop)
    (kept : ∀ s t, step s = some t → property s → property t)
    (reaches : Relation.ReflTransGen (Steps step) s t) (start : property s) : property t := by
  induction reaches with
  | refl => exact start
  | tail _ taken ih => exact kept _ _ taken ih

theorem run_finished (measure : σ → Nat) (lower : ∀ s t, step s = some t → measure t < measure s)
    (fuel : Nat) (s : σ) (enough : measure s ≤ fuel) : step (run step fuel s) = none := by
  induction fuel generalizing s with
  | zero =>
    cases taken : step s with
    | none => rwa [run_of_stuck taken]
    | some t =>
      have := lower s t taken
      omega
  | succ fuel ih =>
    cases taken : step s with
    | none => rwa [run_of_stuck taken]
    | some t =>
      rw [run_succ taken]
      have := lower s t taken
      exact ih t (by omega)

theorem run_of_finished {n m : Nat} (ended : step (run step n s) = none) (le : n ≤ m) :
    run step m s = run step n s := by
  induction n generalizing s m with
  | zero => exact run_of_stuck ended m
  | succ n ih =>
    obtain ⟨m, rfl⟩ : ∃ k, m = k + 1 := ⟨m - 1, by omega⟩
    cases taken : step s with
    | none => rw [run_of_stuck taken, run_of_stuck taken]
    | some t =>
      rw [run_succ taken] at ended ⊢
      rw [run_succ taken]
      exact ih ended (by omega)

section Driven
variable {State Event Output : Type} (react : State → Event → Option (State × Option Output))

/-- The runs of a machine that is driven by events and returns something at some of them.
`none` is an event that cannot happen in the state. -/
inductive Run (start : State) : List Event → List Output → State → Prop where
  | nil : Run start [] [] start
  | snoc {events : List Event} {outputs : List Output} {state state' : State} {event : Event}
      {output : Option Output} (earlier : Run start events outputs state)
      (taken : react state event = some (state', output)) :
      Run start (events ++ [event]) (outputs ++ output.toList) state'

def drive (state : State) : List Event → Option (List Output × State)
  | [] => some ([], state)
  | event :: rest => do
    let (next, output) ← react state event
    let (outputs, last) ← drive next rest
    return (output.toList ++ outputs, last)

variable {react} {start middle last : State} {before events : List Event} {past outputs : List Output}

theorem Run.extend (earlier : Run react start before past middle)
    (driven : drive react middle events = some (outputs, last)) :
    Run react start (before ++ events) (past ++ outputs) last := by
  induction events generalizing before past middle outputs with
  | nil =>
    obtain ⟨rfl, rfl⟩ := Prod.ext_iff.1 (Option.some.inj driven)
    rwa [List.append_nil, List.append_nil]
  | cons event rest ih =>
    simp only [drive, Option.bind_eq_bind, Option.bind_eq_some_iff] at driven
    obtain ⟨⟨next, output⟩, taken, ⟨later, final⟩, driven, done⟩ := driven
    obtain ⟨rfl, rfl⟩ := Prod.ext_iff.1 (Option.some.inj done)
    rw [List.append_cons, ← List.append_assoc]
    exact ih (earlier.snoc taken) driven

theorem run_of_drive (driven : drive react start events = some (outputs, last)) :
    Run react start events outputs last := Run.nil.extend driven

end Driven

end Adjourn.Stepping
