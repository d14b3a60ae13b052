import Mathlib

/-! Reading a struct from a keyed map, as a derived visitor does: the fields may come in any
order, unknown ones are skipped, and a repeated one is refused. What a field that never
came means is left to the caller. -/

namespace Adjourn.StructMap

variable {Key Datum Field : Type} {Value : Field → Type}

abbrev Seen (Value : Field → Type) := (field : Field) → Option (Value field)

/-- How keys and values are read. A key may be unreadable, or name no field. -/
structure Visitor (Key Datum Field : Type) (Value : Field → Type) where
  field : Key → Option (Option Field)
  value : (field : Field) → Datum → Option (Value field)

namespace Visitor
variable [DecidableEq Field] (visitor : Visitor Key Datum Field Value)

def visit (seen : Seen Value) (entry : Key × Datum) : Option (Seen Value) :=
  match visitor.field entry.1 with
  | none => none
  | some none => some seen
  | some (some field) =>
    if (seen field).isSome then none
    else (visitor.value field entry.2).map fun value => Function.update seen field (some value)

def visitMap (entries : List (Key × Datum)) : Option (Seen Value) :=
  entries.foldlM visitor.visit fun _ => none

variable {visitor} {seen next : Seen Value} {entry : Key × Datum} {entries : List (Key × Datum)}

theorem foldlM_visit_cons :
    (entry :: entries).foldlM visitor.visit seen =
      (visitor.visit seen entry).bind fun next => entries.foldlM visitor.visit next :=
  List.foldlM_cons

theorem visit_iff (visited : visitor.visit seen entry = some next) (field : Field) (value : Value field) :
    next field = some value ↔ seen field = some value ∨
      visitor.field entry.1 = some (some field) ∧ visitor.value field entry.2 = some value := by
  unfold visit at visited
  split at visited
  next => cases visited
  next unknown =>
    obtain rfl := Option.some.inj visited
    simp [unknown]
  next other known =>
    split_ifs at visited with repeated
    obtain ⟨read, reads, rfl⟩ := Option.map_eq_some_iff.1 visited
    rw [known]
    by_cases same : other = field
    · subst same
      have fresh : seen other = none := by simpa using repeated
      simp [fresh, reads]
    · have differs : field ≠ other := Ne.symm same
      simp [Function.update_of_ne differs, same]

theorem foldlM_visit_iff (visited : entries.foldlM visitor.visit seen = some next) (field : Field)
    (value : Value field) : next field = some value ↔ seen field = some value ∨
      ∃ entry ∈ entries, visitor.field entry.1 = some (some field) ∧ visitor.value field entry.2 = some value := by
  induction entries generalizing seen with
  | nil =>
    obtain rfl : seen = next := Option.some.inj visited
    simp
  | cons entry rest ih =>
    rw [foldlM_visit_cons] at visited
    obtain ⟨middle, first, later⟩ := Option.bind_eq_some_iff.1 visited
    rw [ih later, visit_iff first]
    simp only [List.mem_cons, exists_eq_or_imp, or_assoc]

theorem visitMap_iff (visited : visitor.visitMap entries = some seen) (field : Field) (value : Value field) :
    seen field = some value ↔
      ∃ entry ∈ entries, visitor.field entry.1 = some (some field) ∧ visitor.value field entry.2 = some value := by
  simpa using foldlM_visit_iff visited field value

theorem visitMap_eq_none (visited : visitor.visitMap entries = some seen) {field : Field}
    (absent : ∀ entry ∈ entries, visitor.field entry.1 ≠ some (some field)) : seen field = none := by
  refine Option.eq_none_iff_forall_ne_some.2 fun value held => ?_
  obtain ⟨entry, member, named, -⟩ := (visitMap_iff visited field value).1 held
  exact absent entry member named

section Written
variable {key : Field → Key} {datum : Field → Datum} {values : (field : Field) → Value field}
  (named : ∀ field, visitor.field (key field) = some (some field))
  (read : ∀ field, visitor.value field (datum field) = some (values field))
include named read

theorem foldlM_visit_written {fields : List Field} (distinct : fields.Nodup)
    (fresh : ∀ field ∈ fields, seen field = none) :
    ∃ next, (fields.map fun field => (key field, datum field)).foldlM visitor.visit seen = some next := by
  induction fields generalizing seen with
  | nil => exact ⟨seen, rfl⟩
  | cons field rest ih =>
    obtain ⟨absent, distinct⟩ := List.nodup_cons.1 distinct
    have visited : visitor.visit seen (key field, datum field) =
        some (Function.update seen field (some (values field))) := by
      simp [visit, named field, read field, fresh field List.mem_cons_self]
    rw [List.map_cons, foldlM_visit_cons, visited, Option.bind_some]
    refine ih distinct fun other member => ?_
    have differs : other ≠ field := fun same => absent (same ▸ member)
    rw [Function.update_of_ne differs]
    exact fresh other (List.mem_cons_of_mem _ member)

/-- Distinct fields, written one by one, are all read back, and nothing else is. -/
theorem visitMap_written {fields : List Field} (distinct : fields.Nodup) :
    ∃ seen, visitor.visitMap (fields.map fun field => (key field, datum field)) = some seen ∧
      (∀ field ∈ fields, seen field = some (values field)) ∧ ∀ field ∉ fields, seen field = none := by
  obtain ⟨seen, visited⟩ := foldlM_visit_written named read distinct
    (fun field _ => (rfl : (none : Option (Value field)) = none))
  refine ⟨seen, visited, fun field member => ?_, fun field absent => ?_⟩
  · exact (visitMap_iff visited field _).2
      ⟨(key field, datum field), List.mem_map_of_mem member, named field, read field⟩
  · refine visitMap_eq_none visited fun entry member same => ?_
    obtain ⟨other, listed, rfl⟩ := List.mem_map.1 member
    rw [named other] at same
    exact absent (Option.some.inj (Option.some.inj same) ▸ listed)

end Written

end Visitor

end Adjourn.StructMap
