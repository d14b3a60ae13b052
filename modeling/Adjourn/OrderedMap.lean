import Mathlib

/-! Loops over ordered maps: folds in key order, collecting the keys of each group,
and erasing a list of keys. -/

namespace Adjourn.OrderedMap
open Std (ExtTreeMap LawfulEqOrd)

instance (priority := low) lawfulEqOrd {α : Type} [LinearOrder α] : LawfulEqOrd α := ⟨compare_eq_iff_eq.mp⟩

variable {α β γ : Type} [LinearOrder α]

def valuesOf (map : ExtTreeMap α β) : List β := map.toList.map Prod.snd

theorem mem_valuesOf {map : ExtTreeMap α β} {value : β} :
    value ∈ valuesOf map ↔ ∃ key : α, map[key]? = some value := by
  simp [valuesOf, ExtTreeMap.mem_toList_iff_getElem?_eq_some]

theorem keys_sorted (map : ExtTreeMap α β) : (map.toList.map Prod.fst).Pairwise (· < ·) := by
  have ordered := map.ordered_keys_toList
  rw [List.pairwise_map]
  exact ordered.imp compare_lt_iff_lt.1

theorem toList_nodup (map : ExtTreeMap α β) : map.toList.Nodup :=
  List.Nodup.of_map Prod.fst ((keys_sorted map).imp ne_of_lt)

theorem getElem?_ofList_toList (map : ExtTreeMap α β) (f : β → γ) (key : α) :
    (ExtTreeMap.ofList (map.toList.map fun (key, value) => (key, f value)))[key]? = map[key]?.map f := by
  have keys : (map.toList.map fun (key, value) => (key, f value)).map Prod.fst = map.toList.map Prod.fst := by
    rw [List.map_map]
    rfl
  cases held : map[key]? with
  | none =>
    refine ExtTreeMap.getElem?_ofList_of_contains_eq_false ?_
    rw [keys, ExtTreeMap.map_fst_toList_eq_keys, ← Bool.not_eq_true, List.contains_iff_mem,
      ExtTreeMap.mem_keys, ExtTreeMap.mem_iff_isSome_getElem?, held]
    exact Bool.false_ne_true
  | some value =>
    have distinct := (keys ▸ keys_sorted map : (List.map Prod.fst _).Pairwise (· < ·))
    rw [List.pairwise_map] at distinct
    refine ExtTreeMap.getElem?_ofList_of_mem (compare_eq_iff_eq.mpr rfl)
      (distinct.imp fun less same => less.ne (compare_eq_iff_eq.mp same)) ?_
    exact List.mem_map.2 ⟨(key, value), ExtTreeMap.mem_toList_iff_getElem?_eq_some.2 held, rfl⟩

theorem getElem?_foldl_erase (keys : List α) (map : ExtTreeMap α β) (key : α) :
    (keys.foldl ExtTreeMap.erase map)[key]? = if key ∈ keys then none else map[key]? := by
  induction keys generalizing map with
  | nil => simp
  | cons first rest ih =>
    rw [List.foldl_cons, ih, ExtTreeMap.getElem?_erase]
    by_cases same : first = key
    · simp [same]
    · have differs : compare first key ≠ .eq := fun equal => same (compare_eq_iff_eq.mp equal)
      simp [differs, Ne.symm same]

/-- The keys of the entries that `group` sends to `g`, in order. -/
def keysIn [DecidableEq γ] (group : β → Option γ) (entries : List (α × β)) (g : γ) : List α :=
  (entries.filter fun entry => group entry.2 = some g).map Prod.fst

section Grouping
variable [LinearOrder γ]

def push (group : β → Option γ) (groups : ExtTreeMap γ (List α)) (entry : α × β) :
    ExtTreeMap γ (List α) :=
  match group entry.2 with
  | some g => groups.alter g (fun keys => some (keys.getD [] ++ [entry.1]))
  | none => groups

omit [LinearOrder α] in
theorem getD_push (group : β → Option γ) (groups : ExtTreeMap γ (List α)) (entry : α × β) (g : γ) :
    (push group groups entry)[g]?.getD [] =
      groups[g]?.getD [] ++ keysIn group [entry] g := by
  unfold push keysIn
  cases own : group entry.2 with
  | none => simp [own]
  | some g' =>
    rw [ExtTreeMap.getElem?_alter]
    by_cases same : g' = g
    · subst same
      simp [own]
    · have differs : compare g' g ≠ .eq := fun equal => same (compare_eq_iff_eq.mp equal)
      simp [own, same, differs]

omit [LinearOrder α] in
/-- The grouping loop collects, for every group, its keys in order. -/
theorem getD_foldl_push (group : β → Option γ) (entries : List (α × β))
    (groups : ExtTreeMap γ (List α)) (g : γ) :
    (entries.foldl (push group) groups)[g]?.getD [] =
      groups[g]?.getD [] ++ keysIn group entries g := by
  induction entries generalizing groups with
  | nil => simp [keysIn]
  | cons entry rest ih =>
    rw [List.foldl_cons, ih, getD_push]
    simp only [keysIn, List.append_assoc, ← List.map_append, ← List.filter_append, List.singleton_append]

def bump (group : β → Option γ) (counts : ExtTreeMap γ Nat) (entry : β) : ExtTreeMap γ Nat :=
  match group entry with
  | some g => counts.alter g (fun n => some (n.getD 0 + 1))
  | none => counts

theorem getD_foldl_bump (group : β → Option γ) (entries : List β) (counts : ExtTreeMap γ Nat) (g : γ) :
    (entries.foldl (bump group) counts)[g]?.getD 0 =
      counts[g]?.getD 0 + (entries.filter fun entry => group entry = some g).length := by
  induction entries generalizing counts with
  | nil => simp
  | cons entry rest ih =>
    rw [List.foldl_cons, ih]
    unfold bump
    cases own : group entry with
    | none => simp [own]
    | some g' =>
      rw [ExtTreeMap.getElem?_alter]
      by_cases same : g' = g
      · subst same
        simp [own]
        omega
      · have differs : compare g' g ≠ .eq := fun equal => same (compare_eq_iff_eq.mp equal)
        simp [own, same, differs]

end Grouping

theorem two_le_length_iff {list : List β} (nodup : list.Nodup) :
    2 ≤ list.length ↔ ∃ a ∈ list, ∃ b ∈ list, a ≠ b := by
  classical
  rw [← List.toFinset_card_of_nodup nodup]
  refine Nat.succ_le_iff.trans ?_
  simpa using Finset.one_lt_card (s := list.toFinset)

theorem mem_drop_iff {keys : List α} (sorted : keys.Pairwise (· < ·)) (k : Nat) (key : α) :
    key ∈ keys.drop k ↔ key ∈ keys ∧ k ≤ (keys.filter (· < key)).length := by
  induction keys generalizing k with
  | nil => simp
  | cons first rest ih =>
    obtain ⟨least, tail⟩ := List.pairwise_cons.1 sorted
    cases k with
    | zero => simp
    | succ k =>
      rw [List.drop_succ_cons, ih tail]
      by_cases same : key = first
      · subst same
        have absent : key ∉ rest := fun member => lt_irrefl _ (least key member)
        have nothing : rest.filter (· < key) = [] :=
          List.filter_eq_nil_iff.2 fun other member => by simpa using (least other member).le
        simp [absent, nothing]
      · constructor
        · rintro ⟨member, enough⟩
          refine ⟨List.mem_cons_of_mem _ member, ?_⟩
          simpa [least key member] using enough
        · rintro ⟨member, enough⟩
          have member : key ∈ rest := (List.mem_cons.1 member).resolve_left same
          refine ⟨member, ?_⟩
          simpa [least key member] using enough

/-- Inserting entries one by one, refusing a repeated key. -/
def insertDistinct (entries : List (α × β)) (map : ExtTreeMap α β) : Option (ExtTreeMap α β) :=
  entries.foldlM (fun map entry =>
    if map.contains entry.1 then none else some (map.insert entry.1 entry.2)) map

theorem insertDistinct_cons (entry : α × β) (rest : List (α × β)) (map : ExtTreeMap α β) :
    insertDistinct (entry :: rest) map =
      if map.contains entry.1 then none else insertDistinct rest (map.insert entry.1 entry.2) := by
  unfold insertDistinct
  rw [List.foldlM_cons]
  split_ifs <;> rfl

theorem getElem?_insertDistinct {entries : List (α × β)} {map out : ExtTreeMap α β}
    (success : insertDistinct entries map = some out) (key : α) (value : β) :
    out[key]? = some value ↔ map[key]? = some value ∨ (key, value) ∈ entries := by
  induction entries generalizing map with
  | nil =>
    obtain rfl : map = out := Option.some.inj success
    simp
  | cons entry rest ih =>
    rw [insertDistinct_cons] at success
    split_ifs at success with taken
    rw [ih success, ExtTreeMap.getElem?_insert, List.mem_cons]
    have fresh : map[entry.1]? = none :=
      ExtTreeMap.getElem?_eq_none fun held => taken (ExtTreeMap.contains_iff_mem.2 held)
    by_cases same : entry.1 = key
    · subst same
      simp [fresh, Prod.ext_iff, eq_comm]
    · have differs : compare entry.1 key ≠ .eq := fun equal => same (compare_eq_iff_eq.mp equal)
      simp [differs, Prod.ext_iff, Ne.symm same]

theorem insertDistinct_isSome {entries : List (α × β)} {map : ExtTreeMap α β}
    (distinct : (entries.map Prod.fst).Nodup) (fresh : ∀ entry ∈ entries, entry.1 ∉ map) :
    ∃ out, insertDistinct entries map = some out := by
  induction entries generalizing map with
  | nil => exact ⟨map, rfl⟩
  | cons entry rest ih =>
    rw [List.map_cons, List.nodup_cons] at distinct
    obtain ⟨absent, rest'⟩ := distinct
    have new : map.contains entry.1 = false := by
      rw [← Bool.not_eq_true, ExtTreeMap.contains_iff_mem]
      exact fresh entry List.mem_cons_self
    rw [insertDistinct_cons, new]
    refine ih rest' fun other member inserted => ?_
    rcases ExtTreeMap.mem_insert.1 inserted with same | old
    · exact absent (List.mem_map.2 ⟨other, member, (compare_eq_iff_eq.mp same).symm⟩)
    · exact fresh other (List.mem_cons_of_mem _ member) old

theorem distinct_of_insertDistinct {entries : List (α × β)} {map out : ExtTreeMap α β}
    (success : insertDistinct entries map = some out) :
    (entries.map Prod.fst).Nodup ∧ ∀ entry ∈ entries, entry.1 ∉ map := by
  induction entries generalizing map with
  | nil => exact ⟨List.nodup_nil, fun entry member => absurd member List.not_mem_nil⟩
  | cons entry rest ih =>
    rw [insertDistinct_cons] at success
    split_ifs at success with taken
    obtain ⟨distinct, fresh⟩ := ih success
    have later : ∀ other ∈ rest, other.1 ≠ entry.1 := fun other member same =>
      fresh other member (ExtTreeMap.mem_insert.2 (.inl (compare_eq_iff_eq.mpr same.symm)))
    have new : entry.1 ∉ map := fun held => taken (ExtTreeMap.contains_iff_mem.2 held)
    refine ⟨?_, ?_⟩
    · rw [List.map_cons, List.nodup_cons]
      refine ⟨fun repeated => ?_, distinct⟩
      obtain ⟨other, member, same⟩ := List.mem_map.1 repeated
      exact later other member same
    · intro other member
      rcases List.mem_cons.1 member with rfl | member
      · exact new
      · exact fun held => fresh other member (ExtTreeMap.mem_insert.2 (.inr held))

/-- The loop started empty succeeds with the map whose entries are the given ones, in
whatever order they came. -/
theorem insertDistinct_eq_some_iff {entries : List (α × β)} {out : ExtTreeMap α β} :
    insertDistinct entries ∅ = some out ↔ out.toList.Perm entries := by
  have perm_of_success {out : ExtTreeMap α β} (success : insertDistinct entries ∅ = some out) :
      out.toList.Perm entries := by
    have distinct := (distinct_of_insertDistinct success).1
    refine (List.perm_ext_iff_of_nodup (toList_nodup out) (List.Nodup.of_map Prod.fst distinct)).2 ?_
    intro entry
    rw [ExtTreeMap.mem_toList_iff_getElem?_eq_some, getElem?_insertDistinct success]
    simp
  refine ⟨perm_of_success, fun perm => ?_⟩
  have distinct : (entries.map Prod.fst).Nodup :=
    (perm.map Prod.fst).nodup_iff.1 ((keys_sorted out).imp ne_of_lt)
  obtain ⟨built, success⟩ :=
    insertDistinct_isSome distinct (fun entry _ => ExtTreeMap.not_mem_empty (k := entry.1))
  rw [success]
  refine congrArg some (ExtTreeMap.ext_getElem? fun key => Option.ext fun value => ?_)
  rw [← ExtTreeMap.mem_toList_iff_getElem?_eq_some, ← ExtTreeMap.mem_toList_iff_getElem?_eq_some]
  exact ((perm_of_success success).trans perm.symm).mem_iff

theorem insertDistinct_toList (map : ExtTreeMap α β) : insertDistinct map.toList ∅ = some map :=
  insertDistinct_eq_some_iff.2 (List.Perm.refl _)

theorem exists_insertDistinct_iff {entries : List (α × β)} :
    (∃ out, insertDistinct entries ∅ = some out) ↔ (entries.map Prod.fst).Nodup :=
  ⟨fun ⟨_, success⟩ => (distinct_of_insertDistinct success).1, fun distinct =>
    insertDistinct_isSome distinct (fun entry _ => ExtTreeMap.not_mem_empty (k := entry.1))⟩

end Adjourn.OrderedMap
