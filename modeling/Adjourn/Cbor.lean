import Mathlib

/-! Self-delimiting byte encodings and the part of CBOR an encoder of plain data
uses: unsigned integers, byte and text strings, definite-length arrays and maps,
and `null`. Every argument is written in its shortest form. -/

namespace Adjourn.Cbor

abbrev Byte := Fin 256
abbrev Bytes := List Byte

instance majorNeZero : NeZero 8 := ⟨by decide⟩

instance byteNeZero : NeZero 256 := ⟨by decide⟩

/-- No encoding continues another: two encoded values followed by anything at
all are equal only if the values and what follows them are. -/
def SelfDelimiting {α : Type} (encode : α → Bytes) : Prop :=
  ∀ a b rest rest', encode a ++ rest = encode b ++ rest' → a = b ∧ rest = rest'

theorem SelfDelimiting.injective {α : Type} {encode : α → Bytes} (h : SelfDelimiting encode) :
    Function.Injective encode := by
  intro a b same
  exact (h a b [] [] (by rw [same])).1

theorem selfDelimiting_of_length {α : Type} {encode : α → Bytes} (width : Nat)
    (fixed : ∀ a, (encode a).length = width) (injective : Function.Injective encode) :
    SelfDelimiting encode := by
  intro a b rest rest' same
  obtain ⟨values, tails⟩ := List.append_inj same ((fixed a).trans (fixed b).symm)
  exact ⟨injective values, tails⟩

/-- A byte array of fixed size, ordered lexicographically. -/
@[ext] structure FixedBytes (width : Nat) where
  val : Bytes
  length_eq : val.length = width

theorem FixedBytes.val_injective {width : Nat} :
    Function.Injective (FixedBytes.val : FixedBytes width → Bytes) :=
  fun _ _ same => FixedBytes.ext same

instance {width : Nat} : LinearOrder (FixedBytes width) :=
  LinearOrder.lift' FixedBytes.val FixedBytes.val_injective

theorem fixedBytes_selfDelimiting (width : Nat) :
    SelfDelimiting (FixedBytes.val : FixedBytes width → Bytes) :=
  selfDelimiting_of_length width FixedBytes.length_eq FixedBytes.val_injective

def FixedBytes.append {m n : Nat} (first : FixedBytes m) (second : FixedBytes n) : FixedBytes (m + n) :=
  ⟨first.val ++ second.val, by rw [List.length_append, first.length_eq, second.length_eq]⟩

def FixedBytes.split (m n : Nat) (block : FixedBytes (m + n)) : FixedBytes m × FixedBytes n :=
  (⟨block.val.take m, by simp [block.length_eq]⟩, ⟨block.val.drop m, by simp [block.length_eq]⟩)

@[simp] theorem FixedBytes.split_append {m n : Nat} (first : FixedBytes m) (second : FixedBytes n) :
    (first.append second).split m n = (first, second) := by
  have whole : first.val.length = m := first.length_eq
  refine Prod.ext (FixedBytes.ext ?_) (FixedBytes.ext ?_)
  · simp [split, append, ← whole]
  · simp [split, append, ← whole]

/-- A buffer of exactly `count` blocks, block by block. -/
def chunksExact (width : Nat) : (count : Nat) → (buf : Bytes) → buf.length = width * count →
    List (FixedBytes width)
  | 0, _, _ => []
  | count + 1, buf, whole =>
    ⟨buf.take width, by simp [whole, Nat.mul_add]⟩ ::
      chunksExact width count (buf.drop width) (by simp [whole, Nat.mul_add])

theorem chunksExact_flatMap {width : Nat} (blocks : List (FixedBytes width)) (count : Nat)
    (whole : (blocks.flatMap FixedBytes.val).length = width * count) (counted : blocks.length = count) :
    chunksExact width count (blocks.flatMap FixedBytes.val) whole = blocks := by
  induction blocks generalizing count with
  | nil =>
    subst counted
    rfl
  | cons block rest ih =>
    subst counted
    have split : (block :: rest).flatMap FixedBytes.val = block.val ++ rest.flatMap FixedBytes.val := rfl
    have front : ((block :: rest).flatMap FixedBytes.val).take width = block.val := by
      rw [split, List.take_left' block.length_eq]
    have back : ((block :: rest).flatMap FixedBytes.val).drop width = rest.flatMap FixedBytes.val := by
      rw [split, List.drop_left' block.length_eq]
    simp only [List.length_cons, chunksExact, front, back]
    rw [ih rest.length _ rfl]

def chunks (width : Nat) (buf : Bytes) : List Bytes :=
  (List.range (buf.length / width)).map fun i => (buf.drop (width * i)).take width

theorem map_val_chunksExact {width count : Nat} {buf : Bytes} (whole : buf.length = width * count) :
    (chunksExact width count buf whole).map FixedBytes.val =
      (List.range count).map fun i => (buf.drop (width * i)).take width := by
  induction count generalizing buf with
  | zero => rfl
  | succ count ih =>
    rw [chunksExact, List.map_cons, ih, List.range_succ_eq_map, List.map_cons, List.map_map, Nat.mul_zero,
      List.drop_zero]
    refine congrArg (_ :: ·) (List.map_congr_left fun i _ => ?_)
    rw [List.drop_drop, Function.comp_apply, Nat.mul_succ, Nat.add_comm]

theorem length_flatMap_val {width : Nat} (blocks : List (FixedBytes width)) :
    (blocks.flatMap FixedBytes.val).length = width * blocks.length := by
  have each : ∀ block ∈ blocks, block.val.length = width := fun block _ => block.length_eq
  rw [List.length_flatMap, List.map_congr_left each, List.map_const', List.sum_replicate, smul_eq_mul, mul_comm]

theorem chunks_flatMap {width : Nat} (positive : 0 < width) (blocks : List (FixedBytes width)) :
    chunks width (blocks.flatMap FixedBytes.val) = blocks.map FixedBytes.val := by
  have size := length_flatMap_val blocks
  have counted : (blocks.flatMap FixedBytes.val).length / width = blocks.length := by
    rw [size, Nat.mul_div_cancel_left _ positive]
  rw [chunks, counted, ← map_val_chunksExact size, chunksExact_flatMap blocks _ size rfl]

def bigEndian : Nat → Nat → Bytes
  | 0, _ => []
  | width + 1, n => bigEndian width (n / 256) ++ [⟨n % 256, Nat.mod_lt _ (by decide)⟩]

@[simp] theorem bigEndian_length (width n : Nat) : (bigEndian width n).length = width := by
  induction width generalizing n with
  | zero => rfl
  | succ width ih => simp [bigEndian, ih]

theorem bigEndian_injective (width m n : Nat) (hm : m < 256 ^ width) (hn : n < 256 ^ width)
    (same : bigEndian width m = bigEndian width n) : m = n := by
  induction width generalizing m n with
  | zero => simp only [pow_zero] at hm hn; omega
  | succ width ih =>
    simp only [bigEndian] at same
    obtain ⟨high, low⟩ := List.append_inj same (by simp)
    have digit : m % 256 = n % 256 := by simpa using low
    have hm' : m / 256 < 256 ^ width := by rw [Nat.div_lt_iff_lt_mul (by decide)]; rwa [pow_succ] at hm
    have hn' : n / 256 < 256 ^ width := by rw [Nat.div_lt_iff_lt_mul (by decide)]; rwa [pow_succ] at hn
    have rest : m / 256 = n / 256 := ih _ _ hm' hn' high
    omega

inductive Item where
  | uint (n : Nat)
  | bytes (b : Bytes)
  | text (s : String)
  | array (items : List Item)
  | map (entries : List (Item × Item))
  | null

def utf8 (s : String) : Bytes := s.toByteArray.data.toList.map UInt8.toFin

theorem utf8_injective : Function.Injective utf8 := by
  intro s t same
  have data : s.toByteArray.data.toList = t.toByteArray.data.toList :=
    List.map_injective_iff.mpr (fun a b h => UInt8.toFin_inj.mp h) same
  exact String.toByteArray_inj.mp (ByteArray.ext (Array.toList_inj.mp data))

def initial (major : Fin 8) (info : Fin 32) : Byte :=
  ⟨32 * major.val + info.val, by omega⟩

/-- The additional information of an argument and the bytes that follow it. No
length or integer of a running program reaches 2^64; such an argument gets a
unary tail, so that every argument has an encoding of its own. -/
def argument (n : Nat) : Fin 32 × Bytes :=
  if small : n < 24 then (⟨n, by omega⟩, [])
  else if n < 256 ^ 1 then (24, bigEndian 1 n)
  else if n < 256 ^ 2 then (25, bigEndian 2 n)
  else if n < 256 ^ 4 then (26, bigEndian 4 n)
  else if n < 256 ^ 8 then (27, bigEndian 8 n)
  else (31, List.replicate n 1 ++ [0])

def head (major : Fin 8) (n : Nat) : Bytes :=
  initial major (argument n).1 :: (argument n).2

theorem argument_cases (n : Nat) :
    (n < 24 ∧ (argument n).1.val = n ∧ (argument n).2 = []) ∨
    (24 ≤ n ∧ n < 256 ^ 1 ∧ (argument n).1.val = 24 ∧ (argument n).2 = bigEndian 1 n) ∨
    (256 ^ 1 ≤ n ∧ n < 256 ^ 2 ∧ (argument n).1.val = 25 ∧ (argument n).2 = bigEndian 2 n) ∨
    (256 ^ 2 ≤ n ∧ n < 256 ^ 4 ∧ (argument n).1.val = 26 ∧ (argument n).2 = bigEndian 4 n) ∨
    (256 ^ 4 ≤ n ∧ n < 256 ^ 8 ∧ (argument n).1.val = 27 ∧ (argument n).2 = bigEndian 8 n) ∨
    (256 ^ 8 ≤ n ∧ (argument n).1.val = 31 ∧ (argument n).2 = List.replicate n 1 ++ [0]) := by
  unfold argument
  split_ifs with small one two four eight
  · exact .inl ⟨small, rfl, rfl⟩
  · exact .inr (.inl ⟨by omega, one, rfl, rfl⟩)
  · exact .inr (.inr (.inl ⟨by omega, two, rfl, rfl⟩))
  · exact .inr (.inr (.inr (.inl ⟨by omega, four, rfl, rfl⟩)))
  · exact .inr (.inr (.inr (.inr (.inl ⟨by omega, eight, rfl, rfl⟩))))
  · exact .inr (.inr (.inr (.inr (.inr ⟨by omega, rfl, rfl⟩))))

theorem argument_length (n : Nat) : (argument n).2.length =
    if n < 24 then 0 else if n < 256 ^ 1 then 1 else if n < 256 ^ 2 then 2 else if n < 256 ^ 4 then 4
    else if n < 256 ^ 8 then 8 else n + 1 := by
  unfold argument
  split_ifs <;> simp

theorem argument_length_le {m n : Nat} (le : m ≤ n) : (argument m).2.length ≤ (argument n).2.length := by
  rw [argument_length, argument_length]
  split_ifs <;> omega

theorem head_length_le (major : Fin 8) {m n : Nat} (le : m ≤ n) :
    (head major m).length ≤ (head major n).length :=
  Nat.succ_le_succ (argument_length_le le)

theorem initial_injective (major major' : Fin 8) (info info' : Fin 32)
    (same : initial major info = initial major' info') : major = major' ∧ info = info' := by
  simp only [initial, Fin.mk.injEq] at same
  constructor <;> apply Fin.ext <;> omega

private theorem bigEndian_delimited (width m n : Nat) (rest rest' : Bytes)
    (hm : m < 256 ^ width) (hn : n < 256 ^ width)
    (same : bigEndian width m ++ rest = bigEndian width n ++ rest') : m = n ∧ rest = rest' := by
  obtain ⟨digits, tails⟩ := List.append_inj same (by simp)
  exact ⟨bigEndian_injective width m n hm hn digits, tails⟩

private theorem unary_delimited (m n : Nat) (rest rest' : Bytes)
    (same : (List.replicate m 1 ++ [0]) ++ rest = (List.replicate n 1 ++ [0]) ++ rest') :
    m = n ∧ rest = rest' := by
  induction m generalizing n with
  | zero => cases n <;> simp_all [List.replicate_succ]
  | succ m ih =>
    cases n with
    | zero => simp [List.replicate_succ] at same
    | succ n =>
      simp only [List.replicate_succ, List.cons_append, List.cons.injEq, true_and] at same
      obtain ⟨counts, tails⟩ := ih n same
      exact ⟨congrArg Nat.succ counts, tails⟩

theorem argument_delimited (m n : Nat) (rest rest' : Bytes)
    (info : (argument m).1 = (argument n).1)
    (same : (argument m).2 ++ rest = (argument n).2 ++ rest') : m = n ∧ rest = rest' := by
  have infos : (argument m).1.val = (argument n).1.val := congrArg Fin.val info
  -- Two arguments of different size classes differ in the additional information.
  rcases argument_cases m with small | one | two | four | eight | huge <;>
    rcases argument_cases n with small' | one' | two' | four' | eight' | huge' <;> try omega
  · rw [small.2.2, small'.2.2] at same
    exact ⟨by omega, same⟩
  · rw [one.2.2.2, one'.2.2.2] at same
    exact bigEndian_delimited 1 m n rest rest' one.2.1 one'.2.1 same
  · rw [two.2.2.2, two'.2.2.2] at same
    exact bigEndian_delimited 2 m n rest rest' two.2.1 two'.2.1 same
  · rw [four.2.2.2, four'.2.2.2] at same
    exact bigEndian_delimited 4 m n rest rest' four.2.1 four'.2.1 same
  · rw [eight.2.2.2, eight'.2.2.2] at same
    exact bigEndian_delimited 8 m n rest rest' eight.2.1 eight'.2.1 same
  · rw [huge.2.2, huge'.2.2] at same
    exact unary_delimited m n rest rest' same

theorem head_delimited (major major' : Fin 8) (m n : Nat) (rest rest' : Bytes)
    (same : head major m ++ rest = head major' n ++ rest') :
    major = major' ∧ m = n ∧ rest = rest' := by
  simp only [head, List.cons_append, List.cons.injEq] at same
  obtain ⟨first, tails⟩ := same
  obtain ⟨majors, info⟩ := initial_injective _ _ _ _ first
  exact ⟨majors, argument_delimited m n rest rest' info tails⟩

mutual
def Item.encode : Item → Bytes
  | .uint n => head 0 n
  | .bytes b => head 2 b.length ++ b
  | .text s => head 3 (utf8 s).length ++ utf8 s
  | .array items => head 4 items.length ++ encodeAll items
  | .map entries => head 5 entries.length ++ encodeEntries entries
  | .null => head 7 22

def encodeAll : List Item → Bytes
  | [] => []
  | item :: items => item.encode ++ encodeAll items

def encodeEntries : List (Item × Item) → Bytes
  | [] => []
  | (key, value) :: entries => key.encode ++ (value.encode ++ encodeEntries entries)
end

theorem encodeAll_length (items : List Item) :
    (encodeAll items).length = (items.map fun item => item.encode.length).sum := by
  induction items with
  | nil => rfl
  | cons item items ih => rw [encodeAll, List.length_append, ih, List.map_cons, List.sum_cons]

def Item.major : Item → Fin 8
  | .uint _ => 0
  | .bytes _ => 2
  | .text _ => 3
  | .array _ => 4
  | .map _ => 5
  | .null => 7

theorem Item.encode_headed (item : Item) : ∃ n body, item.encode = head item.major n ++ body := by
  cases item with
  | uint n => exact ⟨n, [], by simp [Item.encode, Item.major]⟩
  | null => exact ⟨22, [], by simp [Item.encode, Item.major]⟩
  | bytes b => exact ⟨_, b, by rw [Item.encode, Item.major]⟩
  | text s => exact ⟨_, utf8 s, by rw [Item.encode, Item.major]⟩
  | array items => exact ⟨_, encodeAll items, by rw [Item.encode, Item.major]⟩
  | map entries => exact ⟨_, encodeEntries entries, by rw [Item.encode, Item.major]⟩

theorem Item.encode_ne_nil (item : Item) : item.encode ≠ [] := by
  obtain ⟨n, body, headed⟩ := item.encode_headed
  simp [headed, head]

private theorem headed_delimited {major major' : Fin 8} {m n : Nat} {body body' rest rest' : Bytes}
    (same : head major m ++ body ++ rest = head major' n ++ body' ++ rest') :
    major = major' ∧ m = n ∧ body ++ rest = body' ++ rest' := by
  simp only [List.append_assoc] at same
  exact head_delimited _ _ _ _ _ _ same

theorem Item.major_eq {item other : Item} {rest rest' : Bytes}
    (same : item.encode ++ rest = other.encode ++ rest') : item.major = other.major := by
  obtain ⟨m, body, headed⟩ := item.encode_headed
  obtain ⟨n, body', headed'⟩ := other.encode_headed
  rw [headed, headed'] at same
  exact (headed_delimited same).1

mutual
/-- By induction on the first item; the major types of the two must agree. -/
theorem Item.encode_delimited : ∀ (item other : Item) (rest rest' : Bytes),
    item.encode ++ rest = other.encode ++ rest' → item = other ∧ rest = rest'
  | .uint m, other, rest, rest', same => by
    cases other
    case uint n =>
      simp only [Item.encode] at same
      obtain ⟨-, values, ends⟩ := head_delimited _ _ _ _ _ _ same
      exact ⟨congrArg _ values, ends⟩
    all_goals exact absurd (Item.major_eq same) (by simp [Item.major])
  | .bytes b, other, rest, rest', same => by
    cases other
    case bytes c =>
      simp only [Item.encode] at same
      obtain ⟨-, lengths, tails⟩ := headed_delimited same
      obtain ⟨values, ends⟩ := List.append_inj tails lengths
      exact ⟨congrArg _ values, ends⟩
    all_goals exact absurd (Item.major_eq same) (by simp [Item.major])
  | .text s, other, rest, rest', same => by
    cases other
    case text t =>
      simp only [Item.encode] at same
      obtain ⟨-, lengths, tails⟩ := headed_delimited same
      obtain ⟨values, ends⟩ := List.append_inj tails lengths
      exact ⟨congrArg _ (utf8_injective values), ends⟩
    all_goals exact absurd (Item.major_eq same) (by simp [Item.major])
  | .array items, other, rest, rest', same => by
    cases other
    case array others =>
      simp only [Item.encode] at same
      obtain ⟨-, lengths, tails⟩ := headed_delimited same
      obtain ⟨values, ends⟩ := encodeAll_delimited items others rest rest' lengths tails
      exact ⟨congrArg _ values, ends⟩
    all_goals exact absurd (Item.major_eq same) (by simp [Item.major])
  | .map entries, other, rest, rest', same => by
    cases other
    case map others =>
      simp only [Item.encode] at same
      obtain ⟨-, lengths, tails⟩ := headed_delimited same
      obtain ⟨values, ends⟩ := encodeEntries_delimited entries others rest rest' lengths tails
      exact ⟨congrArg _ values, ends⟩
    all_goals exact absurd (Item.major_eq same) (by simp [Item.major])
  | .null, other, rest, rest', same => by
    cases other
    case null => exact ⟨rfl, List.append_cancel_left same⟩
    all_goals exact absurd (Item.major_eq same) (by simp [Item.major])

theorem encodeAll_delimited : ∀ (items others : List Item) (rest rest' : Bytes),
    items.length = others.length → encodeAll items ++ rest = encodeAll others ++ rest' →
      items = others ∧ rest = rest'
  | [], [], _, _, _, same => ⟨rfl, by simpa [encodeAll] using same⟩
  | [], _ :: _, _, _, lengths, _ => by simp at lengths
  | _ :: _, [], _, _, lengths, _ => by simp at lengths
  | item :: items, other :: others, rest, rest', lengths, same => by
    simp only [encodeAll, List.append_assoc] at same
    obtain ⟨firsts, tails⟩ := Item.encode_delimited item other _ _ same
    obtain ⟨values, ends⟩ := encodeAll_delimited items others rest rest' (by simpa using lengths) tails
    exact ⟨by rw [firsts, values], ends⟩

theorem encodeEntries_delimited : ∀ (entries others : List (Item × Item)) (rest rest' : Bytes),
    entries.length = others.length → encodeEntries entries ++ rest = encodeEntries others ++ rest' →
      entries = others ∧ rest = rest'
  | [], [], _, _, _, same => ⟨rfl, by simpa [encodeEntries] using same⟩
  | [], _ :: _, _, _, lengths, _ => by simp at lengths
  | _ :: _, [], _, _, lengths, _ => by simp at lengths
  | (key, value) :: entries, (key', value') :: others, rest, rest', lengths, same => by
    simp only [encodeEntries, List.append_assoc] at same
    obtain ⟨keys, afterKey⟩ := Item.encode_delimited key key' _ _ same
    obtain ⟨values, afterValue⟩ := Item.encode_delimited value value' _ _ afterKey
    obtain ⟨tails, ends⟩ :=
      encodeEntries_delimited entries others rest rest' (by simpa using lengths) afterValue
    exact ⟨by rw [keys, values, tails], ends⟩
end

theorem encode_selfDelimiting : SelfDelimiting Item.encode := Item.encode_delimited

end Adjourn.Cbor
