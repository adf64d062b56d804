/-!
# Maps with keys in order

A map holds its entries in increasing order of key, each key once, so that walking the entries is
the order in which they are written out. Main statements: looking a key up after an insertion
(`find?_insert`, `find?_insertIfNew`).
-/

namespace RpcStubs

universe u v

/-- A finite map whose entries stand in increasing order of key. -/
structure SortedMap (κ : Type u) (ν : Type v) [LT κ] where
  entries : List (κ × ν)
  increasing : entries.Pairwise fun first second => first.1 < second.1

namespace SortedMap

variable {κ : Type u} {ν : Type v}

section Order

variable [LT κ]

/-- The map without entries. -/
def empty : SortedMap κ ν :=
  ⟨[], .nil⟩

instance : EmptyCollection (SortedMap κ ν) :=
  ⟨empty⟩

instance : Inhabited (SortedMap κ ν) :=
  ⟨empty⟩

/-- Two maps with the same entries are the same map. -/
theorem ext_entries {first second : SortedMap κ ν} (same : first.entries = second.entries) :
    first = second := by
  cases first
  cases second
  simp_all

instance [DecidableEq κ] [DecidableEq ν] : DecidableEq (SortedMap κ ν) := fun first second =>
  if same : first.entries = second.entries then
    isTrue (ext_entries same)
  else
    isFalse fun equal => same (congrArg entries equal)

/-- How many keys the map holds. -/
def size (map : SortedMap κ ν) : Nat :=
  map.entries.length

/-- Whether the map holds no key. -/
def isEmpty (map : SortedMap κ ν) : Bool :=
  map.entries.isEmpty

/-- The keys, in order. -/
def keys (map : SortedMap κ ν) : List κ :=
  map.entries.map Prod.fst

variable [DecidableEq κ]

omit [LT κ] in
/-- The value of the first entry of a key in a list of entries. -/
def valueAt? (key : κ) (entries : List (κ × ν)) : Option ν :=
  (entries.find? fun entry => entry.1 = key).map Prod.snd

/-- The value held under a key. -/
def find? (map : SortedMap κ ν) (key : κ) : Option ν :=
  valueAt? key map.entries

/-- Whether the map holds a key. -/
def contains (map : SortedMap κ ν) (key : κ) : Bool :=
  map.entries.any fun entry => entry.1 = key

/-- The first key, in order, whose value passes a test. -/
def firstKey? (map : SortedMap κ ν) (test : ν → Bool) : Option κ :=
  (map.entries.find? fun entry => test entry.2).map Prod.fst

@[simp]
theorem find?_empty (key : κ) : (empty : SortedMap κ ν).find? key = none :=
  rfl

theorem contains_eq_isSome_find? (map : SortedMap κ ν) (key : κ) :
    map.contains key = (map.find? key).isSome := by
  simp [contains, find?, valueAt?, List.isSome_find?]

end Order

section Insert

variable [LE κ] [LT κ] [Std.IsLinearOrder κ] [Std.LawfulOrderLT κ] [DecidableLT κ] [DecidableEq κ]

/-- Put an entry at its place in a list of entries, over an entry of the same key. -/
def insertEntry (key : κ) (value : ν) : List (κ × ν) → List (κ × ν)
  | [] => [(key, value)]
  | entry :: rest =>
      if key < entry.1 then (key, value) :: entry :: rest
      else if key = entry.1 then (key, value) :: rest
      else entry :: insertEntry key value rest

omit [LE κ] [Std.IsLinearOrder κ] [Std.LawfulOrderLT κ] in
theorem mem_insertEntry {key : κ} {value : ν} {entry : κ × ν} {entries : List (κ × ν)}
    (member : entry ∈ insertEntry key value entries) :
    entry = (key, value) ∨ entry ∈ entries := by
  induction entries with
  | nil => simpa [insertEntry] using member
  | cons first rest ih =>
      simp only [insertEntry] at member
      split at member
      · simpa using member
      · split at member
        · rcases List.mem_cons.mp member with here | later
          · exact .inl here
          · exact .inr (List.mem_cons_of_mem _ later)
        · rcases List.mem_cons.mp member with here | later
          · exact .inr (here ▸ List.mem_cons_self)
          · exact (ih later).imp_right (List.mem_cons_of_mem _)

theorem insertEntry_increasing (key : κ) (value : ν) {entries : List (κ × ν)}
    (increasing : entries.Pairwise fun first second => first.1 < second.1) :
    (insertEntry key value entries).Pairwise fun first second => first.1 < second.1 := by
  induction entries with
  | nil => simp [insertEntry]
  | cons first rest ih =>
      obtain ⟨least, restIncreasing⟩ := List.pairwise_cons.mp increasing
      simp only [insertEntry]
      split
      next before =>
        refine List.pairwise_cons.mpr ⟨fun entry member => ?_, increasing⟩
        rcases List.mem_cons.mp member with rfl | later
        · exact before
        · exact Std.lt_trans before (least entry later)
      next notBefore =>
        split
        next same => exact List.pairwise_cons.mpr ⟨same ▸ least, restIncreasing⟩
        next different =>
          refine List.pairwise_cons.mpr ⟨fun entry member => ?_, ih restIncreasing⟩
          rcases mem_insertEntry member with rfl | later
          · exact Std.lt_of_le_of_ne (Std.not_lt.mp notBefore) (Ne.symm different)
          · exact least entry later

/-- The map with a value under a key, whatever was there before. -/
def insert (map : SortedMap κ ν) (key : κ) (value : ν) : SortedMap κ ν :=
  ⟨insertEntry key value map.entries, insertEntry_increasing key value map.increasing⟩

/-- The map with a value under a key, unless the key already holds one. -/
def insertIfNew (map : SortedMap κ ν) (key : κ) (value : ν) : SortedMap κ ν :=
  if map.contains key then map else map.insert key value

omit [LE κ] [Std.IsLinearOrder κ] [Std.LawfulOrderLT κ] in
theorem valueAt?_insertEntry (key : κ) (value : ν) (entries : List (κ × ν)) (other : κ) :
    valueAt? other (insertEntry key value entries) =
      if other = key then some value else valueAt? other entries := by
  unfold valueAt?
  induction entries with
  | nil =>
      by_cases same : other = key
      · simp [insertEntry, same]
      · simp [insertEntry, same, Ne.symm same]
  | cons first rest ih =>
      simp only [insertEntry]
      split
      · by_cases same : other = key
        · simp [same]
        · simp [same, Ne.symm same]
      · split
        next keySame =>
          by_cases same : other = key
          · simp [same]
          · simp [same, Ne.symm same, keySame ▸ Ne.symm same]
        next keyDifferent =>
          by_cases here : first.1 = other
          · simp [here, here ▸ Ne.symm keyDifferent]
          · simp only [List.find?_cons, here, decide_false]
            exact ih

/-- Looking up after an insertion gives the new value at its key and the old values elsewhere. -/
theorem find?_insert (map : SortedMap κ ν) (key : κ) (value : ν) (other : κ) :
    (map.insert key value).find? other =
      if other = key then some value else map.find? other :=
  valueAt?_insertEntry key value map.entries other

theorem find?_insertIfNew (map : SortedMap κ ν) (key : κ) (value : ν) (other : κ) :
    (map.insertIfNew key value).find? other =
      if other = key then some ((map.find? key).getD value) else map.find? other := by
  unfold insertIfNew
  split
  next held =>
    rw [contains_eq_isSome_find?, Option.isSome_iff_exists] at held
    obtain ⟨old, held⟩ := held
    split
    next same => simp [same, held]
    next => rfl
  next free =>
    rw [contains_eq_isSome_find?, Option.not_isSome_iff_eq_none] at free
    simp [find?_insert, free]

end Insert

end SortedMap

end RpcStubs
