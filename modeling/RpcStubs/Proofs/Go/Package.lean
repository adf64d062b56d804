import RpcStubs.Go.Package

/-!
# Cleaned names

Cleaning a name replaces some of its characters one by one and may put an underscore in front. Both
steps leave a clean name as it is, and what they make of any other is clean: masking does not bring
about a reason for the underscore and does not take one away (`needsUnderscore_maskChars`), and
behind the underscore no reason is left. So cleaning is a projection onto the clean names
(`packageName_projection`).
-/

namespace RpcStubs.Go

/-- A name that a package may have as it is. -/
structure Clean (name : String) : Prop where
  nonempty : name ≠ ""
  chars : ∀ c ∈ name.toList, Text.isAlphanumeric c = true ∨ c = '_'
  opening : ∀ c ∈ name.toList.head?, Text.isNumeric c = false
  free : name ∉ keywords

variable {c : Char} {cs : List Char} {raw : String}

/-! ## Masks -/

theorem isNameChar_iff : isNameChar c = true ↔ Text.isAlphanumeric c = true ∨ c = '_' := by
  simp [isNameChar]

theorem isNumeric_underscore : Text.isNumeric '_' = false := by
  decide

theorem isNameChar_of_isNumeric (numeric : Text.isNumeric c = true) : isNameChar c = true :=
  isNameChar_iff.mpr (.inl (Text.isAlphanumeric_of_isNumeric numeric))

theorem maskChars_eq_self_iff : maskChars cs = cs ↔ ∀ c ∈ cs, isNameChar c = true := by
  constructor
  · intro same c member
    rw [← same] at member
    rcases List.mem_map.mp member with ⟨d, _, rfl⟩
    by_cases kept : isNameChar d
    · rw [if_pos kept]
      exact kept
    · rw [if_neg kept]
      exact isNameChar_underscore
  · intro kept
    exact (List.map_congr_left fun c member => if_pos (kept c member)).trans (List.map_id' cs)

theorem maskChars_underscore_cons (cs : List Char) :
    maskChars ('_' :: cs) = '_' :: maskChars cs := by
  rw [maskChars, List.map_cons, ite_self, maskChars]

/-- A mask without an underscore hides nothing. -/
theorem maskChars_eq_self_of_plain (plain : '_' ∉ maskChars cs) : maskChars cs = cs := by
  rw [maskChars_eq_self_iff]
  intro c member
  refine Decidable.byContradiction fun hidden => ?_
  exact plain (List.mem_map.mpr ⟨c, member, if_neg hidden⟩)

/-! ## The reasons for an underscore in front -/

theorem keyword_maskChars_iff :
    String.ofList (maskChars cs) ∈ keywords ↔ String.ofList cs ∈ keywords := by
  constructor
  · intro keyword
    have plain : ∀ word ∈ keywords, '_' ∉ word.toList := by decide
    have noUnderscore := plain _ keyword
    rw [String.toList_ofList] at noUnderscore
    rwa [maskChars_eq_self_of_plain noUnderscore] at keyword
  · intro keyword
    have kept : (keywords.all fun word => word.toList.all isNameChar) = true := by decide
    have nameChars := List.all_eq_true.mp (List.all_eq_true.mp kept _ keyword)
    rw [String.toList_ofList] at nameChars
    rwa [maskChars_eq_self_iff.mpr nameChars]

theorem any_isNumeric_head?_maskChars (cs : List Char) :
    (maskChars cs).head?.any Text.isNumeric = cs.head?.any Text.isNumeric := by
  cases cs with
  | nil => rfl
  | cons c rest =>
      by_cases kept : isNameChar c
      · simp [maskChars, kept]
      · have noNumber : Text.isNumeric c = false :=
          Bool.eq_false_iff.mpr (mt isNameChar_of_isNumeric kept)
        simp [maskChars, kept, isNumeric_underscore, noNumber]

/-- Masking neither brings about a reason for an underscore in front nor takes one away. -/
theorem needsUnderscore_maskChars (cs : List Char) :
    needsUnderscore (maskChars cs) = needsUnderscore cs := by
  have empty : (maskChars cs).isEmpty = cs.isEmpty := by simp [maskChars]
  rw [needsUnderscore, needsUnderscore, empty, any_isNumeric_head?_maskChars,
    decide_eq_decide.mpr keyword_maskChars_iff]

/-- Behind an underscore there is no reason for another one. -/
theorem needsUnderscore_underscore_cons (cs : List Char) : needsUnderscore ('_' :: cs) = false := by
  have opened : ∀ word ∈ keywords, word.toList.head? ≠ some '_' := by decide
  have noKeyword : String.ofList ('_' :: cs) ∉ keywords := by
    intro keyword
    exact opened _ keyword (by rw [String.toList_ofList, List.head?_cons])
  rw [needsUnderscore, decide_eq_false noKeyword]
  simp [isNumeric_underscore]

theorem needsUnderscore_toList_iff :
    needsUnderscore raw.toList = true ↔
      raw = "" ∨ (∃ c ∈ raw.toList.head?, Text.isNumeric c = true) ∨ raw ∈ keywords := by
  simp [needsUnderscore, Option.any_eq_true, or_assoc]

/-! ## Cleaning -/

theorem packageChars_eq (cs : List Char) :
    packageChars cs = if needsUnderscore cs then '_' :: maskChars cs else maskChars cs := by
  rw [packageChars, needsUnderscore_maskChars]

theorem packageChars_packageChars (cs : List Char) :
    packageChars (packageChars cs) = packageChars cs := by
  rw [packageChars_eq cs]
  cases reason : needsUnderscore cs with
  | true =>
      rw [if_pos rfl, packageChars_eq, needsUnderscore_underscore_cons, maskChars_underscore_cons,
        maskChars_maskChars, if_neg Bool.false_ne_true]
  | false =>
      rw [if_neg Bool.false_ne_true, packageChars_eq, needsUnderscore_maskChars, reason,
        maskChars_maskChars, if_neg Bool.false_ne_true]

theorem packageChars_eq_self_iff :
    packageChars cs = cs ↔ needsUnderscore cs = false ∧ ∀ c ∈ cs, isNameChar c = true := by
  rw [packageChars_eq]
  cases reason : needsUnderscore cs with
  | true =>
      have longer : '_' :: maskChars cs ≠ cs := by
        intro same
        have lengths := congrArg List.length same
        simp [maskChars] at lengths
      rw [if_pos rfl]
      exact iff_of_false longer fun both => Bool.false_ne_true both.1.symm
  | false =>
      rw [if_neg Bool.false_ne_true, maskChars_eq_self_iff]
      exact (and_iff_right rfl).symm

theorem clean_iff : Clean raw ↔
    needsUnderscore raw.toList = false ∧ ∀ c ∈ raw.toList, isNameChar c = true := by
  rw [← Bool.not_eq_true, needsUnderscore_toList_iff]
  constructor
  · rintro ⟨nonempty, chars, opening, free⟩
    refine ⟨?_, fun c member => isNameChar_iff.mpr (chars c member)⟩
    rintro (empty | ⟨c, first, numeric⟩ | keyword)
    · exact nonempty empty
    · rw [opening c first] at numeric
      contradiction
    · exact free keyword
  · rintro ⟨noReason, kept⟩
    rcases not_or.mp noReason with ⟨nonempty, others⟩
    rcases not_or.mp others with ⟨noNumber, free⟩
    refine ⟨nonempty, fun c member => isNameChar_iff.mp (kept c member), ?_, free⟩
    intro c first
    exact Bool.eq_false_iff.mpr fun numeric => noNumber ⟨c, first, numeric⟩

/-- Cleaning leaves exactly the clean names as they are. -/
theorem packageName_eq_self_iff : packageName raw = raw ↔ Clean raw := by
  rw [← String.toList_inj, toList_packageName, packageChars_eq_self_iff, clean_iff]

theorem packageName_packageName (raw : String) :
    packageName (packageName raw) = packageName raw := by
  rw [← String.toList_inj]
  simp only [toList_packageName, packageChars_packageChars]

/-- What cleaning makes of a name is clean. -/
theorem clean_packageName (raw : String) : Clean (packageName raw) :=
  packageName_eq_self_iff.mp (packageName_packageName raw)

/-- A cleaned name is the mask of the name behind an underscore or nothing. -/
theorem exists_front_packageName_eq (raw : String) :
    ∃ front, (packageName raw).toList = front ++ maskChars raw.toList ∧
      (front = [] ∨ front = ['_']) ∧
      (front = ['_'] ↔
        raw = "" ∨ (∃ c ∈ raw.toList.head?, Text.isNumeric c = true) ∨ raw ∈ keywords) := by
  rw [← needsUnderscore_toList_iff, toList_packageName, packageChars_eq]
  cases needsUnderscore raw.toList with
  | true => exact ⟨['_'], rfl, .inr rfl, iff_of_true rfl rfl⟩
  | false => exact ⟨[], rfl, .inl rfl, iff_of_false (List.cons_ne_nil _ _).symm Bool.false_ne_true⟩

/-- Cleaning a cleaned name changes nothing, and the names that it leaves as they are are the clean
ones. Of any name it keeps the alphanumeric characters and underscores at their places and puts an
underscore at every other, with one more underscore in front exactly if the name is empty, begins
with a numeric character or is a keyword. -/
theorem packageName_projection (raw : String) :
    packageName (packageName raw) = packageName raw ∧
    (packageName raw = raw ↔ Clean raw) ∧
    ∃ front, (packageName raw).toList = front ++ raw.toList.map (fun c =>
        if Text.isAlphanumeric c = true ∨ c = '_' then c else '_') ∧
      (front = [] ∨ front = ['_']) ∧
      (front = ['_'] ↔
        raw = "" ∨ (∃ c ∈ raw.toList.head?, Text.isNumeric c = true) ∨ raw ∈ keywords) := by
  have mask : maskChars raw.toList = raw.toList.map fun c =>
      if Text.isAlphanumeric c = true ∨ c = '_' then c else '_' := by
    simp only [maskChars, isNameChar_iff]
  rw [← mask]
  exact ⟨packageName_packageName raw, packageName_eq_self_iff, exists_front_packageName_eq raw⟩

-- A letter number is kept, but not in front.
example : packageName "ⅷ-go" = "_ⅷ_go" ∧ packageName "func" = "_func" := by decide +kernel

end RpcStubs.Go
