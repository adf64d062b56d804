import RpcStubs.Proofs.Options.Word
import RpcStubs.Proofs.Text.Cut

/-!
# Pieces of an option text

A piece with a key, an equals sign and a value that is read for the key tells the word of an option.
A good piece tells one word, and puts it in place of the word that the option had
(`apply_eq_ok_iff`). Every other piece has one fault, whatever the options are that it is applied to
(`apply_eq_error_iff`).
-/

namespace RpcStubs.Options

namespace Key

variable {key : Key} {written : String}

theorem read?_eq_some_iff : read? written = some key ↔ key.word = written := by
  constructor
  · intro found
    have same := List.find?_some (p := fun key : Key => key.word == written) found
    exact eq_of_beq same
  · rintro rfl
    exact read?_word key

theorem read?_eq_none_iff : read? written = none ↔ ∀ key : Key, key.word ≠ written := by
  rw [Option.eq_none_iff_forall_ne_some]
  exact forall_congr' fun key => not_congr read?_eq_some_iff

theorem word_injective : Function.Injective word := by
  intro first second same
  have found := read?_eq_some_iff.mpr same
  rw [read?_word] at found
  exact (Option.some.inj found).symm

end Key

/-! ## What a piece tells -/

/-- A piece has an equals sign, with a key before the first one and a value behind it. Blanks around
the two do not count. -/
def Splits (piece : List Char) (key value : String) : Prop :=
  ∃ before after, piece = before ++ '=' :: after ∧ '=' ∉ before ∧
    key = String.ofList (Text.trimChars before) ∧ value = String.ofList (Text.trimChars after)

/-- A piece tells the word that an option is to have. -/
def Tells (piece : List Char) (key : Key) (word : String) : Prop :=
  ∃ value, Splits piece key.word value ∧ value ≠ "" ∧ key.Reads value word

/-- A piece that tells the word of an option. -/
def Good (piece : List Char) : Prop :=
  ∃ key word, Tells piece key word

/-- What is wrong with a piece. A missing value is a fault of its own, whatever the key. -/
inductive Fault (piece : List Char) : OptionError → Prop where
  | noEquals (absent : '=' ∉ piece) : Fault piece (.malformed (String.ofList piece))
  | noValue {written : String} (splits : Splits piece written "") :
      Fault piece (.malformed (String.ofList piece))
  | noKey {written value : String} (splits : Splits piece written value) (given : value ≠ "")
      (unknown : ∀ key : Key, key.word ≠ written) : Fault piece (.unknown written)
  | noWord {key : Key} {value : String} {setting : Setting} (splits : Splits piece key.word value)
      (given : value ≠ "") (refuses : key.Refuses value setting) :
      Fault piece (.invalid setting value)

variable {piece : List Char} {written value word : String} {key : Key}

theorem keyAndValue?_eq_some_iff :
    keyAndValue? piece = some (written, value) ↔ Splits piece written value := by
  rw [keyAndValue?, Option.map_eq_some_iff]
  constructor
  · rintro ⟨⟨before, after⟩, cut, sides⟩
    rcases Text.cutAtFirst?_eq_some_iff.mp cut with ⟨whole, absent⟩
    cases sides
    exact ⟨before, after, whole, absent, rfl, rfl⟩
  · rintro ⟨before, after, whole, absent, rfl, rfl⟩
    exact ⟨(before, after), Text.cutAtFirst?_eq_some_iff.mpr ⟨whole, absent⟩, rfl⟩

instance (piece : List Char) (written value : String) : Decidable (Splits piece written value) :=
  decidable_of_iff _ keyAndValue?_eq_some_iff

theorem keyAndValue?_eq_none_iff : keyAndValue? piece = none ↔ '=' ∉ piece := by
  rw [keyAndValue?, Option.map_eq_none_iff]
  exact Text.cutAtFirst?_eq_none_iff

theorem Splits.unique {otherWritten otherValue : String} (splits : Splits piece written value)
    (otherSplits : Splits piece otherWritten otherValue) :
    written = otherWritten ∧ value = otherValue := by
  have found := keyAndValue?_eq_some_iff.mpr splits
  rw [keyAndValue?_eq_some_iff.mpr otherSplits] at found
  cases found
  exact ⟨rfl, rfl⟩

/-- A piece tells the word of one option. -/
theorem Tells.unique {otherKey : Key} {other : String} (tells : Tells piece key word)
    (otherTells : Tells piece otherKey other) : key = otherKey ∧ word = other := by
  rcases tells with ⟨value, splits, _, reads⟩
  rcases otherTells with ⟨otherValue, otherSplits, _, otherReads⟩
  rcases splits.unique otherSplits with ⟨sameKey, rfl⟩
  obtain rfl := Key.word_injective sameKey
  exact ⟨rfl, reads.unique otherReads⟩

/-! ## What a piece does -/

variable {options after : Options}

/-- A piece with a key and a value sets the key to the value. -/
theorem apply_of_key (options : Options) (splits : Splits piece key.word value)
    (given : value ≠ "") : options.apply piece = options.set key value := by
  simp [apply, keyAndValue?_eq_some_iff.mpr splits, given, Key.read?_word]

theorem apply_of_fault (options : Options) {error : OptionError} (fault : Fault piece error) :
    options.apply piece = .error error := by
  cases fault with
  | noEquals absent => simp [apply, keyAndValue?_eq_none_iff.mpr absent]
  | noValue splits => simp [apply, keyAndValue?_eq_some_iff.mpr splits]
  | noKey splits given unknown =>
      simp [apply, keyAndValue?_eq_some_iff.mpr splits, given, Key.read?_eq_none_iff.mpr unknown]
  | noWord splits given refuses =>
      rw [apply_of_key options splits given, set_of_refuses options refuses]

theorem apply_of_tells (options : Options) (tells : Tells piece key word) :
    ∃ after, options.apply piece = .ok after ∧
      after.word = Function.update options.word key word := by
  rcases tells with ⟨value, splits, given, reads⟩
  rw [apply_of_key options splits given]
  exact set_of_reads options reads

/-- A piece is good or has a fault. -/
theorem good_or_fault (piece : List Char) : Good piece ∨ ∃ error, Fault piece error := by
  cases found : keyAndValue? piece with
  | none => exact .inr ⟨_, .noEquals (keyAndValue?_eq_none_iff.mp found)⟩
  | some sides =>
      rcases sides with ⟨written, value⟩
      have splits := keyAndValue?_eq_some_iff.mp found
      by_cases given : value = ""
      · subst given
        exact .inr ⟨_, .noValue splits⟩
      · cases known : Key.read? written with
        | none => exact .inr ⟨_, .noKey splits given (Key.read?_eq_none_iff.mp known)⟩
        | some key =>
            obtain rfl := Key.read?_eq_some_iff.mp known
            rcases key.reads_or_refuses value with ⟨word, reads⟩ | ⟨setting, refuses⟩
            · exact .inl ⟨key, word, value, splits, given, reads⟩
            · exact .inr ⟨_, .noWord splits given refuses⟩

/-- A piece puts the word that it tells in its place, and changes nothing else. -/
theorem apply_eq_ok_iff :
    options.apply piece = .ok after ↔
      ∃ key word, Tells piece key word ∧ after.word = Function.update options.word key word := by
  constructor
  · intro done
    rcases good_or_fault piece with ⟨key, word, tells⟩ | ⟨error, fault⟩
    · rcases apply_of_tells options tells with ⟨made, makes, words⟩
      obtain rfl : made = after := Except.ok.inj (makes.symm.trans done)
      exact ⟨key, word, tells, words⟩
    · rw [apply_of_fault options fault] at done
      cases done
  · rintro ⟨key, word, tells, words⟩
    rcases apply_of_tells options tells with ⟨made, makes, madeWords⟩
    rw [makes, word_injective (madeWords.trans words.symm)]

/-- A piece fails with its fault. -/
theorem apply_eq_error_iff {error : OptionError} :
    options.apply piece = .error error ↔ Fault piece error := by
  constructor
  · intro failed
    rcases good_or_fault piece with ⟨key, word, tells⟩ | ⟨fault, isFault⟩
    · rcases apply_of_tells options tells with ⟨made, makes, _⟩
      rw [makes] at failed
      cases failed
    · rw [apply_of_fault options isFault] at failed
      cases failed
      exact isFault
  · exact apply_of_fault options

/-- Pieces that tell the words of different options can be applied in either order. -/
theorem apply_comm {first second : List Char} {firstKey secondKey : Key}
    {firstWord secondWord : String} (options : Options) (tells : Tells first firstKey firstWord)
    (alsoTells : Tells second secondKey secondWord) (different : firstKey ≠ secondKey) :
    (options.apply first >>= fun middle => middle.apply second) =
      (options.apply second >>= fun middle => middle.apply first) := by
  rcases apply_of_tells options tells with ⟨middle, makes, words⟩
  rcases apply_of_tells middle alsoTells with ⟨after, goesOn, wordsAfter⟩
  rcases apply_of_tells options alsoTells with ⟨otherMiddle, otherMakes, otherWords⟩
  rcases apply_of_tells otherMiddle tells with ⟨otherAfter, otherGoesOn, otherWordsAfter⟩
  have same : after = otherAfter := by
    apply word_injective
    rw [wordsAfter, words, otherWordsAfter, otherWords, Function.update_comm different]
  rw [makes, otherMakes]
  calc
    middle.apply second = .ok after := goesOn
    _ = .ok otherAfter := congrArg Except.ok same
    _ = otherMiddle.apply first := otherGoesOn.symm

end RpcStubs.Options
