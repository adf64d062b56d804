import Mathlib.Data.List.Nodup
import Mathlib.Logic.Function.Basic
import RpcStubs.Options.Basic

/-!
# The words of options

Every option can be told by a word: three options are texts, and the others are picked from lists of
words. The words say all there is to options (`word_injective`). A value that is written for a key
is read as one word at most (`Key.Reads.unique`). Setting the key changes this word alone
(`set_of_reads`); it fails where no word is read, which is so only for a key with a list of words
(`set_of_refuses`, `Key.reads_or_refuses`).
-/

namespace RpcStubs

namespace Choice

/-! ## Words of a setting -/

/-- The characters of a text with the ASCII letters in lower case. -/
def lowered (text : String) : List Char :=
  text.toList.map Char.toLower

theorem sameWord_iff {first second : String} :
    sameWord first second = true ↔ lowered first = lowered second :=
  beq_iff_eq

/-- The values of a setting are all listed, and the words of any two differ in more than the case of
letters. -/
class Distinct (α : Type) [Choice α] : Prop where
  mem_all (value : α) : value ∈ (all : List α)
  nodup_words : ((all : List α).map fun value => lowered (word value)).Nodup

instance : Distinct SerializeType where
  mem_all value := by cases value <;> decide
  nodup_words := by decide

instance : Distinct FailMode where
  mem_all value := by cases value <;> decide
  nodup_words := by decide

instance : Distinct SelectMode where
  mem_all value := by cases value <;> decide
  nodup_words := by decide

section Distinct

variable {α : Type} [Choice α] [Distinct α] {written : String} {value : α}

theorem eq_of_lowered_eq {first second : α}
    (same : lowered (word first) = lowered (word second)) : first = second :=
  List.inj_on_of_nodup_map Distinct.nodup_words (Distinct.mem_all first) (Distinct.mem_all second)
    same

theorem word_injective : Function.Injective (word : α → String) := by
  intro first second same
  exact eq_of_lowered_eq (congrArg lowered same)

/-- A value is read from its word in any case of the letters. -/
theorem read_of_sameWord (same : sameWord (word value) written = true) :
    read written = .ok value := by
  cases found : (read? written : Option α) with
  | none =>
      have differs := List.find?_eq_none.mp found value (Distinct.mem_all value)
      exact absurd same differs
  | some first =>
      have firstSame := List.find?_some (p := fun value => sameWord (word value) written) found
      have equal := (sameWord_iff.mp firstSame).trans (sameWord_iff.mp same).symm
      rw [read, found, eq_of_lowered_eq equal]

omit [Distinct α] in
/-- Nothing is read from what is no word of the setting. -/
theorem read_of_no_word (differ : ∀ value : α, sameWord (word value) written = false) :
    (read written : Except OptionError α) = .error (.invalid (setting α) written) := by
  have notFound : (read? written : Option α) = none := by
    rw [read?, List.find?_eq_none]
    intro value _
    rw [differ value]
    exact Bool.false_ne_true
  rw [read, notFound]

/-- A setting with the words of its values. -/
def listed (α : Type) [Choice α] : Setting × List String :=
  (setting α, (all : List α).map word)

theorem mem_listed {word : String} :
    word ∈ (listed α).2 ↔ ∃ value : α, Choice.word value = word := by
  rw [listed, List.mem_map]
  exact exists_congr fun value => and_iff_right (Distinct.mem_all value)

end Distinct

end Choice

namespace Options

/-! ## Words of options -/

/-- The word that an option is told by. -/
def word (options : Options) : Key → String
  | .root => options.root
  | .network => options.network
  | .serializeType => Choice.word options.serializeType
  | .failMode => Choice.word options.failMode
  | .selectMode => Choice.word options.selectMode
  | .plugin => options.plugin

/-- Options are told apart by their words. -/
theorem word_injective : Function.Injective word := by
  intro first second same
  have serializeType := Choice.word_injective (congrFun same .serializeType)
  have failMode := Choice.word_injective (congrFun same .failMode)
  have selectMode := Choice.word_injective (congrFun same .selectMode)
  cases first
  cases second
  rw [Options.mk.injEq]
  exact ⟨congrFun same .root, congrFun same .network, serializeType, failMode, selectMode,
    congrFun same .plugin⟩

/-- The setting that the words of a key are listed for. The other keys take any word. -/
def Key.choice? : Key → Option (Setting × List String)
  | .root | .network | .plugin => none
  | .serializeType => some (Choice.listed SerializeType)
  | .failMode => some (Choice.listed FailMode)
  | .selectMode => some (Choice.listed SelectMode)

/-- A value written for a key is read as a word: a listed one if it is this word in some ASCII case,
or the value itself where any word will do. -/
def Key.Reads (key : Key) (value word : String) : Prop :=
  match key.choice? with
  | none => word = value
  | some choice => word ∈ choice.2 ∧ Choice.sameWord word value = true

/-- What is written for a key is none of the words listed for its setting. -/
def Key.Refuses (key : Key) (value : String) (setting : Setting) : Prop :=
  ∃ words, key.choice? = some (setting, words) ∧
    ∀ word ∈ words, Choice.sameWord word value = false

namespace Key

variable {key : Key} {value word : String}

theorem reads_or_refuses (key : Key) (value : String) :
    (∃ word, key.Reads value word) ∨ ∃ setting, key.Refuses value setting := by
  cases listed : key.choice? with
  | none => exact .inl ⟨value, by simp [Reads, listed]⟩
  | some choice =>
      rcases choice with ⟨setting, words⟩
      by_cases found : ∃ word ∈ words, Choice.sameWord word value = true
      · rcases found with ⟨word, member, same⟩
        exact .inl ⟨word, by simp [Reads, listed, member, same]⟩
      · refine .inr ⟨setting, words, listed, ?_⟩
        intro word member
        exact Bool.eq_false_iff.mpr fun same => found ⟨word, member, same⟩

/-- The words listed for a key differ in more than the case of letters. -/
theorem eq_of_mem_choice? {choice : Setting × List String} (listed : key.choice? = some choice)
    {first second : String} (firstListed : first ∈ choice.2) (secondListed : second ∈ choice.2)
    (same : Choice.lowered first = Choice.lowered second) : first = second := by
  cases key <;> cases listed
  all_goals
    rcases Choice.mem_listed.mp firstListed with ⟨firstValue, rfl⟩
    rcases Choice.mem_listed.mp secondListed with ⟨secondValue, rfl⟩
    rw [Choice.eq_of_lowered_eq same]

theorem Reads.unique {other : String} (reads : key.Reads value word)
    (otherReads : key.Reads value other) : word = other := by
  cases listed : key.choice? with
  | none =>
      simp only [Reads, listed] at reads otherReads
      rw [reads, otherReads]
  | some choice =>
      simp only [Reads, listed] at reads otherReads
      have same := (Choice.sameWord_iff.mp reads.2).trans (Choice.sameWord_iff.mp otherReads.2).symm
      exact eq_of_mem_choice? listed reads.1 otherReads.1 same

/-- The word of an option is read as itself. -/
theorem reads_word (options : Options) (key : Key) :
    key.Reads (options.word key) (options.word key) := by
  cases key with
  | root | network | plugin => exact rfl
  | serializeType | failMode | selectMode =>
      exact ⟨Choice.mem_listed.mpr ⟨_, rfl⟩, Choice.sameWord_iff.mpr rfl⟩

end Key

/-! ## Setting a key -/

variable {key : Key} {value word : String}

/-- A value that is read as a word puts this word under the key, and leaves the others. -/
theorem set_of_reads (options : Options) (reads : key.Reads value word) :
    ∃ after, options.set key value = .ok after ∧
      after.word = Function.update options.word key word := by
  cases key with
  | root | network | plugin =>
      obtain rfl : word = value := reads
      refine ⟨_, rfl, funext fun other => ?_⟩
      cases other <;> rfl
  | serializeType | failMode | selectMode =>
      rcases reads with ⟨member, same⟩
      rcases Choice.mem_listed.mp member with ⟨choice, rfl⟩
      refine ⟨_, by rw [set, Choice.read_of_sameWord same]; rfl, funext fun other => ?_⟩
      cases other <;> rfl

theorem set_of_refuses (options : Options) {setting : Setting}
    (refuses : key.Refuses value setting) :
    options.set key value = .error (.invalid setting value) := by
  rcases refuses with ⟨words, listed, differ⟩
  cases key <;> cases listed
  all_goals
    rw [set, Choice.read_of_no_word fun choice => differ _ (Choice.mem_listed.mpr ⟨choice, rfl⟩)]
    rfl

end Options

end RpcStubs
