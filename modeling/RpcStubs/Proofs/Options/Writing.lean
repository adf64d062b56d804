import Mathlib.Data.List.Perm.Basic
import RpcStubs.Proofs.Options.Outcome
import RpcStubs.Proofs.Text.Trim

/-!
# Writing options

Options are written as one part for each key, in any order and with any blanks around keys and
words, and are read back from there. No text puts a comma, a blank at an end or nothing at all into
a word, so the options that are read from some text are those whose free words are without these
(`parse_writtenAs`).
-/

namespace RpcStubs.Options

open Text (Blanks Tight)

/-- A word that a text can tell: not empty, with no blank at its ends, and without a comma. -/
def Speakable (word : String) : Prop :=
  word ≠ "" ∧ Tight word.toList ∧ ',' ∉ word.toList

instance (word : String) : Decidable (Speakable word) :=
  inferInstanceAs (Decidable (_ ∧ _ ∧ _))

/-- Options whose root, network and plugin can be told. -/
structure Expressible (options : Options) : Prop where
  root : Speakable options.root
  network : Speakable options.network
  plugin : Speakable options.plugin

/-- A part of a text is a key, an equals sign and a word, with any blanks around key and word. -/
def Key.WrittenAs (key : Key) (word : String) (part : List Char) : Prop :=
  ∃ beforeKey afterKey beforeWord afterWord,
    Blanks beforeKey ∧ Blanks afterKey ∧ Blanks beforeWord ∧ Blanks afterWord ∧
      part = beforeKey ++ key.word.toList ++ afterKey ++
        '=' :: (beforeWord ++ word.toList ++ afterWord)

/-- A text is one part for each key, in some order, with commas between. -/
def WrittenAs (options : Options) (text : String) : Prop :=
  ∃ (keys : List Key) (part : Key → List Char), keys.Perm Key.all ∧
    (∀ key : Key, key.WrittenAs (options.word key) (part key)) ∧
    text.toList = [','].intercalate (keys.map part)

/-! ## Words -/

theorem Speakable.toList_ne_nil {word : String} (speakable : Speakable word) :
    word.toList ≠ [] := by
  intro empty
  exact speakable.1 (String.toList_inj.mp empty)

theorem Key.speakable_word (key : Key) : Speakable key.word := by
  cases key <;> decide

theorem Key.equals_not_mem_word (key : Key) : '=' ∉ key.word.toList := by
  cases key <;> decide

/-- Each word of expressible options can be told, as the listed words all can. -/
theorem Expressible.speakable {options : Options} (expressible : options.Expressible) (key : Key) :
    Speakable (options.word key) := by
  cases key with
  | root => exact expressible.root
  | network => exact expressible.network
  | plugin => exact expressible.plugin
  | serializeType =>
      rw [word]
      cases options.serializeType <;> decide
  | failMode =>
      rw [word]
      cases options.failMode <;> decide
  | selectMode =>
      rw [word]
      cases options.selectMode <;> decide

theorem not_mem_of_blanks {c : Char} (visible : Text.isBlank c = false) {cs : List Char}
    (blanks : Blanks cs) : c ∉ cs := by
  intro member
  rw [blanks c member] at visible
  cases visible

/-! ## One part -/

section Part

variable {key : Key} {word : String} {part : List Char}

theorem comma_not_mem_of_writtenAs (written : key.WrittenAs word part)
    (speakable : Speakable word) : ',' ∉ part := by
  have visible : Text.isBlank ',' = false := by decide
  rcases written with
    ⟨beforeKey, afterKey, beforeWord, afterWord, blank₁, blank₂, blank₃, blank₄, rfl⟩
  simp only [List.mem_append, List.mem_cons, not_or]
  exact ⟨⟨⟨not_mem_of_blanks visible blank₁, key.speakable_word.2.2⟩,
      not_mem_of_blanks visible blank₂⟩, by decide,
    ⟨not_mem_of_blanks visible blank₃, speakable.2.2⟩, not_mem_of_blanks visible blank₄⟩

/-- Trimming a part takes off the blanks in front of the key and behind the word. -/
theorem exists_trimChars_part_eq (written : key.WrittenAs word part)
    (speakable : Speakable word) :
    ∃ afterKey beforeWord, Blanks afterKey ∧ Blanks beforeWord ∧
      Text.trimChars part =
        key.word.toList ++ afterKey ++ '=' :: (beforeWord ++ word.toList) := by
  rcases written with
    ⟨beforeKey, afterKey, beforeWord, afterWord, blank₁, blank₂, blank₃, blank₄, rfl⟩
  refine ⟨afterKey, beforeWord, blank₂, blank₃, ?_⟩
  have tight : Tight (key.word.toList ++ (afterKey ++ '=' :: beforeWord) ++ word.toList) :=
    key.speakable_word.2.1.append key.speakable_word.toList_ne_nil _ speakable.2.1
      speakable.toList_ne_nil
  have trimmed := Text.trimChars_append blank₁ tight blank₄
  simpa [List.append_assoc] using trimmed

/-- A trimmed part tells the word that is written in it. -/
theorem tells_trimChars_part (written : key.WrittenAs word part) (speakable : Speakable word)
    (reads : key.Reads word word) : Tells (Text.trimChars part) key word := by
  rcases exists_trimChars_part_eq written speakable with
    ⟨afterKey, beforeWord, blankAfter, blankBefore, trimmed⟩
  refine ⟨word, ⟨key.word.toList ++ afterKey, beforeWord ++ word.toList, trimmed, ?_, ?_, ?_⟩,
    speakable.1, reads⟩
  · rw [List.mem_append, not_or]
    exact ⟨key.equals_not_mem_word, not_mem_of_blanks (by decide) blankAfter⟩
  · have core := Text.trimChars_append Text.blanks_nil key.speakable_word.2.1 blankAfter
    rw [List.nil_append] at core
    rw [core, String.ofList_toList]
  · have core := Text.trimChars_append blankBefore speakable.2.1 Text.blanks_nil
    rw [List.append_nil] at core
    rw [core, String.ofList_toList]

end Part

/-! ## Reading back -/

variable {options : Options} {text : String}

/-- The pieces of a written text are its parts without the blanks at their ends. -/
theorem pieces_eq_of_parts {parts : List (List Char)} (present : parts ≠ [])
    (apart : ∀ part ∈ parts, ',' ∉ part) (filled : ∀ part ∈ parts, Text.trimChars part ≠ [])
    (whole : text.toList = [','].intercalate parts) :
    pieces text = parts.map Text.trimChars := by
  have cut : Text.pieces ',' text.toList = parts :=
    Text.pieces_eq_iff.mpr ⟨present, apart, whole.symm⟩
  rw [pieces, cut, List.filter_eq_self]
  intro piece member
  rcases List.mem_map.mp member with ⟨part, inParts, rfl⟩
  simpa using filled part inParts

/-- Pieces that tell the words of some options, and of each option at least once, give these
options. -/
theorem foldlM_of_tells (start : Options) {given : List (List Char)}
    (each : ∀ piece ∈ given, ∃ key, Tells piece key (options.word key))
    (every : ∀ key, ∃ piece ∈ given, Tells piece key (options.word key)) :
    given.foldlM apply start = .ok options := by
  have good : ∀ piece ∈ given, Good piece := by
    intro piece member
    rcases each piece member with ⟨key, tells⟩
    exact ⟨key, _, tells⟩
  rcases exists_foldlM_eq_ok start good with ⟨after, done⟩
  have same : after.word = options.word := by
    funext key
    rcases leaves_of_foldlM done key with ⟨front, piece, behind, rfl, tells, _⟩ | ⟨silent, _⟩
    · rcases each piece (by simp) with ⟨other, otherTells⟩
      rcases tells.unique otherTells with ⟨rfl, told⟩
      exact told
    · rcases every key with ⟨piece, member, tells⟩
      exact absurd tells (silent piece member _)
  rw [done, word_injective same]

/-- Expressible options are read back from each text that they are written as. -/
theorem parse_of_writtenAs (expressible : options.Expressible) (written : options.WrittenAs text) :
    parse text = .ok options := by
  rcases written with ⟨keys, part, order, each, whole⟩
  have listed : ∀ key, key ∈ keys := fun key => order.mem_iff.mpr (Key.mem_all key)
  have tells : ∀ key, Tells (Text.trimChars (part key)) key (options.word key) := fun key =>
    tells_trimChars_part (each key) (expressible.speakable key) (Key.reads_word options key)
  have apart : ∀ written ∈ keys.map part, ',' ∉ written := by
    rw [List.forall_mem_map]
    exact fun key _ => comma_not_mem_of_writtenAs (each key) (expressible.speakable key)
  have filled : ∀ written ∈ keys.map part, Text.trimChars written ≠ [] := by
    rw [List.forall_mem_map]
    intro key _ empty
    rcases tells key with ⟨_, ⟨before, after, split, _⟩, _⟩
    rw [empty] at split
    exact List.append_ne_nil_of_right_ne_nil before (List.cons_ne_nil '=' after) split.symm
  have present : keys.map part ≠ [] := by
    intro empty
    have root := listed .root
    rw [List.map_eq_nil_iff.mp empty] at root
    cases root
  rw [parse, pieces_eq_of_parts present apart filled whole, List.map_map]
  apply foldlM_of_tells
  · rw [List.forall_mem_map]
    exact fun key _ => ⟨key, tells key⟩
  · intro key
    exact ⟨_, List.mem_map_of_mem (listed key), tells key⟩

/-- All options can be written as some text: the keys as they are listed, without blanks. -/
theorem exists_writtenAs (options : Options) : ∃ text, options.WrittenAs text := by
  refine ⟨String.ofList ([','].intercalate (Key.all.map fun key =>
    key.word.toList ++ '=' :: (options.word key).toList)), Key.all, _, .refl _, ?_,
    String.toList_ofList⟩
  intro key
  refine ⟨[], [], [], [], Text.blanks_nil, Text.blanks_nil, Text.blanks_nil, Text.blanks_nil, ?_⟩
  simp

/-! ## What can be read -/

theorem comma_not_mem_of_mem_pieces {piece : List Char} (member : piece ∈ pieces text) :
    ',' ∉ piece := by
  rcases List.mem_map.mp (List.mem_filter.mp member).1 with ⟨part, inText, rfl⟩
  exact fun inPiece => Text.not_mem_of_mem_pieces inText (Text.mem_of_mem_trimChars inPiece)

/-- What a piece tells for a key that takes any word has no blank at its ends, and it is part of the
piece. -/
theorem speakable_of_tells {piece : List Char} {key : Key} {word : String}
    (apart : ',' ∉ piece) (free : key.choice? = none) (tells : Tells piece key word) :
    Speakable word := by
  rcases tells with ⟨value, ⟨before, after, rfl, _, _, trimmed⟩, given, reads⟩
  have itself : word = value := by simpa [Key.Reads, free] using reads
  have chars : word.toList = Text.trimChars after := by
    rw [itself, trimmed, String.toList_ofList]
  refine ⟨itself ▸ given, ?_, ?_⟩
  · rw [chars]
    exact Text.tight_trimChars after
  · rw [chars]
    intro inValue
    apply apart
    exact List.mem_append_right before (List.mem_cons_of_mem _ (Text.mem_of_mem_trimChars inValue))

/-- A free word that is read from a text can be told in a text, and so can its default. -/
theorem speakable_word_of_parse (done : parse text = .ok options) {key : Key}
    (free : key.choice? = none) : Speakable (options.word key) := by
  rcases leaves_of_foldlM done key with ⟨front, piece, behind, split, tells, _⟩ | ⟨_, default⟩
  · have member : piece ∈ pieces text := by simp [split]
    exact speakable_of_tells (comma_not_mem_of_mem_pieces member) free tells
  · rw [default]
    cases key <;> decide

/-- Options whose free words can be told are written as texts, and read back from each of these;
all options that are read from a text are such. -/
theorem parse_writtenAs (options : Options) :
    (options.Expressible →
      (∃ text, options.WrittenAs text) ∧
        ∀ text, options.WrittenAs text → parse text = .ok options) ∧
      ∀ text, parse text = .ok options → options.Expressible := by
  constructor
  · intro expressible
    exact ⟨exists_writtenAs options, fun text => parse_of_writtenAs expressible⟩
  · intro text done
    have free : ∀ key : Key, key.choice? = none → Speakable (options.word key) := fun key =>
      speakable_word_of_parse done
    exact ⟨free .root rfl, free .network rfl, free .plugin rfl⟩

/-- Options with equals signs in their words are read back from a text in another order, with tabs
and other blanks in it. -/
theorem parse_writtenAs_of_scattered_blanks :
    let options : Options :=
      { root := "host/a=b", network := "quic=", serializeType := .msgPack, failMode := .over
        selectMode := .closest, plugin := "=x y" }
    let text := " plugins\t=\u00a0=x y, select_mode\t=\u00a0Closest, rpcx_root\t=\u00a0host/a=b," ++
      " fail_mode\t=\u00a0Failover, serialize\t=\u00a0MsgPack, network\t=\u00a0quic="
    options.Expressible ∧ options.WrittenAs text ∧ parse text = .ok options := by
  intro options text
  have expressible : options.Expressible := ⟨by decide, by decide, by decide⟩
  have written : options.WrittenAs text := by
    refine ⟨[.plugin, .selectMode, .root, .failMode, .serializeType, .network],
      fun key => [' '] ++ key.word.toList ++ ['\t'] ++
        '=' :: (['\u00a0'] ++ (options.word key).toList ++ []), by decide, ?_, by decide +kernel⟩
    intro key
    exact ⟨_, _, _, _, by decide, by decide, by decide, Text.blanks_nil, rfl⟩
  exact ⟨expressible, written, ((parse_writtenAs options).1 expressible).2 text written⟩

end RpcStubs.Options
