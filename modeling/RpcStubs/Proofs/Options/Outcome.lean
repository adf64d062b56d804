import RpcStubs.Proofs.Fallible
import RpcStubs.Proofs.Options.Piece

/-!
# The outcome of reading options

Options are read piece by piece. All pieces have to be good; then each option has the word that the
last piece with its key tells, or its default. Otherwise the fault of the first piece that is not
good is reported (`parse_outcome`).
-/

namespace RpcStubs.Options

/-- The pieces of a text: what stands between its commas, without the blanks around, as far as there
is anything left. -/
def HasPieces (text : String) (given : List (List Char)) : Prop :=
  ∃ parts, parts ≠ [] ∧ (∀ part ∈ parts, ',' ∉ part) ∧ [','].intercalate parts = text.toList ∧
    given = (parts.map Text.trimChars).filter fun piece => !piece.isEmpty

theorem hasPieces_pieces (text : String) : HasPieces text (pieces text) := by
  rcases Text.pieces_eq_iff.mp (rfl : Text.pieces ',' text.toList = _) with ⟨present, apart, whole⟩
  exact ⟨_, present, apart, whole, rfl⟩

/-- The word that some pieces leave to an option: what the last piece with its key tells, or the
word it had if no piece has its key. -/
def Leaves (had : String) (given : List (List Char)) (key : Key) (word : String) : Prop :=
  (∃ front piece behind, given = front ++ piece :: behind ∧ Tells piece key word ∧
      ∀ later ∈ behind, ∀ other, ¬ Tells later key other) ∨
    (∀ piece ∈ given, ∀ other, ¬ Tells piece key other) ∧ word = had

/-- Pieces in another order. Neighbours may change places if they have different keys. -/
inductive Reordered (given : List (List Char)) : List (List Char) → Prop where
  | same : Reordered given given
  | swap {front behind : List (List Char)} {first second : List Char}
      (reordered : Reordered given (front ++ first :: second :: behind))
      (different : ∀ key word other, Tells first key word → ¬ Tells second key other) :
      Reordered given (front ++ second :: first :: behind)

variable {options middle after : Options} {given : List (List Char)}

/-! ## Good pieces -/

/-- Good pieces can be applied one after the other. -/
theorem exists_foldlM_eq_ok (options : Options) (good : ∀ piece ∈ given, Good piece) :
    ∃ after, given.foldlM apply options = .ok after := by
  induction given generalizing options with
  | nil => exact ⟨options, rfl⟩
  | cons piece rest ih =>
      rcases List.forall_mem_cons.mp good with ⟨⟨key, word, tells⟩, restGood⟩
      rcases apply_of_tells options tells with ⟨middle, makes, _⟩
      rcases ih middle restGood with ⟨after, goesOn⟩
      refine ⟨after, ?_⟩
      rw [List.foldlM_cons, makes]
      exact goesOn

theorem forall_good_of_foldlM (done : given.foldlM apply options = .ok after) :
    ∀ piece ∈ given, Good piece := by
  induction given generalizing options with
  | nil => exact List.forall_mem_nil _
  | cons piece rest ih =>
      rw [List.foldlM_cons] at done
      rcases bind_eq_ok_iff.mp done with ⟨middle, applied, goesOn⟩
      rcases apply_eq_ok_iff.mp applied with ⟨key, word, tells, _⟩
      exact List.forall_mem_cons.mpr ⟨⟨key, word, tells⟩, ih goesOn⟩

/-! ## Words that are left -/

/-- What the pieces behind a first one leave to an option is what they leave with it. -/
theorem Leaves.cons {piece : List Char} {key : Key} {word : String}
    (applied : options.apply piece = .ok middle)
    (leaves : Leaves (middle.word key) given key word) :
    Leaves (options.word key) (piece :: given) key word := by
  rcases leaves with ⟨front, last, behind, rfl, tells, silent⟩ | ⟨silent, rfl⟩
  · exact .inl ⟨piece :: front, last, behind, rfl, tells, silent⟩
  · rcases apply_eq_ok_iff.mp applied with ⟨told, word, tells, words⟩
    by_cases same : key = told
    · subst same
      have put : middle.word key = word := by rw [words, Function.update_self]
      exact .inl ⟨[], piece, given, rfl, put ▸ tells, silent⟩
    · have kept : middle.word key = options.word key := by
        rw [words, Function.update_of_ne same]
      have elsewhere : ∀ other, ¬ Tells piece key other := fun other alsoTells =>
        same (alsoTells.unique tells).1
      exact .inr ⟨List.forall_mem_cons.mpr ⟨elsewhere, silent⟩, kept⟩

/-- Pieces that are applied one after the other leave each option what the last one tells. -/
theorem leaves_of_foldlM (done : given.foldlM apply options = .ok after) (key : Key) :
    Leaves (options.word key) given key (after.word key) := by
  induction given generalizing options with
  | nil =>
      obtain rfl : options = after := Except.ok.inj done
      exact .inr ⟨List.forall_mem_nil _, rfl⟩
  | cons piece rest ih =>
      rw [List.foldlM_cons] at done
      rcases bind_eq_ok_iff.mp done with ⟨middle, applied, goesOn⟩
      exact (ih goesOn).cons applied

/-! ## The first fault -/

/-- Pieces fail with the fault of the first one that has a fault. -/
theorem foldlM_eq_error_iff {error : OptionError} :
    given.foldlM apply options = .error error ↔
      ∃ front piece behind, given = front ++ piece :: behind ∧
        (∀ earlier ∈ front, Good earlier) ∧ Fault piece error := by
  constructor
  · intro failed
    induction given generalizing options with
    | nil => cases failed
    | cons piece rest ih =>
        rw [List.foldlM_cons] at failed
        cases applied : options.apply piece with
        | ok middle =>
            rcases apply_eq_ok_iff.mp applied with ⟨key, word, tells, _⟩
            rw [applied] at failed
            rcases ih failed with ⟨front, faulty, behind, rfl, good, isFault⟩
            have alsoGood := List.forall_mem_cons.mpr ⟨⟨key, word, tells⟩, good⟩
            exact ⟨piece :: front, faulty, behind, rfl, alsoGood, isFault⟩
        | error fault =>
            have isFault := apply_eq_error_iff.mp applied
            rw [applied] at failed
            cases failed
            exact ⟨[], piece, rest, rfl, List.forall_mem_nil _, isFault⟩
  · rintro ⟨front, piece, behind, rfl, good, isFault⟩
    rcases exists_foldlM_eq_ok options good with ⟨middle, makes⟩
    rw [List.foldlM_append, makes]
    change (piece :: behind).foldlM apply middle = .error error
    rw [List.foldlM_cons, apply_of_fault middle isFault]
    rfl

/-! ## Other orders -/

/-- Good pieces in another order come to the same. -/
theorem foldlM_of_reordered {other : List (List Char)} (reordered : Reordered given other)
    (done : given.foldlM apply options = .ok after) : other.foldlM apply options = .ok after := by
  induction reordered with
  | same => exact done
  | @swap front behind first second _ different ih =>
      have good := forall_good_of_foldlM ih
      rcases good first (by simp) with ⟨key, word, tells⟩
      rcases good second (by simp) with ⟨otherKey, otherWord, alsoTells⟩
      have apart : otherKey ≠ key := by
        rintro rfl
        exact different otherKey word otherWord tells alsoTells
      -- Whatever the pieces in front leave, the two behind them may change places.
      rw [List.foldlM_append] at ih ⊢
      rw [← ih]
      refine bind_congr fun middle => ?_
      simp only [List.foldlM_cons, ← bind_assoc]
      rw [apply_comm middle alsoTells tells apart]

/-! ## Whole texts -/

/-- Options are read from a text exactly if all its pieces are good, and then each option has the
word that the last piece with its key tells, or its default. Where they are not read, the fault of
the first piece that is not good is told. What is read does not change if pieces with different keys
change places. -/
theorem parse_outcome (text : String) :
    HasPieces text (pieces text) ∧
    ((∃ options, parse text = .ok options) ↔ ∀ piece ∈ pieces text, Good piece) ∧
    (∀ options, parse text = .ok options →
      ∀ key, Leaves (({} : Options).word key) (pieces text) key (options.word key)) ∧
    (∀ error, parse text = .error error ↔
      ∃ front piece behind, pieces text = front ++ piece :: behind ∧
        (∀ earlier ∈ front, Good earlier) ∧ Fault piece error) ∧
    ∀ other options, Reordered (pieces text) (pieces other) → parse text = .ok options →
      parse other = .ok options := by
  refine ⟨hasPieces_pieces text, ⟨?read, exists_foldlM_eq_ok {}⟩, ?words, ?fault, ?order⟩
  case read =>
    rintro ⟨options, done⟩
    exact forall_good_of_foldlM done
  case words =>
    intro options done key
    exact leaves_of_foldlM done key
  case fault =>
    intro error
    exact foldlM_eq_error_iff
  case order =>
    intro other options reordered done
    exact foldlM_of_reordered reordered done

/-- Of two networks the later one counts, also if a fail mode is moved in front of the first; a
piece without a value is at fault although its key is unknown. -/
theorem parse_outcome_of_repeated_key :
    let text := "network=unix, fail_mode = FAILFAST ,, network= quic=1 "
    let other := "fail_mode = FAILFAST,network=unix,network= quic=1"
    let options : Options := { network := "quic=1", failMode := .fast }
    (Reordered (pieces text) (pieces other) ∧ parse text = .ok options) ∧
      parse other = .ok options ∧
      parse "network=tcp,paths=,serialize=xml" = .error (.malformed "paths=") := by
  intro text other options
  have reordered : Reordered (pieces text) (pieces other) := by
    have cut : pieces text =
        ["network=unix", "fail_mode = FAILFAST", "network= quic=1"].map String.toList := by
      decide
    have otherCut : pieces other =
        ["fail_mode = FAILFAST", "network=unix", "network= quic=1"].map String.toList := by
      decide
    rw [cut, otherCut]
    apply @Reordered.swap _ [] _ _ _ .same
    rintro key word otherWord ⟨value, splits, _, _⟩ ⟨otherValue, otherSplits, _, _⟩
    have keyed : Splits "network=unix".toList "network" "unix" := by decide
    have otherKeyed : Splits "fail_mode = FAILFAST".toList "fail_mode" "FAILFAST" := by decide
    have same := (splits.unique keyed).1.symm.trans (otherSplits.unique otherKeyed).1
    exact absurd same (by decide)
  have read : parse text = .ok options := by decide
  have good : Good "network=tcp".toList := ⟨.network, "tcp", "tcp", by decide, by decide, rfl⟩
  have faulty : Fault "paths=".toList (.malformed "paths=") := by
    have splits : Splits "paths=".toList "paths" "" := by decide
    exact .noValue splits
  have cut : pieces "network=tcp,paths=,serialize=xml" =
      ["network=tcp".toList] ++ "paths=".toList :: ["serialize=xml".toList] := by
    decide
  rcases parse_outcome text with ⟨_, _, _, _, order⟩
  rcases parse_outcome "network=tcp,paths=,serialize=xml" with ⟨_, _, _, fault, _⟩
  refine ⟨⟨reordered, read⟩, order other options reordered read, (fault _).mpr ?_⟩
  exact ⟨_, _, _, cut, List.forall_mem_singleton.mpr good, faulty⟩

end RpcStubs.Options
