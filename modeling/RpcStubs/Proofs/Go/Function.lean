import RpcStubs.Go.Code
import RpcStubs.Proofs.Text.Intercalate

/-!
# Functions in a text

Code that does not change the depth on its own account is laid out piece by piece at one depth
(`snd_layoutAll`). So each function among its pieces stands in its text as a whole: the header in
front of a brace, the lines of the body, and the closing brace at the start of a line
(`holdsFunction_of_mem`).
-/

namespace RpcStubs.Go

namespace Code

/-! ## Depth -/

mutual

/-- A piece of code in which nothing moves what comes behind it to another depth. -/
def settled : Code → Bool
  | indent | dedent => false
  | block _ body | func _ _ _ _ body => settledAll body
  | line _ | blank | comment _ | doc _ | struct _ _ | literal _ _ _ => true

/-- Pieces of which each is settled. -/
def settledAll : List Code → Bool
  | [] => true
  | first :: rest => first.settled && settledAll rest

end

mutual

/-- A settled piece of code leaves the depth that it finds. -/
theorem snd_layout : ∀ (level : Nat) (code : Code), code.settled = true →
    (code.layout level).2 = level
  | _, line _, _ | _, blank, _ | _, comment _, _ | _, doc _, _ | _, struct _ [], _
  | _, struct _ (_ :: _), _ | _, literal _ _ _, _ => rfl
  | level, block _ body, inside | level, func _ _ _ _ body, inside => by
      simp only [layout, braced, snd_layoutAll (level + 1) body inside, Nat.add_sub_cancel]

/-- Settled pieces leave the depth that they find. -/
theorem snd_layoutAll : ∀ (level : Nat) (code : List Code), settledAll code = true →
    (layoutAll level code).2 = level
  | _, [], _ => rfl
  | level, first :: rest, each => by
      rcases Bool.and_eq_true_iff.mp each with ⟨firstSettled, restSettled⟩
      simp only [layoutAll, snd_layout level first firstSettled,
        snd_layoutAll level rest restSettled]

end

theorem settledAll_iff {code : List Code} :
    settledAll code = true ↔ ∀ piece ∈ code, piece.settled = true := by
  induction code with
  | nil => simp [settledAll]
  | cons first rest ih => rw [settledAll, Bool.and_eq_true, ih, List.forall_mem_cons]

/-- What stands in front of some settled pieces is settled. -/
theorem settledAll_of_append {front back : List Code} (settled : settledAll (front ++ back) = true) :
    settledAll front = true :=
  settledAll_iff.mpr fun piece inFront =>
    settledAll_iff.mp settled piece (List.mem_append_left back inFront)

/-- Pieces behind others are laid out from the depth that these leave. -/
theorem fst_layoutAll_append (level : Nat) (front back : List Code) :
    (layoutAll level (front ++ back)).1 =
      (layoutAll level front).1 ++ (layoutAll (layoutAll level front).2 back).1 := by
  induction front generalizing level with
  | nil => rfl
  | cons first rest ih => simp only [List.cons_append, layoutAll, ih, List.append_assoc]

/-- The lines of each settled piece stand together among those of all pieces. -/
theorem exists_fst_layoutAll_eq {code : List Code} (settled : settledAll code = true)
    {piece : Code} (member : piece ∈ code) (level : Nat) :
    ∃ front back, (layoutAll level code).1 = front ++ (piece.layout level).1 ++ back := by
  rcases List.append_of_mem member with ⟨front, back, rfl⟩
  have pieceSettled := settledAll_iff.mp settled piece member
  refine ⟨(layoutAll level front).1, (layoutAll level back).1, ?_⟩
  rw [fst_layoutAll_append, snd_layoutAll level front (settledAll_of_append settled), layoutAll,
    snd_layout level piece pieceSettled, List.append_assoc]

theorem mem_layoutAll {level : Nat} {code : List Code} (settled : settledAll code = true)
    {piece : Code} (member : piece ∈ code) {row : Line} (within : row ∈ (piece.layout level).1) :
    row ∈ (layoutAll level code).1 := by
  rcases exists_fst_layoutAll_eq settled member level with ⟨front, back, laidOut⟩
  rw [laidOut]
  exact List.mem_append_left _ (List.mem_append_right _ within)

end Code

/-! ## Text -/

/-- The text of some lines. -/
def Line.textAll (rows : List Line) : String :=
  "".intercalate (rows.map text)

theorem Line.textAll_append (front back : List Line) :
    textAll (front ++ back) = textAll front ++ textAll back := by
  rw [textAll, List.map_append, Text.intercalate_empty_append]
  rfl

/-- A text holds a function with a header and some lines as its body. -/
def HoldsFunction (text header : String) (body : List Line) : Prop :=
  ∃ before after,
    text = before ++ (header ++ " \x7b\n" ++ Line.textAll body ++ "\x7d\n") ++ after

/-- A function among settled pieces of code stands in their text. -/
theorem Code.holdsFunction_of_mem {code : List Code} (settled : settledAll code = true)
    {receiver : Option String} {name params results : String} {body : List Code}
    (member : .func receiver name params results body ∈ code) :
    HoldsFunction (text code) (funcHeader receiver name params results)
      (layoutAll 1 body).1 := by
  have bodySettled : settledAll body = true := settledAll_iff.mp settled _ member
  rcases exists_fst_layoutAll_eq settled member 0 with ⟨front, back, found⟩
  have laidOut : (layout 0 (.func receiver name params results body)).1 =
      [.code 0 (funcHeader receiver name params results ++ " \x7b")] ++ (layoutAll 1 body).1
        ++ [.code 0 "\x7d"] := by
    simp only [layout, braced, Nat.zero_add, snd_layoutAll 1 body bodySettled]
    rfl
  have opening : Line.textAll [.code 0 (funcHeader receiver name params results ++ " \x7b")] =
      funcHeader receiver name params results ++ " \x7b\n" := by
    simp [Line.textAll, Line.text, String.append_assoc]
  have closing : Line.textAll [.code 0 "\x7d"] = "\x7d\n" := by decide
  refine ⟨Line.textAll front, Line.textAll back, ?_⟩
  change Line.textAll (layoutAll 0 code).1 = _
  rw [found, laidOut]
  simp only [Line.textAll_append, opening, closing, String.append_assoc]

/-- A function among settled pieces of code stands in their text with the lines of each piece of its
body. -/
theorem Code.exists_holdsFunction {code : List Code} (settled : settledAll code = true)
    {receiver : Option String} {name params results : String} {row : Line}
    (found : ∃ body, .func receiver name params results body ∈ code
      ∧ ∃ piece ∈ body, row ∈ (piece.layout 1).1) :
    ∃ rows, HoldsFunction (text code) (funcHeader receiver name params results) rows
      ∧ row ∈ rows := by
  rcases found with ⟨body, member, piece, inBody, within⟩
  have bodySettled : settledAll body = true := settledAll_iff.mp settled _ member
  exact ⟨_, holdsFunction_of_mem settled member, mem_layoutAll bodySettled inBody within⟩

end RpcStubs.Go
