import RpcStubs.Go.Code

/-!
# Lines of comments

Text that ends in a line feed has the lines of what stands before it and then the lines behind
(`linesOf_append`). A comment is one line only as long as its words are: behind a line feed in them
it goes on as a line of its own, with slashes in front only if the words have them there
(`forall_linesOf_comment_iff`).
-/

namespace RpcStubs.Go.Code

/-- The characters that open a comment. -/
def slashes : List Char :=
  ['/', '/']

/-- Pieces with others behind them are all ended, so they all lose their carriage return. -/
theorem completeLines_append (ended : List (List Char)) {rest : List (List Char)}
    (more : rest ≠ []) :
    completeLines (ended ++ rest) = ended.map dropReturn ++ completeLines rest := by
  induction ended with
  | nil => rfl
  | cons first later ih =>
      have behind : later ++ rest ≠ [] := List.append_ne_nil_of_right_ne_nil later more
      rw [List.cons_append, completeLines, ih, List.map_cons, List.cons_append]
      exact behind

/-- The lines of a text before a line feed and the lines behind it. -/
theorem linesOf_append (front back : String) :
    linesOf (front ++ "\n" ++ back) =
      ((Text.pieces '\n' front.toList).map fun piece => String.ofList (dropReturn piece))
        ++ linesOf back := by
  have feed : "\n".toList = ['\n'] := rfl
  rw [linesOf, String.toList_append, String.toList_append, feed, List.append_assoc,
    List.singleton_append, Text.pieces_append_cons,
    completeLines_append _ (Text.pieces_ne_nil _ _), List.map_append, List.map_map]
  rfl

/-- A line keeps its slashes without its carriage return, and gains none. -/
theorem slashes_prefix_dropReturn (cs : List Char) :
    slashes <+: dropReturn cs ↔ slashes <+: cs := by
  unfold dropReturn
  split
  next ended =>
    obtain ⟨front, rfl⟩ := List.getLast?_eq_some_iff.mp ended
    rw [List.dropLast_concat, List.prefix_concat_iff]
    constructor
    · exact .inr
    · rintro (same | inFront)
      · have last := congrArg List.getLast? same
        simp [slashes] at last
      · exact inFront
  next => rfl

/-- Words behind slashes make comment lines exactly where each line break in them is followed by
slashes again. -/
theorem forall_linesOf_comment_iff (words back : String) :
    (∀ line ∈ linesOf (commentText words ++ "\n" ++ back), slashes <+: line.toList) ↔
      (∀ piece ∈ (Text.pieces '\n' words.toList).tail, slashes <+: piece)
        ∧ ∀ line ∈ linesOf back, slashes <+: line.toList := by
  rw [linesOf_append, List.forall_mem_append, List.forall_mem_map]
  simp only [String.toList_ofList, slashes_prefix_dropReturn]
  refine and_congr_left' ?_
  rw [commentText]
  split
  next empty =>
    subst empty
    decide
  next =>
    have opening : "// ".toList = slashes ++ [' '] := rfl
    have noFeed : '\n' ∉ slashes ++ [' '] := by decide
    rw [String.toList_append, opening, Text.pieces_append_of_not_mem noFeed, List.forall_mem_cons,
      List.append_assoc]
    exact and_iff_right (List.prefix_append _ _)

end RpcStubs.Go.Code
