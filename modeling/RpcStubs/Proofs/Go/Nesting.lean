import RpcStubs.Proofs.Go.Function

/-!
# Nesting

A piece of code that stands some blocks deep is laid out that many levels deeper than the whole, and
what it encloses one level deeper still, between an opening line and a closing brace of one depth.
So code that starts deeper is the same code with all its lines moved (`nesting`).
-/

namespace RpcStubs.Go

/-! ## Moved lines -/

/-- What a line gets in front when it is moved a number of levels deeper. -/
def Line.margin (levels : Nat) : Line → String
  | code _ _ => String.ofList (List.replicate levels '\t')
  | blank => ""

theorem Line.text_shift (levels : Nat) (row : Line) :
    (row.shift levels).text = row.margin levels ++ row.text := by
  cases row with
  | blank => exact (String.empty_append).symm
  | code depth text =>
      simp only [shift, Line.text, margin, ← List.replicate_append_replicate,
        String.ofList_append, String.append_assoc]

namespace Code

mutual

/-- A settled piece of code that starts deeper has the same lines, moved. -/
theorem fst_layout_add : ∀ (levels level : Nat) (code : Code), code.settled = true →
    (code.layout (levels + level)).1 = (code.layout level).1.map (Line.shift levels)
  | _, _, line _, _ | _, _, blank, _ | _, _, comment _, _ | _, _, struct _ [], _ => rfl
  | levels, level, doc text, _ => by
      simp only [layout, List.map_map]
      rfl
  | levels, level, struct _ (_ :: _), _ | levels, level, literal _ _ _, _ => by
      simp [layout, braced, Line.shift, Nat.add_assoc]
  | levels, level, block _ body, inside | levels, level, func _ _ _ _ body, inside => by
      simp [layout, braced, snd_layoutAll _ body inside, Line.shift,
        ← fst_layoutAll_add levels (level + 1) body inside, Nat.add_assoc]

/-- Settled pieces that start deeper have the same lines, moved. -/
theorem fst_layoutAll_add : ∀ (levels level : Nat) (code : List Code), settledAll code = true →
    (layoutAll (levels + level) code).1 = (layoutAll level code).1.map (Line.shift levels)
  | _, _, [], _ => rfl
  | levels, level, first :: rest, each => by
      rcases Bool.and_eq_true_iff.mp each with ⟨firstSettled, restSettled⟩
      simp only [layoutAll, snd_layout _ first firstSettled, List.map_append,
        fst_layout_add levels level first firstSettled,
        fst_layoutAll_add levels level rest restSettled]

end

/-! ## Pieces with a body -/

/-- A piece of code consists of an opening line, a body and a closing brace. -/
inductive Encloses : Code → String → List Code → Prop where
  | block (header : String) (body : List Code) :
      Encloses (block header body) (header ++ " \x7b") body
  | func (receiver : Option String) (name params results : String) (body : List Code) :
      Encloses (func receiver name params results body)
        (funcHeader receiver name params results ++ " \x7b") body
  | struct (name : String) (field : String × String) (fields : List (String × String)) :
      Encloses (struct name (field :: fields)) ("type " ++ name ++ " struct" ++ " \x7b")
        ((Text.twoColumns 1 (field :: fields)).map line)
  | literal (opening type : String) (entries : List (String × String)) :
      Encloses (literal opening type entries) (opening ++ type ++ "\x7b")
        ((Text.twoColumns 1 (entries.map fun entry => (entry.1 ++ ":", entry.2 ++ ","))).map line)

variable {piece : Code} {opening : String} {body code : List Code}

theorem layoutAll_map_line (level : Nat) (texts : List String) :
    layoutAll level (texts.map line) = (texts.map (.code level), level) := by
  induction texts with
  | nil => rfl
  | cons first rest ih =>
      simp only [List.map_cons, layoutAll, layout, ih]
      rfl

theorem settledAll_map_line (texts : List String) : settledAll (texts.map line) = true := by
  apply settledAll_iff.mpr
  intro piece member
  rcases List.mem_map.mp member with ⟨text, _, rfl⟩
  rfl

theorem Encloses.settledAll (encloses : piece.Encloses opening body)
    (settled : piece.settled = true) : settledAll body = true := by
  cases encloses with
  | block => exact settled
  | func => exact settled
  | struct => exact settledAll_map_line _
  | literal => exact settledAll_map_line _

/-- The opening line and the closing brace of a settled piece stand at the depth of the piece, and
its body one level deeper. -/
theorem Encloses.fst_layout (encloses : piece.Encloses opening body)
    (settled : piece.settled = true) (level : Nat) :
    (piece.layout level).1 =
      .code level opening :: (layoutAll (level + 1) body).1 ++ [.code level "\x7d"] := by
  have back := snd_layoutAll (level + 1) body (encloses.settledAll settled)
  cases encloses with
  | block => simp only [layout, braced, back, Nat.add_sub_cancel]
  | func => simp only [layout, braced, back, Nat.add_sub_cancel]
  | struct => simp only [layout, braced, layoutAll_map_line, Nat.add_sub_cancel]
  | literal => simp only [layout, layoutAll_map_line]

/-! ## Pieces inside others -/

/-- A piece of code stands among others, inside a number of them. -/
inductive Nested : Nat → Code → List Code → Prop where
  | here {piece : Code} {code : List Code} (member : piece ∈ code) : Nested 0 piece code
  | inside {depth : Nat} {piece outer : Code} {opening : String} {body code : List Code}
      (member : outer ∈ code) (encloses : outer.Encloses opening body)
      (deeper : Nested depth piece body) : Nested (depth + 1) piece code

namespace Nested

variable {depth : Nat}

theorem settled (nested : Nested depth piece code) (settled : settledAll code = true) :
    piece.settled = true := by
  induction nested with
  | here member => exact settledAll_iff.mp settled _ member
  | inside member encloses _ ih =>
      exact ih (encloses.settledAll (settledAll_iff.mp settled _ member))

/-- A piece that stands inside some others is laid out as many levels deeper than the whole. -/
theorem exists_fst_layoutAll_eq (nested : Nested depth piece code)
    (settled : settledAll code = true) (level : Nat) :
    ∃ front back, (layoutAll level code).1 = front ++ (piece.layout (level + depth)).1 ++ back := by
  induction nested generalizing level with
  | here member => exact Code.exists_fst_layoutAll_eq settled member level
  | @inside depth piece outer opening body code member encloses _ ih =>
      have outerSettled := settledAll_iff.mp settled outer member
      rcases Code.exists_fst_layoutAll_eq settled member level with ⟨front, back, around⟩
      rcases ih (encloses.settledAll outerSettled) (level + 1) with ⟨above, below, within⟩
      refine ⟨front ++ .code level opening :: above, below ++ .code level "\x7d" :: back, ?_⟩
      rw [around, encloses.fst_layout outerSettled, within, Nat.add_assoc, Nat.add_comm 1 depth]
      simp only [List.cons_append, List.append_assoc, List.nil_append]

end Nested

/-- Code that leaves its depth to its blocks ends at the depth it starts from. Its text is that of
the same code at the outermost level with as many tabs in front of each line as the code starts
deep, and none in front of a blank one. Whatever encloses a body, inside however many others, stands
with its opening line and its closing brace at one depth, which is the depth of the start and one
more for each piece around it, and with its body laid out exactly one level deeper. -/
theorem nesting (level : Nat) (code : List Code) (settled : settledAll code = true) :
    (layoutAll level code).2 = level
      ∧ textAt level code =
        "".intercalate ((layoutAll 0 code).1.map fun row => row.margin level ++ row.text)
      ∧ ∀ depth piece opening body, Nested depth piece code → piece.Encloses opening body →
        ∃ front back, (layoutAll level code).1 =
          front ++ (.code (level + depth) opening :: (layoutAll (level + depth + 1) body).1
            ++ [.code (level + depth) "\x7d"]) ++ back := by
  refine ⟨snd_layoutAll level code settled, ?text, ?blocks⟩
  case text =>
    have moved := fst_layoutAll_add level 0 code settled
    rw [Nat.add_zero] at moved
    rw [textAt, moved, List.map_map]
    simp only [Function.comp_def, Line.text_shift]
  case blocks =>
    intro depth piece opening body nested encloses
    rcases nested.exists_fst_layoutAll_eq settled level with ⟨front, back, laidOut⟩
    rw [encloses.fst_layout (nested.settled settled)] at laidOut
    exact ⟨front, back, laidOut⟩

/-- In a method that is laid out two levels deep, a literal inside a conditional opens and closes
four levels deep, and its entries stand five levels deep. -/
theorem nesting_of_method :
    let sale : Code := .literal "return &" "Sale" [("count", "n"), ("total", "price")]
    let method : List Code :=
      [.func (some "s *Shop") "Buy" "n int" "*Sale"
        [.comment "Only what there is can be sold.", .block "if n > 0" [sale, .blank],
          .line "return nil"]]
    settledAll method = true
      ∧ (layoutAll 2 method).2 = 2
      ∧ textAt 2 method =
        "".intercalate ((layoutAll 0 method).1.map fun row => row.margin 2 ++ row.text)
      ∧ ∃ front back, (layoutAll 2 method).1 = front ++ [.code 4 "return &Sale\x7b",
        .code 5 "count: n,", .code 5 "total: price,", .code 4 "\x7d"] ++ back := by
  intro sale method
  have settled : settledAll method = true := rfl
  rcases nesting 2 method settled with ⟨back, moved, blocks⟩
  have inCondition : Nested 0 sale [sale, .blank] := .here List.mem_cons_self
  have inMethod : Nested 2 sale method :=
    .inside List.mem_cons_self (.func ..)
      (.inside (List.mem_cons_of_mem _ List.mem_cons_self) (.block ..) inCondition)
  have found := blocks 2 sale _ _ inMethod (.literal ..)
  exact ⟨settled, back, moved, found⟩

end Code

end RpcStubs.Go
