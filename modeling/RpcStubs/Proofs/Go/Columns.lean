import Mathlib.Data.List.Forall2
import RpcStubs.Proofs.Go.Function

/-!
# Entries in columns

The fields of a struct and the entries of a literal are written in two columns, one line each. The
second column begins one space behind the longest text of the first, and widths count characters, so
it lines up whatever the texts are (`columns_aligned`).
-/

namespace RpcStubs

namespace Text

/-- The width of some texts is that of one of them. -/
theorem exists_length_eq_widest {texts : List String} (nonempty : texts ≠ []) :
    ∃ text ∈ texts, text.length = widest texts := by
  induction texts with
  | nil => exact absurd rfl nonempty
  | cons first rest ih =>
      have unfolded : widest (first :: rest) = max first.length (widest rest) := rfl
      by_cases longest : widest rest ≤ first.length
      · exact ⟨first, List.mem_cons_self, by rw [unfolded, Nat.max_eq_left longest]⟩
      · have more : rest ≠ [] := by
          rintro rfl
          exact longest (Nat.zero_le _)
        rcases ih more with ⟨text, member, wide⟩
        refine ⟨text, List.mem_cons_of_mem first member, ?_⟩
        rw [unfolded, wide, Nat.max_eq_right (Nat.le_of_not_le longest)]

/-- A text one short of a width is padded with one space. -/
theorem pad_length_succ (text : String) : pad (text.length + 1) text = text ++ " " := by
  rw [pad, Nat.add_sub_cancel_left]
  rfl

end Text

namespace Go

namespace Line

/-! ## Pairs of texts -/

/-- A line at a depth shows two texts as they are: the first one behind the tabs, then spaces, and
the second one with a number of characters before it. -/
def Shows (depth column : Nat) (pair : String × String) (row : Line) : Prop :=
  ∃ front gap, row.text = front ++ pair.2 ++ "\n"
    ∧ front = String.ofList (List.replicate depth '\t') ++ pair.1
      ++ String.ofList (List.replicate gap ' ')
    ∧ front.length = column

/-- A text has no line feed in it. -/
def Unbroken (text : String) : Prop :=
  '\n' ∉ text.toList

/-- Lines at a depth show pairs of texts in two columns, of which the first has a width. -/
structure InColumns (depth width : Nat) (pairs : List (String × String)) (rows : List Line) :
    Prop where
  /-- Each pair has a line, in order, and all second texts begin in one column. -/
  shown : List.Forall₂ (Shows depth (depth + width + 1)) pairs rows
  /-- The first column is wide enough. -/
  fits : ∀ pair ∈ pairs, pair.1.length ≤ width
  /-- It is no wider than needed: some pair has just one space between its texts. -/
  tight : ∃ pair ∈ pairs, pair.1.length = width ∧ .code depth (pair.1 ++ " " ++ pair.2) ∈ rows
  /-- Unless a line is broken by what it shows, there are as many line feeds as pairs. -/
  apart : (∀ pair ∈ pairs, Unbroken pair.1 ∧ Unbroken pair.2) →
    (textAll rows).toList.count '\n' = pairs.length

theorem textAll_cons (first : Line) (rest : List Line) :
    textAll (first :: rest) = first.text ++ textAll rest :=
  textAll_append [first] rest

variable {depth width column : Nat}

theorem shows_pad (depth : Nat) {pair : String × String} (fits : pair.1.length ≤ width) :
    Shows depth (depth + width + 1) pair (.code depth (Text.pad (width + 1) pair.1 ++ pair.2)) := by
  refine ⟨String.ofList (List.replicate depth '\t') ++ Text.pad (width + 1) pair.1,
    width + 1 - pair.1.length, ?text, String.append_assoc.symm, ?column⟩
  case text => simp only [text, String.append_assoc]
  case column =>
    rw [String.length_append, String.length_ofList, List.length_replicate, Text.length_pad,
      Nat.max_eq_right (Nat.le_succ_of_le fits), Nat.add_assoc]

/-- A line that shows unbroken texts ends with its only line feed. -/
theorem Shows.count_lineFeed {pair : String × String} {row : Line}
    (shows : row.Shows depth column pair) (first : Unbroken pair.1) (second : Unbroken pair.2) :
    row.text.toList.count '\n' = 1 := by
  rcases shows with ⟨_, gap, text, rfl, _⟩
  rw [text]
  simp [List.count_replicate, List.count_eq_zero.mpr first, List.count_eq_zero.mpr second]

theorem count_lineFeed_textAll {pairs : List (String × String)} {rows : List Line}
    (shown : List.Forall₂ (Shows depth column) pairs rows)
    (unbroken : ∀ pair ∈ pairs, Unbroken pair.1 ∧ Unbroken pair.2) :
    (textAll rows).toList.count '\n' = pairs.length := by
  induction shown with
  | nil => rfl
  | cons first _ ih =>
      rcases List.forall_mem_cons.mp unbroken with ⟨firstUnbroken, restUnbroken⟩
      rw [textAll_cons, String.toList_append, List.count_append,
        first.count_lineFeed firstUnbroken.1 firstUnbroken.2, ih restUnbroken, List.length_cons,
        Nat.add_comm]

/-- Two columns with a gap of one character between them are as wide as the first texts need. -/
theorem inColumns_twoColumns (depth : Nat) {pairs : List (String × String)}
    (nonempty : pairs ≠ []) :
    InColumns depth (Text.widest (pairs.map Prod.fst)) pairs
      ((Text.twoColumns 1 pairs).map (.code depth)) := by
  have fits : ∀ pair ∈ pairs, pair.1.length ≤ Text.widest (pairs.map Prod.fst) :=
    fun pair member => Text.length_le_widest (List.mem_map_of_mem member)
  have shown : List.Forall₂ (Shows depth (depth + Text.widest (pairs.map Prod.fst) + 1)) pairs
      ((Text.twoColumns 1 pairs).map (.code depth)) := by
    rw [Text.twoColumns, List.map_map, List.forall₂_map_right_iff, List.forall₂_same]
    intro pair member
    exact shows_pad depth (fits pair member)
  refine ⟨shown, fits, ?tight, count_lineFeed_textAll shown⟩
  case tight =>
    have firsts : pairs.map Prod.fst ≠ [] := mt List.map_eq_nil_iff.mp nonempty
    rcases Text.exists_length_eq_widest firsts with ⟨text, inFirsts, wide⟩
    rcases List.mem_map.mp inFirsts with ⟨pair, member, rfl⟩
    refine ⟨pair, member, wide, List.mem_map_of_mem ?_⟩
    -- Beside the longest text the gap is all the padding there is.
    rw [← Text.pad_length_succ, wide]
    exact List.mem_map_of_mem member

end Line

namespace Code

/-! ## Structs and literals -/

/-- At any depth the fields of a struct stand between its header and its closing brace, and the
entries of a literal between its opening words and its closing brace, one line each and in order.
Names and types, and keys with their colon and values, stand there as they are, the second ones in
one column: one space behind the longest of the first ones. -/
theorem columns_aligned (level : Nat) (first : String × String)
    (rest : List (String × String)) :
    let entries := first :: rest
    let keyed := entries.map fun entry => (entry.1 ++ ":", entry.2 ++ ",")
    (∀ name, ∃ width rows, Line.InColumns (level + 1) width entries rows
      ∧ (struct name entries).layout level =
        (.code level ("type " ++ name ++ " struct \x7b") :: rows ++ [.code level "\x7d"], level)) ∧
    (∀ opening type, ∃ width rows, Line.InColumns (level + 1) width keyed rows
      ∧ (literal opening type entries).layout level =
        (.code level (opening ++ type ++ "\x7b") :: rows ++ [.code level "\x7d"], level)) := by
  intro entries keyed
  refine ⟨?fields, ?values⟩
  case fields =>
    intro name
    refine ⟨_, _, Line.inColumns_twoColumns (level + 1) (List.cons_ne_nil first rest), ?_⟩
    have header : "type " ++ name ++ " struct" ++ " \x7b" = "type " ++ name ++ " struct \x7b" :=
      String.append_assoc
    rw [layout, braced, header, Nat.add_sub_cancel]
  case values =>
    intro opening type
    exact ⟨_, _, Line.inColumns_twoColumns (level + 1) (List.cons_ne_nil _ _), rfl⟩

/-- A character counts once, however many bytes it takes. -/
example : text [.struct "Box" [("größe", "int"), ("n", "string")]] =
    "type Box struct \x7b\n\tgröße int\n\tn     string\n\x7d\n" := by
  decide

end Code

end Go

end RpcStubs
