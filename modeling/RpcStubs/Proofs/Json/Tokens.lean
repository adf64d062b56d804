import Mathlib.Data.List.Chain
import RpcStubs.Json.Scan
import RpcStubs.Proofs.Json.Scan.Number
import RpcStubs.Proofs.Json.Scan.Text

/-!
# The tokens of a written tree

A text that writes a tree is cut into exactly the tokens of the tree, whatever space stands between
them and however each of them is written. The one thing that could go wrong is a number that runs
into the next one; no two numbers are neighbours in a tree (`apart_lexemes`). So the tokens of the
text spell the tree and nothing else (`Tree.WrittenIn.spells`).
-/

namespace RpcStubs.Json

/-! ## Tokens in order -/

/-- The kinds that a token has when it is cut off a text. What a number is worth is left open: it may
even be too large. -/
inductive Lexeme.Matches : Lexeme → Kind → Prop where
  | listOpen : Matches .listOpen .listOpen
  | listClose : Matches .listClose .listClose
  | objectOpen : Matches .objectOpen .objectOpen
  | objectClose : Matches .objectClose .objectClose
  | comma : Matches .comma .comma
  | colon : Matches .colon .colon
  | null : Matches .null .null
  | boolean {value : Bool} : Matches (.boolean value) (.boolean value)
  | number {parts : Number.Parts} {value : Except Fault Found} :
      Matches (.number parts) (.number value)
  | text {value : String} : Matches (.text value) (.text (.ok value))

/-- Tokens that begin with certain ones, and what is left behind those. -/
inductive Spells : List Lexeme → Tokens → Tokens → Prop where
  | nothing {tokens : Tokens} : Spells [] tokens tokens
  | token {lexeme : Lexeme} {lexemes : List Lexeme} {start stop : Position} {kind : Kind}
      {tokens rest : Tokens} (first : lexeme.Matches kind) (others : Spells lexemes tokens rest) :
      Spells (lexeme :: lexemes) (.token start kind stop tokens) rest

theorem spells_append_iff {first second : List Lexeme} {tokens rest : Tokens} :
    Spells (first ++ second) tokens rest ↔
      ∃ middle, Spells first tokens middle ∧ Spells second middle rest := by
  constructor
  case mp =>
    intro spells
    induction first generalizing tokens with
    | nil => exact ⟨tokens, .nothing, spells⟩
    | cons lexeme first ih =>
        cases spells with
        | token matched others =>
            rcases ih others with ⟨middle, before, behind⟩
            exact ⟨middle, .token matched before, behind⟩
  case mpr =>
    rintro ⟨middle, before, behind⟩
    induction before with
    | nothing => exact behind
    | token matched others ih => exact .token matched (ih behind)

theorem Spells.size {lexemes : List Lexeme} {tokens rest : Tokens}
    (spells : Spells lexemes tokens rest) : tokens.size = lexemes.length + rest.size := by
  induction spells with
  | nothing => simp
  | token first others ih =>
      simp only [Tokens.size, ih, List.length_cons]
      omega

/-- Before the first element or member stands nothing, before every other a comma. -/
theorem Spells.separator {first : Bool} {tokens front : Tokens}
    (spells : Spells (if first then [] else [.comma]) tokens front) :
    (first = true ∧ tokens = front) ∨
      (first = false ∧ ∃ start stop, tokens = .token start .comma stop front) := by
  cases first with
  | true =>
      cases spells
      exact .inl ⟨rfl, rfl⟩
  | false =>
      cases spells with
      | @token _ _ start stop kind _ _ matched others =>
          cases matched
          cases others
          exact .inr ⟨rfl, start, stop, rfl⟩

/-- An element: the comma before it, its own tokens, and the elements behind it. -/
theorem Spells.item {first : Bool} {item : Tree} {items : List Tree} {tokens rest : Tokens}
    (spells : Spells (Tree.itemLexemes first (item :: items)) tokens rest) :
    ∃ front behind, Spells (if first then [] else [.comma]) tokens front
      ∧ Spells item.lexemes front behind ∧ Spells (Tree.itemLexemes false items) behind rest := by
  rcases spells_append_iff.mp spells with ⟨behind, before, others⟩
  rcases spells_append_iff.mp before with ⟨front, separator, ofItem⟩
  exact ⟨front, behind, separator, ofItem, others⟩

/-- A member: the comma before it, its key, the colon and its value, and the members behind it. -/
theorem Spells.member {first : Bool} {key : String} {value : Tree}
    {members : List (String × Tree)} {tokens rest : Tokens}
    (spells : Spells (Tree.memberLexemes first ((key, value) :: members)) tokens rest) :
    ∃ start stop later behind,
      Spells (if first then [] else [.comma]) tokens (.token start (.text (.ok key)) stop later)
        ∧ Spells (.colon :: value.lexemes) later behind
        ∧ Spells (Tree.memberLexemes false members) behind rest := by
  rcases spells_append_iff.mp spells with ⟨behind, before, others⟩
  rcases spells_append_iff.mp before with ⟨front, separator, ofMember⟩
  cases ofMember with
  | @token _ _ start stop kind later _ matched ofValue =>
      cases matched
      exact ⟨start, stop, later, behind, separator, ofValue, others⟩

/-! ## One token -/

section Scan

variable {lexeme : Lexeme} {cs rest : List Char}

/-- Whether a token is a number. -/
def Lexeme.isNumber : Lexeme → Bool
  | .number _ => true
  | _ => false

/-- A certain token stands at the front of some characters, without space before it: scanning gives
it and leaves the rest. -/
def ScansLexeme (lexeme : Lexeme) (position : Position) (cs rest : List Char) : Prop :=
  ∃ c later kind stop, cs = c :: later ∧ isSpace c = false ∧ lexeme.Matches kind
    ∧ scanToken position c later = ⟨.ok kind, stop, rest⟩

theorem isSpace_of_isDigit {c : Char} (digit : isDigit c = true) : isSpace c = false := by
  simp only [isSpace, Bool.or_eq_false_iff, beq_eq_false_iff_ne]
  refine ⟨⟨⟨?_, ?_⟩, ?_⟩, ?_⟩ <;>
    · rintro rfl
      exact absurd digit (by decide)

/-- A digit at the front begins a number. -/
theorem scanToken_digit {c : Char} (digit : isDigit c = true) (position : Position)
    (later : List Char) : scanToken position c later = scanNumber position false (c :: later) := by
  unfold scanToken
  simp only
  split
  case h_12 => exact if_pos digit
  all_goals exact absurd digit (by decide)

theorem scansLexeme_number {parts : Number.Parts} (written : NumberWritten parts cs)
    (ends : EndsNumber rest) (position : Position) :
    ScansLexeme (.number parts) position (cs ++ rest) rest := by
  cases written with
  | @parts negative whole fraction exponent behindPoint behindMark areDigits noZero
      fractionWritten exponentWritten =>
      have scanned (position : Position) := scanNumber_written areDigits noZero fractionWritten
        exponentWritten ends position negative
      cases negative with
      | true =>
          rcases scanned (position.right 1) with ⟨value, stop, scan⟩
          refine ⟨'-', whole ++ (behindPoint ++ (behindMark ++ rest)), .number value, stop, ?_, rfl,
            .number, scan⟩
          simp
      | false =>
          rcases scanned position with ⟨value, stop, scan⟩
          cases whole with
          | nil => exact absurd rfl areDigits.1
          | cons c whole =>
              have digit := isDigit_of_digits areDigits c List.mem_cons_self
              refine ⟨c, whole ++ (behindPoint ++ (behindMark ++ rest)), .number value, stop, ?_,
                isSpace_of_isDigit digit, .number, ?_⟩
              · simp
              · rw [scanToken_digit digit]
                exact scan

theorem scansLexeme_written (written : lexeme.Written cs)
    (ends : lexeme.isNumber = true → EndsNumber rest) (position : Position) :
    ScansLexeme lexeme position (cs ++ rest) rest := by
  cases written with
  | listOpen => exact ⟨_, _, _, _, rfl, rfl, .listOpen, rfl⟩
  | listClose => exact ⟨_, _, _, _, rfl, rfl, .listClose, rfl⟩
  | objectOpen => exact ⟨_, _, _, _, rfl, rfl, .objectOpen, rfl⟩
  | objectClose => exact ⟨_, _, _, _, rfl, rfl, .objectClose, rfl⟩
  | comma => exact ⟨_, _, _, _, rfl, rfl, .comma, rfl⟩
  | colon => exact ⟨_, _, _, _, rfl, rfl, .colon, rfl⟩
  | null => exact ⟨_, _, _, _, rfl, rfl, .null, rfl⟩
  | true => exact ⟨_, _, _, _, rfl, rfl, .boolean, rfl⟩
  | false => exact ⟨_, _, _, _, rfl, rfl, .boolean, rfl⟩
  | number digits => exact scansLexeme_number digits (ends rfl) position
  | @text value pieces characters =>
      rcases scanText_written characters (position.right 1) rest with ⟨stop, scanned⟩
      refine ⟨'"', pieces.flatten ++ '"' :: rest, _, stop, ?_, rfl, .text, scanned⟩
      simp

end Scan

/-! ## Space between tokens -/

theorem skipSpace_append {gap : List Char} (space : Space gap) (position : Position)
    (cs : List Char) : skipSpace position (gap ++ cs) = skipSpace (position.afterAll gap) cs := by
  induction gap generalizing position with
  | nil => rfl
  | cons c gap ih =>
      have isSpaced : isSpace c = true := by
        have listed := space c List.mem_cons_self
        simp only [List.mem_cons, List.not_mem_nil, or_false] at listed
        rcases listed with rfl | rfl | rfl | rfl <;> rfl
      have others : Space gap := fun d member => space d (List.mem_cons_of_mem c member)
      rw [List.cons_append, skipSpace, if_pos isSpaced, ih others]
      rfl

theorem tokensFrom_space {gap : List Char} (space : Space gap) (position : Position) :
    tokensFrom position gap = .finish (position.afterAll gap) := by
  have skipped := skipSpace_append space position []
  rw [List.append_nil] at skipped
  unfold tokensFrom
  split
  next start spaced =>
    rw [skipped] at spaced
    cases spaced
    rfl
  next start c rest spaced =>
    rw [skipped] at spaced
    cases spaced

theorem tokensFrom_scanned {lexeme : Lexeme} {gap cs rest : List Char} (space : Space gap)
    {position : Position} (scans : ScansLexeme lexeme (position.afterAll gap) cs rest) :
    ∃ start kind stop, lexeme.Matches kind
      ∧ tokensFrom position (gap ++ cs) = .token start kind stop (tokensFrom stop rest) := by
  rcases scans with ⟨c, later, kind, stop, rfl, noSpace, matched, scanned⟩
  refine ⟨position.afterAll gap, kind, stop, matched, ?_⟩
  have skipped : skipSpace position (gap ++ c :: later) = (position.afterAll gap, c :: later) := by
    rw [skipSpace_append space, skipSpace, if_neg (Bool.eq_false_iff.mp noSpace)]
  rw [tokensFrom]
  split
  next start spaced =>
    rw [skipped] at spaced
    cases spaced
  next start d others spaced =>
    rw [skipped] at spaced
    cases spaced
    simp only [scanned]

/-! ## All tokens -/

/-- No two numbers are neighbours. -/
abbrev Apart (lexemes : List Lexeme) : Prop :=
  lexemes.IsChain fun first second => first.isNumber = true → second.isNumber = false

theorem endsNumber_of_space {gap : List Char} (space : Space gap) (nonempty : gap ≠ [])
    (rest : List Char) : EndsNumber (gap ++ rest) := by
  cases gap with
  | nil => exact absurd rfl nonempty
  | cons c gap =>
      have listed := space c List.mem_cons_self
      simp only [List.mem_cons, List.not_mem_nil, or_false] at listed
      rcases listed with rfl | rfl | rfl | rfl <;> (simp [EndsNumber]; decide)

theorem endsNumber_of_written {lexeme : Lexeme} {cs : List Char} (written : lexeme.Written cs)
    (noNumber : lexeme.isNumber = false) (rest : List Char) : EndsNumber (cs ++ rest) := by
  cases written with
  | number digits => exact absurd noNumber (by simp [Lexeme.isNumber])
  | _ => simp [EndsNumber]; decide

theorem LexemesWritten.endsNumber {lexemes : List Lexeme} {cs : List Char}
    (written : LexemesWritten lexemes cs)
    (noNumber : ∀ lexeme ∈ lexemes.head?, lexeme.isNumber = false) : EndsNumber cs := by
  cases written with
  | done space =>
      by_cases nonempty : cs = []
      · simp [nonempty, EndsNumber]
      · simpa using endsNumber_of_space space nonempty []
  | @next lexeme lexemes gap cs later space first others =>
      rw [List.append_assoc]
      by_cases nonempty : gap = []
      · rw [nonempty, List.nil_append]
        exact endsNumber_of_written first (noNumber lexeme rfl) later
      · exact endsNumber_of_space space nonempty _

/-- A text of tokens is cut into these tokens. -/
theorem LexemesWritten.spells {lexemes : List Lexeme} {cs : List Char}
    (written : LexemesWritten lexemes cs) (apart : Apart lexemes) (position : Position) :
    ∃ finish, Spells lexemes (tokensFrom position cs) (.finish finish) := by
  induction written generalizing position with
  | done space =>
      rw [tokensFrom_space space]
      exact ⟨_, .nothing⟩
  | @next lexeme lexemes gap cs later space first others ih =>
      -- Only the scan of a number depends on what comes behind it, and no number does.
      have ⟨neighbours, othersApart⟩ := List.isChain_cons.mp apart
      have ends : lexeme.isNumber = true → EndsNumber later := fun number =>
        others.endsNumber fun second front => neighbours second front number
      rcases tokensFrom_scanned space (scansLexeme_written first ends _) with
        ⟨start, kind, stop, matched, cut⟩
      rcases ih othersApart stop with ⟨finish, spelled⟩
      rw [List.append_assoc, cut]
      exact ⟨finish, .token matched spelled⟩

/-! ## Trees -/

/-- No number stands at the front of what follows an element or a member. -/
theorem isNumber_itemLexemes (items : List Tree) (more : List Lexeme) :
    ∀ lexeme ∈ (Tree.itemLexemes false items ++ more).head?, lexeme.isNumber = false := by
  cases items <;> simp [Tree.itemLexemes, Lexeme.isNumber]

theorem isNumber_memberLexemes (members : List (String × Tree)) (more : List Lexeme) :
    ∀ lexeme ∈ (Tree.memberLexemes false members ++ more).head?, lexeme.isNumber = false := by
  cases members <;> simp [Tree.memberLexemes, Lexeme.isNumber]

/-- A token that is no number may stand before all others. -/
theorem apart_cons {lexeme : Lexeme} {lexemes : List Lexeme} (noNumber : lexeme.isNumber = false)
    (apart : Apart lexemes) : Apart (lexeme :: lexemes) := by
  refine List.isChain_cons.mpr ⟨fun second front number => ?_, apart⟩
  rw [noNumber] at number
  cases number

mutual

/-- The numbers of a tree are apart, also from what follows the tree. -/
theorem apart_lexemes : (tree : Tree) → {more : List Lexeme} → Apart more →
    (∀ lexeme ∈ more.head?, lexeme.isNumber = false) → Apart (tree.lexemes ++ more)
  | .null, _, apart, _ => apart_cons rfl apart
  | .boolean _, _, apart, _ => apart_cons rfl apart
  | .number _, _, apart, front =>
      List.isChain_cons.mpr ⟨fun second here _ => front second here, apart⟩
  | .text _, _, apart, _ => apart_cons rfl apart
  | .list items, _, apart, _ => apart_cons rfl (apart_itemLexemes true items apart)
  | .object members, _, apart, _ => apart_cons rfl (apart_memberLexemes true members apart)

theorem apart_itemLexemes : (first : Bool) → (items : List Tree) → {more : List Lexeme} →
    Apart more → Apart (Tree.itemLexemes first items ++ more)
  | _, [], _, apart => apart_cons rfl apart
  | first, item :: items, more, apart => by
      have others := apart_lexemes item (apart_itemLexemes false items apart)
        (isNumber_itemLexemes items more)
      cases first with
      | true => simpa [Tree.itemLexemes] using others
      | false => simpa [Tree.itemLexemes] using apart_cons rfl others

theorem apart_memberLexemes : (first : Bool) → (members : List (String × Tree)) →
    {more : List Lexeme} → Apart more → Apart (Tree.memberLexemes first members ++ more)
  | _, [], _, apart => apart_cons rfl apart
  | first, (key, value) :: members, more, apart => by
      have others : Apart
          (.text key :: .colon :: (value.lexemes ++ (Tree.memberLexemes false members ++ more))) :=
        apart_cons rfl (apart_cons rfl (apart_lexemes value
          (apart_memberLexemes false members apart) (isNumber_memberLexemes members more)))
      cases first with
      | true => simpa [Tree.memberLexemes] using others
      | false => simpa [Tree.memberLexemes] using apart_cons rfl others

end

/-- The tokens of a text that writes a tree are the tokens of the tree. -/
theorem Tree.WrittenIn.spells {tree : Tree} {text : String} (written : tree.WrittenIn text) :
    ∃ finish, Spells tree.lexemes (tokens text) (.finish finish) := by
  have apart : Apart tree.lexemes := by
    simpa using apart_lexemes tree List.IsChain.nil (by simp)
  exact LexemesWritten.spells written apart .start

end RpcStubs.Json
