import RpcStubs.Text.LineBreak.Class
import RpcStubs.Text.Width

/-!
# Clusters

A character and the marks on it are never broken apart, so line breaking looks at clusters. Marks at
the front of a line, and marks behind a space, an invisible opportunity or the end of a line, have
nothing to stand on: the first of them counts as a letter.
-/

namespace RpcStubs.Text

/-- Whether marks can stand on a class. -/
def BreakClass.carriesMarks : BreakClass → Bool
  | space | opportunity | lineEnd => false
  | _ => true

/-- A character with the marks on it, and what it counts as. -/
structure Cluster where
  kind : BreakClass
  base : Char
  marks : List Char := []
deriving Repr, DecidableEq, Inhabited

namespace Cluster

/-- The characters of a cluster. -/
def characters (cluster : Cluster) : List Char :=
  cluster.base :: cluster.marks

/-- Whether a cluster ends with the joiner of pictures. -/
def joins (cluster : Cluster) : Bool :=
  cluster.characters.getLast? == some pictureJoiner

/-- Whether a cluster belongs to East Asian writing. -/
def eastAsian (cluster : Cluster) : Bool :=
  isEastAsian cluster.base

/-- Whether a cluster is a quotation mark that opens. -/
def opensQuote (cluster : Cluster) : Bool :=
  cluster.kind == .quote && initialQuoteRanges.covers cluster.base

/-- Whether a cluster is a quotation mark that closes. -/
def closesQuote (cluster : Cluster) : Bool :=
  cluster.kind == .quote && finalQuoteRanges.covers cluster.base

/-- Whether a cluster is the circle that stands for a letter. -/
def isDottedCircle (cluster : Cluster) : Bool :=
  cluster.base == dottedCircle

/-- Whether a cluster is a letter that a virama joins to the next. -/
def conjoins (cluster : Cluster) : Bool :=
  cluster.kind == .aksara || cluster.isDottedCircle

/-- Whether a cluster begins a syllable of a script that is broken between syllables. -/
def beginsSyllable (cluster : Cluster) : Bool :=
  cluster.conjoins || cluster.kind == .aksaraStart

/-- Whether a cluster may stand before a modifier of pictures. -/
def takesModifier (cluster : Cluster) : Bool :=
  cluster.kind == .pictureBase || reservedPictureRanges.covers cluster.base

/-- The script of the last character of a cluster, if it is one that is written without spaces. -/
def script? (cluster : Cluster) : Option SpacelessScript :=
  cluster.characters.getLast?.bind SpacelessScript.of?

end Cluster

/-- Marks that stand on nothing. -/
def loneMarks : List Char → List Cluster
  | [] => []
  | c :: marks => [⟨.letter, c, marks⟩]

/-- The marks at the front of a line, and the clusters behind them. -/
def splitMarks : List Char → List Char × List Cluster
  | [] => ([], [])
  | c :: rest =>
      let (marks, later) := splitMarks rest
      let kind := BreakClass.of c
      if kind = .mark then (c :: marks, later)
      else if kind.carriesMarks then ([], ⟨kind, c, marks⟩ :: later)
      else ([], ⟨kind, c, []⟩ :: (loneMarks marks ++ later))

/-- The clusters of a line. -/
def clusters (line : List Char) : List Cluster :=
  loneMarks (splitMarks line).1 ++ (splitMarks line).2

end RpcStubs.Text
