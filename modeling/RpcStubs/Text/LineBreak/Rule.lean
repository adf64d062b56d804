import RpcStubs.Text.LineBreak.Cluster

/-!
# Rules of line breaking

A line may be broken between two clusters unless a rule keeps them together. The rules are read in
order, and the first that decides is followed: they are those of the line breaking algorithm of
Unicode 15.1, one for scripts without spaces, and one for pairs of dotted circles. A rule sees all
clusters before the gap, the nearest first, and all behind it.
-/

namespace RpcStubs.Text

/-- A place between two clusters of a line. -/
structure Gap where
  /-- What stands before the gap, the nearest first. -/
  before : List Cluster
  /-- What stands behind the gap, the nearest first. -/
  after : List Cluster
deriving Repr, DecidableEq, Inhabited

/-- What a rule says about a gap. -/
inductive Verdict where
  | keep
  | allow
deriving Repr, DecidableEq, Inhabited

namespace Gap

/-- The class right before a gap. -/
def left? (gap : Gap) : Option BreakClass :=
  gap.before.head?.map (·.kind)

/-- The class before the cluster right before a gap. -/
def secondLeft? (gap : Gap) : Option BreakClass :=
  gap.before[1]?.map (·.kind)

/-- The class right behind a gap. -/
def right? (gap : Gap) : Option BreakClass :=
  gap.after.head?.map (·.kind)

/-- The class behind the cluster right behind a gap. -/
def secondRight? (gap : Gap) : Option BreakClass :=
  gap.after[1]?.map (·.kind)

/-- What stands before a gap and the spaces before it. -/
def beyondSpaces (gap : Gap) : List Cluster :=
  gap.before.dropWhile (·.kind == .space)

/-- The class before a gap and the spaces before it. -/
def beyond? (gap : Gap) : Option BreakClass :=
  gap.beyondSpaces.head?.map (·.kind)

end Gap

/-- Keep what a condition holds for. -/
def keepIf (condition : Bool) : Option Verdict :=
  if condition then some .keep else none

/-- Allow a break where a condition holds. -/
def allowIf (condition : Bool) : Option Verdict :=
  if condition then some .allow else none

/-- Whether there is a class, and it is among some. -/
def isAmong (classes : List BreakClass) (kind? : Option BreakClass) : Bool :=
  kind?.any classes.contains

/-- Letters of the scripts that are written with spaces between words. -/
def alphabetic : List BreakClass :=
  [.letter, .hebrewLetter]

/-- Whether some clusters, the last first, end with a pair of dotted circles. Circles in a row are
paired from the first on. -/
def endsWithCirclePair (clusters : List Cluster) : Bool :=
  let circles := (clusters.takeWhile (·.isDottedCircle)).length
  circles != 0 && circles % 2 == 0

namespace Gap

/-! ## Pairs of dotted circles -/

/-- Whether a cluster stays with a pair of dotted circles before it: a letter that is no third
circle, a quotation mark or a bracket that opens, or the mark that ends the syllable. -/
def staysBehindCirclePair (cluster : Cluster) : Bool :=
  (alphabetic.contains cluster.kind && !cluster.isDottedCircle)
    || cluster.opensQuote
    || (cluster.kind == .opening && !cluster.eastAsian)
    || cluster.kind == .finalVirama

/-- Behind a pair of dotted circles there may be a break, unless what follows stays with it. -/
def behindCirclePair (gap : Gap) : Option Verdict :=
  if endsWithCirclePair gap.before then
    some (if gap.after.head?.any staysBehindCirclePair then .keep else .allow)
  else none

/-! ## Ends of lines, spaces and invisible characters -/

/-- Behind the end of a line there is always a break, before one never. -/
def atLineEnd (gap : Gap) : Option Verdict :=
  match gap.left?, gap.right? with
  | some .lineEnd, _ => some .allow
  | _, some .lineEnd => some .keep
  | _, _ => none

/-- Spaces and invisible opportunities stay with what is before them. -/
def beforeSpace (gap : Gap) : Option Verdict :=
  keepIf (isAmong [.space, .opportunity] gap.right?)

/-- Behind an invisible opportunity, and the spaces behind it, there may be a break. -/
def behindOpportunity (gap : Gap) : Option Verdict :=
  allowIf (gap.beyond? == some .opportunity)

/-- A joiner of pictures keeps what is behind it. -/
def behindPictureJoiner (gap : Gap) : Option Verdict :=
  keepIf (gap.before.head?.any (·.joins))

/-- Joiners and glue keep both sides, glue not behind spaces or hyphens. -/
def atGlue (gap : Gap) : Option Verdict :=
  match gap.left?, gap.right? with
  | some .joiner, _ | _, some .joiner | some .glue, _ => some .keep
  | left, some .glue => keepIf (!isAmong [.space, .ending, .hyphen] left)
  | _, _ => none

/-! ## Brackets, quotes and dashes -/

/-- What closes or separates stays with what is before it, even behind spaces. -/
def beforeClosing (gap : Gap) : Option Verdict :=
  keepIf (isAmong [.closing, .closingInWord, .exclamation, .separator, .slash] gap.right?)

/-- What opens stays with what is behind it, even before spaces. -/
def behindOpening (gap : Gap) : Option Verdict :=
  keepIf (gap.beyond? == some .opening)

/-- Whether a quotation mark that opens may do so behind a class. -/
def maySurroundFront : Option BreakClass → Bool
  | none => true
  | some kind =>
      [.lineEnd, .opening, .quote, .glue, .space, .opportunity].contains kind

/-- Whether a quotation mark that closes may do so before a class. -/
def maySurroundBack : Option BreakClass → Bool
  | none => true
  | some kind =>
      [.space, .glue, .joiner, .closing, .quote, .closingInWord, .exclamation, .separator, .slash,
        .lineEnd, .opportunity].contains kind

/-- A quotation mark that opens at the front of something stays with it, even before spaces. -/
def behindInitialQuote (gap : Gap) : Option Verdict :=
  match gap.beyondSpaces with
  | quote :: further =>
      keepIf (quote.opensQuote && maySurroundFront (further.head?.map (·.kind)))
  | [] => none

/-- A quotation mark that closes at the back of something stays with it, even behind spaces. -/
def beforeFinalQuote (gap : Gap) : Option Verdict :=
  keepIf (gap.after.head?.any (·.closesQuote) && maySurroundBack gap.secondRight?)

/-- What closes keeps what begins no line, and a dash a dash, even with spaces between them. -/
def acrossSpaces (gap : Gap) : Option Verdict :=
  match gap.beyond?, gap.right? with
  | some .closing, some .nonstarter | some .closingInWord, some .nonstarter => some .keep
  | some .longDash, some .longDash => some .keep
  | _, _ => none

/-- Behind spaces there may be a break. -/
def behindSpace (gap : Gap) : Option Verdict :=
  allowIf (gap.left? == some .space)

/-- A quotation mark stays with both sides. -/
def atQuote (gap : Gap) : Option Verdict :=
  keepIf (gap.left? == some .quote || gap.right? == some .quote)

/-- Around what is no text there may be breaks. -/
def atObject (gap : Gap) : Option Verdict :=
  allowIf (gap.left? == some .object || gap.right? == some .object)

/-! ## Hyphens and marks between words -/

/-- Hyphens and what may end a line stay with what is before them, what may begin one with what is
behind it. -/
def atHyphen (gap : Gap) : Option Verdict :=
  keepIf (isAmong [.ending, .hyphen, .nonstarter] gap.right? || gap.left? == some .beginning)

/-- A hyphen behind a Hebrew letter keeps what is behind it. -/
def behindHebrewHyphen (gap : Gap) : Option Verdict :=
  keepIf (isAmong [.hyphen, .ending] gap.left? && gap.secondLeft? == some .hebrewLetter)

/-- A slash keeps a Hebrew letter. -/
def behindSlash (gap : Gap) : Option Verdict :=
  keepIf (gap.left? == some .slash && gap.right? == some .hebrewLetter)

/-- An ellipsis stays with what is before it. -/
def beforeDots (gap : Gap) : Option Verdict :=
  keepIf (gap.right? == some .dots)

/-! ## Numbers -/

/-- Letters and digits stay together. -/
def inWord (gap : Gap) : Option Verdict :=
  keepIf
    ((isAmong alphabetic gap.left? && gap.right? == some .digit)
      || (gap.left? == some .digit && isAmong alphabetic gap.right?))

/-- Ideographs stay with a sign before them and a unit behind them, letters with both on each
side. -/
def atSign (gap : Gap) : Option Verdict :=
  let pictures : List BreakClass := [.ideograph, .pictureBase, .pictureModifier]
  let signs : List BreakClass := [.numberSign, .numberUnit]
  keepIf
    ((gap.left? == some .numberSign && isAmong pictures gap.right?)
      || (isAmong pictures gap.left? && gap.right? == some .numberUnit)
      || (isAmong signs gap.left? && isAmong alphabetic gap.right?)
      || (isAmong alphabetic gap.left? && isAmong signs gap.right?))

/-- The pairs that are kept together for the sake of numbers. -/
def numberPairs : List (BreakClass × BreakClass) :=
  [(.closing, .numberUnit), (.closingInWord, .numberUnit), (.closing, .numberSign),
   (.closingInWord, .numberSign), (.digit, .numberUnit), (.digit, .numberSign),
   (.numberUnit, .opening), (.numberUnit, .digit), (.numberSign, .opening), (.numberSign, .digit),
   (.hyphen, .digit), (.separator, .digit), (.digit, .digit), (.slash, .digit)]

/-- A number stays with its sign, its unit and the brackets around it. -/
def inNumber (gap : Gap) : Option Verdict :=
  match gap.left?, gap.right? with
  | some left, some right => keepIf (numberPairs.contains (left, right))
  | _, _ => none

/-! ## Syllables and words -/

/-- The letters of a Hangul syllable stay together. -/
def inHangulSyllable (gap : Gap) : Option Verdict :=
  match gap.left?, gap.right? with
  | some .leadingJamo, right =>
      keepIf (isAmong [.leadingJamo, .vowelJamo, .openSyllable, .closedSyllable] right)
  | some .vowelJamo, right | some .openSyllable, right =>
      keepIf (isAmong [.vowelJamo, .trailingJamo] right)
  | some .trailingJamo, right | some .closedSyllable, right =>
      keepIf (right == some .trailingJamo)
  | _, _ => none

/-- A Hangul syllable stays with a sign before it and a unit behind it. -/
def atHangul (gap : Gap) : Option Verdict :=
  let hangul : List BreakClass :=
    [.leadingJamo, .vowelJamo, .trailingJamo, .openSyllable, .closedSyllable]
  keepIf
    ((isAmong hangul gap.left? && gap.right? == some .numberUnit)
      || (gap.left? == some .numberSign && isAmong hangul gap.right?))

/-- Between two scripts that are written without spaces there may be a break. -/
def betweenScripts (gap : Gap) : Option Verdict :=
  match gap.before, gap.after with
  | left :: _, right :: _ =>
      match left.script?, SpacelessScript.of? right.base with
      | some script, some next => allowIf (script != next)
      | _, _ => none
  | _, _ => none

/-- Letters stay together. -/
def betweenLetters (gap : Gap) : Option Verdict :=
  keepIf (isAmong alphabetic gap.left? && isAmong alphabetic gap.right?)

/-- The letters that make one syllable stay together. A pair of dotted circles is at its end. -/
def inSyllable (gap : Gap) : Option Verdict :=
  match gap.before, gap.after with
  | left :: further, right :: later =>
      keepIf <|
        (left.kind == .aksaraLead && right.beginsSyllable)
          || (left.beginsSyllable && [.virama, .finalVirama].contains right.kind)
          || (left.kind == .virama && further.head?.any (·.beginsSyllable)
            && !endsWithCirclePair further && right.conjoins)
          || (left.beginsSyllable && right.beginsSyllable
            && later.head?.any (·.kind == .finalVirama))
  | _, _ => none

/-- A separator keeps a letter. -/
def behindSeparator (gap : Gap) : Option Verdict :=
  keepIf (gap.left? == some .separator && isAmong alphabetic gap.right?)

/-- Brackets stay with the word that they are in, those of East Asian writing left out. -/
def atBracket (gap : Gap) : Option Verdict :=
  let word := BreakClass.digit :: alphabetic
  match gap.before, gap.after with
  | left :: _, right :: _ =>
      keepIf <|
        (word.contains left.kind && right.kind == .opening && !right.eastAsian)
          || (left.kind == .closingInWord && !left.eastAsian && word.contains right.kind)
  | _, _ => none

/-! ## Pictures -/

/-- Two halves of one flag stay together. -/
def inFlag (gap : Gap) : Option Verdict :=
  keepIf
    (gap.right? == some .regional
      && (gap.before.takeWhile (·.kind == .regional)).length % 2 == 1)

/-- A picture stays with its modifier. -/
def beforeModifier (gap : Gap) : Option Verdict :=
  keepIf (gap.right? == some .pictureModifier && gap.before.head?.any (·.takesModifier))

/-! ## All rules -/

/-- The rules in order. -/
def rules : List (Gap → Option Verdict) :=
  [behindPictureJoiner, behindCirclePair, atLineEnd, beforeSpace, behindOpportunity, atGlue,
   beforeClosing, behindOpening, behindInitialQuote, beforeFinalQuote, acrossSpaces, behindSpace,
   atQuote, atObject, atHyphen, behindHebrewHyphen, behindSlash, beforeDots, inWord, atSign,
   inNumber, inHangulSyllable, atHangul, betweenScripts, betweenLetters, inSyllable,
   behindSeparator, atBracket, inFlag, beforeModifier]

/-- Whether a line may be broken at a gap. The end of the text is such a place. -/
def allowsBreak (gap : Gap) : Bool :=
  gap.after.isEmpty || (rules.findSome? (· gap)).getD .allow == .allow

end Gap

/-! ## Opportunities -/

/-- For each character of some clusters, behind others, whether a line may be broken behind it. -/
def opportunitiesFrom (before : List Cluster) : List Cluster → List Bool
  | [] => []
  | cluster :: rest =>
      List.replicate cluster.marks.length false
        ++ Gap.allowsBreak ⟨cluster :: before, rest⟩ :: opportunitiesFrom (cluster :: before) rest

/-- For each character of a line, whether the line may be broken behind it. -/
def opportunities (line : List Char) : List Bool :=
  opportunitiesFrom [] (clusters line)

end RpcStubs.Text
