import CameraFleet.Programs.Amount
import CameraFleet.Programs.Copy

/-!
# Filling lines

The words of paragraphs are put on lines of about the same length. Where a
paragraph is broken into lines is chosen so that all its lines together cost as
little as possible: a line costs more the farther its length is from a goal and
from that of the next line, and breaks near the ends of sentences are judged by
what stands there.
-/

namespace CameraFleet
namespace Programs

open Host

namespace Fill

/-! ## Words and costs -/

/-- A word of a paragraph. -/
structure Word where
  /-- Its characters. -/
  text : Octets
  /-- The blanks after it. -/
  space : Nat
  /-- Whether it starts with an opening bracket or quote. -/
  opens : Bool
  /-- Whether it ends like a sentence. -/
  endsSentence : Bool
  /-- Whether it ends with punctuation. -/
  isPunctuated : Bool
  /-- Whether a sentence ends with it. -/
  isLast : Bool
  deriving Repr, DecidableEq

/-- Where a line that starts with a word is best ended, and what the lines from there cost. -/
structure Break where
  /-- The place of the word after the line. -/
  next : Nat
  /-- The length of the line. -/
  length : Int
  /-- The cost. -/
  cost : Int
  deriving Repr, DecidableEq

/-- The cost of a line that is so much shorter or longer than the goal. -/
def shortCost (difference : Int) : Int :=
  difference * 10 * (difference * 10)

/-- The cost of two lines whose lengths differ by so much. -/
def raggedCost (difference : Int) : Int :=
  shortCost difference / 2

/-- The cost of a line that starts with a word, after the words before it, the nearest first. -/
def baseCost (before : List Word) (word : Word) : Int :=
  let length (word : Word) : Int := word.text.length
  let early : Int :=
    match before with
    | [] => 0
    | last :: others =>
        if last.endsSentence then if last.isLast then -2500 else 360000
        else if last.isPunctuated then -1600
        else
          match others with
          | earlier :: _ => if earlier.isLast then 40000 / (length last + 2) else 0
          | [] => 0
  let late : Int :=
    if word.opens then -1600 else if word.isLast then 22500 / (length word + 2) else 0
  4900 + early + late

/-- How lines are filled. -/
structure Widths where
  /-- The greatest length of a line. -/
  most : Nat
  /-- The length that is best. -/
  goal : Nat
  deriving Repr, DecidableEq

/-- How the lines of a paragraph start. -/
structure Indents where
  /-- Where the first line starts. -/
  first : Nat
  /-- Where the other lines start. -/
  others : Nat
  deriving Repr, DecidableEq

/--
The best end of a line that starts with a word. The words after it come with
their breaks, and each is a candidate for the start of the next line; the end of
the paragraph is one, too.
-/
def bestBreak
    (widths : Widths)
    (count : Nat) :
    Nat -> Int -> Nat -> List (Word × Break) -> Option Break -> Option Break
  | place, length, space, rest, best =>
      let consider (cost : Int) : Option Break :=
        match best with
        | some found =>
            if cost < found.cost then some { next := place, length, cost } else best
        | none => some { next := place, length, cost }
      match rest with
      | [] => consider 0
      | (word, next) :: others =>
          let ragged := if next.next = count then 0 else raggedCost (length - next.length)
          let found := consider (shortCost (widths.goal - length) + ragged + next.cost)
          let longer := length + space + word.text.length
          if longer < widths.most then
            bestBreak widths count (place + 1) longer word.space others found
          else found

/-- The breaks for all words of a paragraph, with the words; some words are before it. -/
def breaks
    (widths : Widths)
    (indents : Indents)
    (count : Nat) : List Word -> List Word -> List (Word × Break)
  | _, [] => []
  | before, word :: rest =>
      let after := breaks widths indents count (word :: before) rest
      let place := before.length
      let start : Int := if before.isEmpty then indents.first else indents.others
      let length := start + word.text.length
      let found := (bestBreak widths count (place + 1) length word.space after none).getD
        { next := place + 1, length, cost := 0 }
      (word, { found with cost := found.cost + baseCost before word }) :: after

/-- The lines of words that some breaks lead to; the number bounds them. -/
def linesOfBreaks : Nat -> Nat -> List (Word × Break) -> List (List Word × Int)
  | 0, _, _ => []
  | _ + 1, _, [] => []
  | fuel + 1, place, (word, found) :: rest =>
      let count := found.next - place
      let words := (((word, found) :: rest).take count).map (·.1)
      (words, found.length) :: linesOfBreaks fuel found.next (((word, found) :: rest).drop count)

/-! ## Lines that are read -/

/-- How paragraphs are told apart and written. -/
structure Plan where
  /-- The widths of lines. -/
  widths : Widths
  /-- Whether the second line says how the others start. -/
  isCrown : Bool
  /-- Whether the first line starts elsewhere than the others. -/
  isTagged : Bool
  /-- Whether lines are only split. -/
  splits : Bool
  /-- Whether there is one blank between words, and two between sentences. -/
  isUniform : Bool
  /-- How far the text before lines is from their start. -/
  lead : Nat
  /-- The text before lines, without blanks around it. -/
  mark : Octets
  /-- The length of that text with the blanks after it. -/
  markLength : Nat

/-- A line that has been read. -/
structure Line where
  /-- Where the text before it starts. -/
  indent : Nat
  /-- The column where its words start. -/
  column : Nat
  /-- What is left after the text before it and the blanks. -/
  rest : List Char
  /-- Whether it has an end. -/
  ended : Bool
  deriving Repr, DecidableEq

/-- The column after blanks, what is left, and whether there was a tab. -/
def afterBlanks : Nat -> List Char -> Nat × List Char × Bool
  | column, ' ' :: rest => afterBlanks (column + 1) rest
  | column, '\t' :: rest =>
      let (column, rest, _) := afterBlanks ((column / 8 + 1) * 8) rest
      (column, rest, true)
  | column, rest => (column, rest, false)

/-- Go over the text before a line, as far as it is there. -/
def afterMark : List Char -> Nat -> List Char -> Nat × List Char × Bool
  | [], column, rest => (column, rest, true)
  | m :: mark, column, c :: rest =>
      if m == c then afterMark mark (column + 1) rest else (column, c :: rest, false)
  | _, column, [] => (column, [], false)

/-- Read the start of a line; the flag says whether there was a tab. -/
def Plan.lineOf (plan : Plan) (text : Octets) (ended : Bool) : Line × Bool :=
  let (column, rest, tabs) := afterBlanks 0 text.toList
  if plan.mark.isEmpty then
    ({ indent := min plan.lead column, column, rest, ended }, tabs)
  else
    let (after, rest, isThere) := afterMark plan.mark.toList column rest
    if !isThere then ({ indent := column, column := after, rest, ended }, tabs)
    else
      let (after, rest, further) := afterBlanks after rest
      ({ indent := column, column := after, rest, ended }, tabs || further)

/-- Whether a character is a blank of any kind. -/
def isSpace (c : Char) : Bool :=
  c == ' ' || ('\t' ≤ c && c ≤ '\r')

/-- Whether a character is punctuation. -/
def isPunctuation (c : Char) : Bool :=
  '!' ≤ c && c ≤ '~' && !c.isAlphanum

/-- A word, with the blanks after it, and whether it is the last one of a line. -/
def wordOf
    (plan : Plan)
    (text : List Char)
    (space : Nat)
    (isAtEnd : Bool) : Word :=
  let closes (c : Char) : Bool := [')', ']', '\'', '"'].contains c
  let chars := text.reverse
  let bare := chars.dropWhile closes
  let final := if bare.isEmpty then text.head? else bare.head?
  let endsSentence := final.any fun c => ['.', '?', '!'].contains c
  let isLast := endsSentence && (isAtEnd || 1 < space)
  let space := if isAtEnd || plan.isUniform then if isLast then 2 else 1 else space
  { text := String.ofList text, space, endsSentence, isLast
    opens := text.head?.any fun c => ['(', '[', '\'', '\x60', '"'].contains c
    isPunctuated := chars.head?.any isPunctuation }

/-- The words from a column on; the flag says whether there was a tab. The number bounds them. -/
def wordsOn (plan : Plan) : Nat -> Nat -> List Char -> List Word × Bool
  | 0, _, _ => ([], false)
  | fuel + 1, column, chars =>
      match chars with
      | [] => ([], false)
      | first :: rest =>
          let text := first :: rest.takeWhile fun c => !isSpace c
          let column := column + text.length
          let (after, left, tabs) := afterBlanks column (rest.dropWhile fun c => !isSpace c)
          let word := wordOf plan text (after - column) left.isEmpty
          let (words, further) := wordsOn plan fuel after left
          (word :: words, tabs || further)

/-- The words of a line; the last one of a file that has no end is the end of a sentence. -/
def Plan.words (plan : Plan) (line : Line) : List Word × Bool :=
  let (words, tabs) := wordsOn plan (line.rest.length + 1) line.column line.rest
  match line.ended, words.reverse with
  | false, last :: before =>
      let last : Word := { last with isLast := true, space := 2 }
      ((last :: before).reverse, tabs)
  | _, _ => (words, tabs)

/-! ## Lines that are written -/

/-- Blanks from a column on; tabs are used if there have been any. -/
def gap (tabs : Bool) (column count : Nat) : Octets :=
  let stop := column + count
  let tabbed := stop / 8 * 8
  if tabs && column + 1 < tabbed then
    let tabCount := (tabbed - column / 8 * 8) / 8
    String.ofList (List.replicate tabCount '\t' ++ List.replicate (stop - tabbed) ' ')
  else String.ofList (List.replicate count ' ')

/-- The words of a line with the blanks between them, from a column on. -/
def wordsText (tabs : Bool) : Nat -> List Word -> Octets
  | _, [] => ""
  | _, [word] => word.text
  | column, word :: next :: rest =>
      let column := column + word.text.length
      word.text ++ gap tabs column word.space ++
        wordsText tabs (column + word.space) (next :: rest)

/-- A line of a paragraph. -/
def Plan.lineText
    (plan : Plan)
    (tabs : Bool)
    (markIndent indent : Nat)
    (words : List Word) : Octets :=
  let column := markIndent + plan.mark.length
  gap tabs 0 markIndent ++ plan.mark ++ gap tabs column (indent - column) ++
    wordsText tabs (max column indent) words ++ "\n"

/-- A line that does not belong to a paragraph. -/
def Plan.copied (plan : Plan) (tabs : Bool) (line : Line) : Octets :=
  let rest := String.ofList line.rest
  let lineEnd := if line.ended then "\n" else ""
  if line.indent < line.column || !line.rest.isEmpty then
    let mark := String.ofList (plan.mark.toList.take (line.column - line.indent))
    let column := line.indent + mark.length
    let between := if line.rest.isEmpty then "" else gap tabs column (line.column - column)
    let isCut := line.rest.isEmpty && !line.ended &&
      line.indent + plan.mark.length ≤ line.column
    gap tabs 0 line.indent ++ mark ++ between ++ rest ++ (if isCut then "\n" else lineEnd)
  else rest ++ lineEnd

/-! ## Paragraphs -/

/-- Where filling is. -/
structure Place where
  /-- Where the other lines of the last paragraph started. -/
  others : Nat := 0
  /-- Where the text before lines starts. -/
  markIndent : Nat
  /-- Whether there has been a tab. -/
  tabs : Bool := false

/-- Whether a line belongs to a paragraph at all. -/
def Plan.isText (plan : Plan) (place : Place) (line : Line) : Bool :=
  !line.rest.isEmpty && place.markIndent ≤ line.indent &&
    line.indent + plan.markLength ≤ line.column

/-- Whether a line goes on with a paragraph. -/
def Plan.goesOn (plan : Plan) (place : Place) (line : Line) : Bool :=
  !line.rest.isEmpty && line.indent == place.markIndent &&
    line.indent + plan.markLength ≤ line.column

/-- Where the other lines of a paragraph start, given the line after the first one. -/
def Plan.otherIndent
    (plan : Plan)
    (place : Place)
    (first : Nat)
    (next : Option Line) : Nat :=
  let following := next.filter (plan.goesOn place)
  if plan.splits then first
  else if plan.isCrown then (following.map (·.column)).getD first
  else if plan.isTagged then
    match following.filter (·.column != first) with
    | some line => line.column
    | none => if place.others = first then if first = 0 then 3 else 0 else place.others
  else first

/-- The lines that go on with a paragraph, and the others. -/
def Plan.split
    (plan : Plan)
    (place : Place)
    (first : Nat)
    (lines : List Line) : List Line × List Line :=
  let isNext (line : Line) : Bool := plan.goesOn place line && line.column == place.others
  if plan.splits then ([], lines)
  else
    match lines with
    | [] => ([], [])
    | line :: _ =>
        let takes :=
          if plan.isCrown then plan.goesOn place line
          else if plan.isTagged then plan.goesOn place line && line.column != first
          else isNext line
        if takes then (lines.takeWhile isNext, lines.dropWhile isNext) else ([], lines)

/-- The lines of a paragraph of some words. -/
def Plan.paragraph
    (plan : Plan)
    (place : Place)
    (indents : Indents)
    (words : List Word) : Octets :=
  let found := breaks plan.widths indents words.length [] words
  let lines := linesOfBreaks (words.length + 1) 0 found
  let texts := lines.zipIdx.map fun ((words, _), number) =>
    plan.lineText place.tabs place.markIndent (if number = 0 then indents.first else indents.others)
      words
  String.join texts

/-- Fill the lines of a file; the number bounds the paragraphs. -/
def Plan.fill (plan : Plan) : Nat -> Place -> List (Line × Bool) -> Octets
  | 0, _, _ => ""
  | _ + 1, _, [] => ""
  | fuel + 1, place, (line, hasTab) :: rest =>
      let place := { place with tabs := place.tabs || hasTab }
      if !plan.isText place line then
        plan.copied place.tabs line ++ plan.fill fuel place rest
      else
        let place := { place with markIndent := line.indent }
        let first := line.column
        let others := plan.otherIndent place first (rest.head?.map (·.1))
        let place := { place with others }
        let (taken, _) := plan.split place first (rest.map (·.1))
        let after := rest.drop taken.length
        let lookedAt := (line, hasTab) :: rest.take (taken.length + 1)
        let found := ((line :: taken).map plan.words)
        let tabs := place.tabs || lookedAt.any (·.2) || found.any (·.2)
        let place := { place with tabs }
        let words := found.flatMap (·.1)
        let words :=
          match words.reverse with
          | last :: before => ({ last with endsSentence := true, isLast := true } :: before).reverse
          | [] => []
        plan.paragraph place { first, others } words ++ plan.fill fuel place after

/-- Fill the lines of a file. -/
def Plan.text (plan : Plan) (text : Octets) : Octets :=
  let (lines, ended) := linesOf text
  let count := lines.length
  let read := lines.zipIdx.map fun (line, place) =>
    plan.lineOf line (ended || place + 1 != count)
  plan.fill (count + 1) { markIndent := 0 } read

/-! ## Options -/

/-- How lines are filled, or what is wrong with the options. -/
def planOf (given : List Given) : Except Octets Plan := do
  let width (letter : Char) (most : Nat) : Except Octets (Option Nat) :=
    match argumentOf? given letter with
    | none => pure none
    | some text =>
        match boundedNatural text 0 most with
        | .ok n => pure (some n)
        | .error reason => throw s!"invalid width: {reason}"
  let most ← width 'w' 2500
  let goal ← width 'g' (most.getD 75)
  let widths : Widths :=
    match most, goal with
    | some most, some goal => { most, goal }
    | none, some goal => { most := goal + 10, goal }
    | _, none =>
        let most := most.getD 75
        { most, goal := most * 187 / 200 }
  let text := ((argumentOf? given 'p').getD "").toList
  let bare := text.dropWhile (· == ' ')
  let mark := (bare.reverse.dropWhile (· == ' ')).reverse
  pure
    { widths, isCrown := isGiven given 'c', isTagged := isGiven given 't'
      splits := isGiven given 's', isUniform := isGiven given 'u'
      lead := text.length - bare.length, mark := String.ofList mark, markLength := bare.length }

/-- The options. -/
def options : OptionTable where
  letters :=
    [('c', .nothing), ('t', .nothing), ('s', .nothing), ('u', .nothing), ('p', .something),
      ('w', .something), ('g', .something)] ++
      "0123456789".toList.map fun digit => (digit, .nothing)
  words :=
    [("crown-margin", 'c', .nothing), ("tagged-paragraph", 't', .nothing),
      ("split-only", 's', .nothing), ("uniform-spacing", 'u', .nothing),
      ("prefix", 'p', .something), ("width", 'w', .something), ("goal", 'g', .something)]

/-- The arguments with a number after the first hyphen spelled out. -/
def spelled : List Octets -> List Octets
  | [] => []
  | arg :: rest =>
      match arg.toList with
      | '-' :: c :: digits =>
          if c.isDigit then "-w" :: String.ofList (c :: digits) :: rest else arg :: rest
      | _ => arg :: rest

/-- Print files with their lines filled. -/
def program : Program := fun launch =>
  withOptions options 1 (fun launch given operands => do
    match given.find? (·.letter.isDigit) with
    | some { letter, .. } =>
        misuse launch.name
          (s!"invalid option -- {String.singleton letter}; -WIDTH is recognized only when it is " ++
            "the first\noption; use -w N instead") 1
    | none =>
        match planOf given with
        | .error reason => fail launch.name reason 1
        | .ok plan => do
            let complain (operand : Octets) (fault : Fault) : Act Unit :=
              if fault == .isDirectory then warn launch.name "read error"
              else
                warn launch.name
                  s!"cannot open {Quoted.word operand} for reading: {fault.text}"
            let (texts, status) ← gather complain (orInput operands)
            printing launch.name (String.join (texts.map plan.text)) status)
    { launch with args := spelled launch.args }

end Fill

/-- Print files with their lines filled. -/
def fmt : Program :=
  Fill.program

end Programs
end CameraFleet
