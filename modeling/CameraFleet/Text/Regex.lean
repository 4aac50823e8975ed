import CameraFleet.Text.CharClass

/-!
# Regular expressions

A regular expression is matched at a place of a text. Of all the ways in which it
can be matched from there, the longest one counts; among those of one length, the
earlier parts take as much as they can. The first place where there is a match is
the one that is found.
-/

namespace CameraFleet

/-- A condition on a place of a text. -/
inductive Regex.Anchor
  /-- At the start of a line. -/
  | lineStart
  /-- At the end of a line. -/
  | lineEnd
  /-- At the start of the text. -/
  | textStart
  /-- At the end of the text. -/
  | textEnd
  /-- At the start of a word. -/
  | wordStart
  /-- At the end of a word. -/
  | wordEnd
  /-- At the start or the end of a word. -/
  | wordEdge
  /-- Neither at the start nor at the end of a word. -/
  | noEdge
  deriving Repr, DecidableEq

/-- A member of a set of characters. -/
inductive Regex.Member
  /-- The characters between two. -/
  | range (first last : Char)
  /-- A class of characters. -/
  | named (name : String)
  deriving Repr, DecidableEq

/-- A regular expression. -/
inductive Regex
  /-- Nothing. -/
  | empty
  /-- One character. -/
  | char (c : Char)
  /-- Any character. -/
  | anything
  /-- A character that is in a set, or is not. -/
  | set (inverted : Bool) (members : List Regex.Member)
  /-- A character of a word, or another one. -/
  | word (inverted : Bool)
  /-- A condition on the place. -/
  | anchor (condition : Regex.Anchor)
  /-- A part with a number. -/
  | group (number : Nat) (body : Regex)
  /-- The text that the group of a number matched. -/
  | again (number : Nat)
  /-- One after the other. -/
  | both (first second : Regex)
  /-- One or the other. -/
  | either (first second : Regex)
  /-- So many times. -/
  | times (least : Nat) (most : Option Nat) (body : Regex)
  deriving Repr, DecidableEq

namespace Regex

/-- The text in which something is sought. -/
structure Subject where
  /-- Its characters. -/
  chars : Array Char
  /-- Whether letters are the same in both cases. -/
  foldsCase : Bool := false
  /-- Whether lines start and end inside of the text; then their ends are in no inverted set. -/
  hasLines : Bool := false
  /-- Whether what the groups matched decides how it goes on. -/
  remembers : Bool := false

/-- A way through a part of a text: the place after it, and what the groups matched. -/
structure Track where
  /-- The place. -/
  place : Nat
  /-- The numbers of groups with the places where they start and end; the latest comes first. -/
  groups : List (Nat × Nat × Nat) := []
  deriving Repr, DecidableEq

/-- Whether a character belongs to a word. -/
def isWordChar (c : Char) : Bool :=
  c.isAlphanum || c == '_'

/-- Whether a character is a member. -/
def Member.holds (member : Member) (c : Char) : Bool :=
  match member with
  | .range first last => first ≤ c && c ≤ last
  | .named name => CharClass.holds name c

namespace Subject

/-- Whether two characters are the same. -/
def same (subject : Subject) (c d : Char) : Bool :=
  c == d || (subject.foldsCase && c.toLower == d.toLower)

/-- Whether a character is in a set. -/
def isIn
    (subject : Subject)
    (members : List Member)
    (c : Char) : Bool :=
  members.any (·.holds c) ||
    (subject.foldsCase && members.any fun member => member.holds c.toLower || member.holds c.toUpper)

/-- Whether a character ends a line inside of the text. -/
def isLineEnd (subject : Subject) (c : Char) : Bool :=
  subject.hasLines && c == '\n'

/-- Whether there is a character of a word at a place. -/
def hasWordAt (subject : Subject) (place : Nat) : Bool :=
  match subject.chars[place]? with
  | some c => isWordChar c
  | none => false

/-- Whether there is a character of a word before a place. -/
def hasWordBefore (subject : Subject) : Nat -> Bool
  | 0 => false
  | place + 1 => subject.hasWordAt place

/-- Whether a place satisfies a condition. -/
def holdsAt
    (subject : Subject)
    (condition : Anchor)
    (place : Nat) : Bool :=
  let before := subject.hasWordBefore place
  let after := subject.hasWordAt place
  match condition with
  | .textStart => place == 0
  | .textEnd => place == subject.chars.size
  | .lineStart =>
      place == 0 || (subject.hasLines && subject.chars[place - 1]? == some '\n')
  | .lineEnd =>
      place == subject.chars.size || (subject.hasLines && subject.chars[place]? == some '\n')
  | .wordStart => !before && after
  | .wordEnd => before && !after
  | .wordEdge => before != after
  | .noEdge => before == after

/-- Go over a character, if it is accepted. -/
def advance
    (subject : Subject)
    (accepts : Char -> Bool)
    (track : Track) : Option Track :=
  match subject.chars[track.place]? with
  | some c => if accepts c then some { track with place := track.place + 1 } else none
  | none => none

/-- Go over the text that a group matched, if it stands there again. -/
def overAgain
    (subject : Subject)
    (number : Nat)
    (track : Track) : Option Track :=
  match track.groups.lookup number with
  | none => none
  | some (start, stop) =>
      let isSame := (List.range (stop - start)).all fun i =>
        match subject.chars[start + i]?, subject.chars[track.place + i]? with
        | some c, some d => subject.same c d
        | _, _ => false
      if isSame then some { track with place := track.place + (stop - start) } else none

/-- Whether two ways lead to the same. -/
def isLike (subject : Subject) (a b : Track) : Bool :=
  if subject.remembers then a == b else a.place == b.place

/-- Ways without those that lead to the same as an earlier one. -/
def distinct (subject : Subject) (tracks : List Track) : List Track :=
  (tracks.foldl
    (fun found track => if found.any (subject.isLike track) then found else track :: found)
    []).reverse

end Subject

/-- Ways, the longest one first. -/
def longestFirst (tracks : List Track) : List Track :=
  tracks.mergeSort fun a b => b.place ≤ a.place

/-- The ways after repeating a step; the first number bounds the repetitions. -/
def climb
    (subject : Subject)
    (step : List Track -> List Track)
    (least : Nat)
    (most : Option Nat) : Nat -> Nat -> List Track -> List Track
  | 0, _, _ => []
  | fuel + 1, count, tracks =>
      let here := if least ≤ count then tracks else []
      if tracks.isEmpty || most == some count then here
      else
        let next := tracks.flatMap fun track =>
          (step [track]).filter fun after => count < least || track.place < after.place
        here ++ climb subject step least most fuel (count + 1) (subject.distinct next)

/-- Note what a group matched that starts at a place. -/
def Track.noting
    (number start : Nat)
    (track : Track) : Track :=
  { track with
    groups := (number, start, track.place) :: track.groups.filter fun entry => entry.1 != number }

/-- The ways through a regular expression that go on from some ways. -/
def follow (subject : Subject) : Regex -> List Track -> List Track
  | .empty, tracks => tracks
  | .char c, tracks => tracks.filterMap (subject.advance (subject.same c))
  | .anything, tracks => tracks.filterMap (subject.advance fun c => !subject.isLineEnd c)
  | .set inverted members, tracks =>
      tracks.filterMap (subject.advance fun c =>
        subject.isIn members c != inverted && !(inverted && subject.isLineEnd c))
  | .word inverted, tracks => tracks.filterMap (subject.advance fun c => isWordChar c != inverted)
  | .anchor condition, tracks => tracks.filter fun track => subject.holdsAt condition track.place
  | .again number, tracks => subject.distinct (tracks.filterMap (subject.overAgain number))
  | .both first second, tracks => follow subject second (follow subject first tracks)
  | .group number body, tracks =>
      subject.distinct (tracks.flatMap fun track =>
        (longestFirst (follow subject body [track])).map (Track.noting number track.place))
  | .either first second, tracks =>
      subject.distinct (tracks.flatMap fun track =>
        longestFirst (follow subject first [track] ++ follow subject second [track]))
  | .times least most body, tracks =>
      subject.distinct (tracks.flatMap fun track =>
        longestFirst
          (climb subject (follow subject body) least most (least + subject.chars.size + 2) 0
            [track]))

/-- Whether a regular expression goes back to what a group matched. -/
def looksBack : Regex -> Bool
  | .again _ => true
  | .group _ body | .times _ _ body => body.looksBack
  | .both first second | .either first second => first.looksBack || second.looksBack
  | _ => false

/-- The number of groups. -/
def groupCount : Regex -> Nat
  | .group _ body => body.groupCount + 1
  | .times _ _ body => body.groupCount
  | .both first second | .either first second => first.groupCount + second.groupCount
  | _ => 0

/-- The part of a text that a regular expression matches. -/
structure Found where
  /-- Where it starts. -/
  start : Nat
  /-- Where it ends. -/
  stop : Nat
  /-- The numbers of groups with the places where they start and end. -/
  groups : List (Nat × Nat × Nat)
  deriving Repr, DecidableEq

/-- The longest match at a place. -/
def matchAt?
    (regex : Regex)
    (subject : Subject)
    (place : Nat) : Option Found :=
  let subject := { subject with remembers := regex.looksBack }
  match longestFirst (follow subject regex [{ place }]) with
  | track :: _ => some { start := place, stop := track.place, groups := track.groups }
  | [] => none

/-- The first match at one of some places from a place on. -/
def searchOn
    (regex : Regex)
    (subject : Subject) : Nat -> Nat -> Option Found
  | 0, _ => none
  | count + 1, place =>
      match regex.matchAt? subject place with
      | some found => some found
      | none => searchOn regex subject count (place + 1)

/-- The first match from a place on. -/
def search?
    (regex : Regex)
    (subject : Subject)
    (place : Nat) : Option Found :=
  searchOn regex subject (subject.chars.size + 1 - place) place

/-- The text between two places. -/
def Subject.between
    (subject : Subject)
    (start stop : Nat) : String :=
  String.ofList (subject.chars.extract start stop).toList

end Regex
end CameraFleet
