import CameraFleet.Text.CharClass

/-!
# Ordered regular expressions

These regular expressions say not only what is matched, but also in which order
the possibilities are tried: the first one with which the whole expression fits
is taken. They may look ahead and back, and may refer to what a group matched.
-/

namespace CameraFleet

/-- A member of a set of characters. -/
inductive OrderedRegex.Member
  /-- The characters between two. -/
  | range (first last : Char)
  /-- The characters of a class, or all others. -/
  | named (name : String) (inverted : Bool)
  deriving Repr, DecidableEq

/-- A condition on a place. -/
inductive OrderedRegex.Anchor
  /-- It is the start of a line. -/
  | lineStart
  /-- It is the end of a line. -/
  | lineEnd
  /-- It is the start of the text. -/
  | textStart
  /-- It is the end of the text. -/
  | textEnd
  /-- A word starts or ends there, or does not. -/
  | wordEdge (inverted : Bool)
  deriving Repr, DecidableEq

/-- How many repetitions are tried first. -/
inductive OrderedRegex.Eagerness
  /-- As many as possible. -/
  | most
  /-- As few as possible. -/
  | fewest
  /-- As many as possible, and never fewer. -/
  | all
  deriving Repr, DecidableEq

/-- A regular expression whose possibilities have an order. -/
inductive OrderedRegex
  /-- It matches the empty text. -/
  | empty
  /-- It matches a character in a set, or one that is not. -/
  | set (members : List OrderedRegex.Member) (inverted foldsCase : Bool)
  /-- It matches the empty text where a condition holds. -/
  | anchor (condition : OrderedRegex.Anchor)
  /-- One after the other. -/
  | sequence (first second : OrderedRegex)
  /-- One, or else the other. -/
  | choice (first second : OrderedRegex)
  /-- Repetitions. -/
  | repetition
    (body : OrderedRegex)
    (least : Nat)
    (most : Option Nat)
    (eagerness : OrderedRegex.Eagerness)
  /-- A group with a number. -/
  | group (number : Nat) (body : OrderedRegex)
  /-- It matches the empty text where something follows, or does not. -/
  | ahead (body : OrderedRegex) (inverted : Bool)
  /-- It matches the empty text after something, or where it is not so. -/
  | behind (body : OrderedRegex) (inverted : Bool)
  /-- Only the first possibility counts. -/
  | atomic (body : OrderedRegex)
  /-- What a group matched, once more. -/
  | again (number : Nat) (foldsCase : Bool)
  /-- The match starts only here. -/
  | keep
  deriving Repr

namespace OrderedRegex

/-- Whether a character can be a part of a word. -/
def isWordChar (c : Char) : Bool :=
  c.isAlphanum || c == '_'

/-- Whether a character is in a class. -/
def isInClass (name : String) (c : Char) : Bool :=
  match name with
  | "word" => isWordChar c
  | "horizontal" => c == ' ' || c == '\t' || c == '\xa0'
  | "vertical" => ('\n' ≤ c && c ≤ '\r') || c == '\u0085'
  | "any" => true
  | _ => CharClass.holds name c

/-- Whether a character is in a member of a set. -/
def Member.holds (member : Member) (c : Char) : Bool :=
  match member with
  | .range first last => first ≤ c && c ≤ last
  | .named name inverted => isInClass name c != inverted

/-- Whether a character is in a set, or in the other case. -/
def isIn (members : List Member) (foldsCase : Bool) (c : Char) : Bool :=
  members.any fun member =>
    member.holds c || (foldsCase && (member.holds c.toLower || member.holds c.toUpper))

/-- How far matching is. -/
structure Progress where
  /-- The place in the text. -/
  place : Nat
  /-- The numbers of groups with the places where they start and end. -/
  groups : List (Nat × Nat × Nat) := []
  /-- Where the match starts. -/
  start : Nat
  deriving Repr, DecidableEq

/-- What is left to be matched. -/
inductive Task
  /-- A regular expression. -/
  | matching (regex : OrderedRegex)
  /-- The end of a group that started at a place. -/
  | close (number start : Nat)
  /-- Further repetitions after some, the last of which started at a place. -/
  | further
    (body : OrderedRegex)
    (least : Nat)
    (most : Option Nat)
    (isFewest : Bool)
    (count : Nat)
    (last : Option Nat)
  /-- Nothing, but this is only right at a place. -/
  | reach (place : Nat)

/-- Whether a condition holds at a place. -/
def holdsAt
    (text : Array Char)
    (condition : Anchor)
    (place : Nat) : Bool :=
  let isWord (place : Nat) : Bool := text[place]?.any isWordChar
  match condition with
  | .lineStart => place == 0 || text[place - 1]? == some '\n'
  | .lineEnd => place == text.size || text[place]? == some '\n'
  | .textStart => place == 0
  | .textEnd => place == text.size
  | .wordEdge inverted => ((place != 0 && isWord (place - 1)) != isWord place) != inverted

/-- Whether two characters are the same. -/
def areSame (foldsCase : Bool) (a b : Char) : Bool :=
  a == b || (foldsCase && a.toLower == b.toLower)

/-- Go on with what is left to be matched; the number bounds the steps. -/
def run (text : Array Char) : Nat -> List Task -> Progress -> Option Progress
  | 0, _, _ => none
  | _ + 1, [], progress => some progress
  | fuel + 1, task :: rest, progress =>
      let place := progress.place
      match task with
      | .reach goal => if place = goal then run text fuel rest progress else none
      | .close number start =>
          let groups := (number, start, place) :: progress.groups.filter (·.1 != number)
          run text fuel rest { progress with groups }
      | .further body least most isFewest count last =>
          if last == some place && least ≤ count then run text fuel rest progress
          else
            let next := Task.further body least most isFewest (count + 1) (some place)
            if count < least then run text fuel (.matching body :: next :: rest) progress
            else if most.any (· ≤ count) then run text fuel rest progress
            else if isFewest then
              match run text fuel rest progress with
              | some found => some found
              | none => run text fuel (.matching body :: next :: rest) progress
            else
              match run text fuel (.matching body :: next :: rest) progress with
              | some found => some found
              | none => run text fuel rest progress
      | .matching regex =>
          match regex with
          | .empty => run text fuel rest progress
          | .set members inverted foldsCase =>
              match text[place]? with
              | none => none
              | some c =>
                  if isIn members foldsCase c != inverted then
                    run text fuel rest { progress with place := place + 1 }
                  else none
          | .anchor condition =>
              if holdsAt text condition place then run text fuel rest progress else none
          | .sequence first second =>
              run text fuel (.matching first :: .matching second :: rest) progress
          | .choice first second =>
              match run text fuel (.matching first :: rest) progress with
              | some found => some found
              | none => run text fuel (.matching second :: rest) progress
          | .repetition body least most .all =>
              let tasks := [Task.further body least most false 0 none]
              match run text fuel tasks progress with
              | some found => run text fuel rest found
              | none => none
          | .repetition body least most eagerness =>
              let isFewest := eagerness == .fewest
              run text fuel (.further body least most isFewest 0 none :: rest) progress
          | .group number body =>
              run text fuel (.matching body :: .close number place :: rest) progress
          | .ahead body inverted =>
              match run text fuel [.matching body] progress with
              | some found =>
                  if inverted then none
                  else run text fuel rest { progress with groups := found.groups }
              | none => if inverted then run text fuel rest progress else none
          | .behind body inverted =>
              let found := (List.range (place + 1)).findSome? fun count =>
                run text fuel [.matching body, .reach place]
                  { progress with place := place - count }
              match found with
              | some found =>
                  if inverted then none
                  else run text fuel rest { progress with groups := found.groups }
              | none => if inverted then run text fuel rest progress else none
          | .atomic body =>
              match run text fuel [.matching body] progress with
              | some found => run text fuel rest found
              | none => none
          | .again number foldsCase =>
              match progress.groups.lookup number with
              | none => none
              | some (start, stop) =>
                  let sought := (text.extract start stop).toList
                  let found := (text.extract place (place + sought.length)).toList
                  let fits := found.length == sought.length &&
                    (sought.zip found).all fun (a, b) => areSame foldsCase a b
                  if fits then
                    run text fuel rest { progress with place := place + sought.length }
                  else none
          | .keep => run text fuel rest { progress with start := place }

/-- More steps than any match takes. -/
def manySteps : Nat := 100000000

/-- The match at a place: where it starts and ends. -/
def matchAt?
    (regex : OrderedRegex)
    (text : Array Char)
    (place : Nat) : Option (Nat × Nat) :=
  (run text manySteps [.matching regex] { place, start := place }).map fun found =>
    (found.start, found.place)

/-- The first match at one of some places from a place on. -/
def searchOn
    (regex : OrderedRegex)
    (text : Array Char) : Nat -> Nat -> Option (Nat × Nat)
  | 0, _ => none
  | count + 1, place =>
      match regex.matchAt? text place with
      | some found => some found
      | none => searchOn regex text count (place + 1)

/-- The first match from a place on: where it starts and ends. -/
def search?
    (regex : OrderedRegex)
    (text : Array Char)
    (place : Nat) : Option (Nat × Nat) :=
  regex.searchOn text (text.size + 1 - place) place

/-- The length of all that is matched, if there is only one. -/
def fixedLength? : OrderedRegex -> Option Nat
  | .empty | .anchor _ | .ahead _ _ | .behind _ _ | .keep => some 0
  | .set _ _ _ => some 1
  | .sequence first second => do
      let a ← fixedLength? first
      let b ← fixedLength? second
      pure (a + b)
  | .choice first second =>
      match fixedLength? first, fixedLength? second with
      | some a, some b => if a = b then some a else none
      | _, _ => none
  | .repetition body least most _ =>
      match fixedLength? body, most with
      | some length, some most => if least = most then some (length * least) else none
      | _, _ => none
  | .group _ body | .atomic body => fixedLength? body
  | .again _ _ => none

/-- Whether each of some alternatives matches texts of one length only. -/
def hasFixedChoices : OrderedRegex -> Bool
  | .choice first second => hasFixedChoices first && hasFixedChoices second
  | regex => regex.fixedLength?.isSome

end OrderedRegex
end CameraFleet
