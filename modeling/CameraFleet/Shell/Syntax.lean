import CameraFleet.Text.Octets

/-!
# Command language

A script is made of commands, which are joined, chosen between and repeated.
The words of a command are made of parts, some of them quoted; everything but
literal text in them is replaced when the command runs.
-/

namespace CameraFleet
namespace Shell

/-- A form of the command language. -/
inductive Language
  /-- The plain one. -/
  | plain
  /-- The one with lists, propositions and calculations. -/
  | extended
  deriving Repr, DecidableEq, Inhabited

/-- Which matches of a pattern are replaced. -/
inductive Matches
  /-- The first one. -/
  | first
  /-- All of them. -/
  | every
  /-- One at the start. -/
  | atStart
  /-- One at the end. -/
  | atEnd
  deriving Repr, DecidableEq

/-- How letters are changed. -/
inductive Casing
  /-- They become capital. -/
  | upper
  /-- They become small. -/
  | lower
  /-- They become what they are not. -/
  | toggled
  deriving Repr, DecidableEq

/-- What becomes of the value of a parameter. -/
inductive Use
  /-- It stands for itself. -/
  | plain
  /-- Its length is meant. -/
  | length
  /-- A word stands in for it if it is not set, or also if it is empty. -/
  | otherwise (orEmpty : Bool)
  /-- A word stands in for it in this case, and is assigned to the parameter. -/
  | assign (orEmpty : Bool)
  /-- It is an error in this case. -/
  | demand (orEmpty : Bool)
  /-- A word stands in for it except in this case. -/
  | instead (orEmpty : Bool)
  /-- The start that a pattern matches is taken away. -/
  | trimStart (longest : Bool)
  /-- The end that a pattern matches is taken away. -/
  | trimEnd (longest : Bool)
  /-- A part of it is meant, from one place on, and perhaps only so much of it. -/
  | slice
  /-- What a pattern matches is replaced. -/
  | replace (which : Matches)
  /-- The letters that a pattern matches change, or only the first letter may. -/
  | recase (casing : Casing) (every : Bool)
  /-- It is transformed, as a letter says. -/
  | transform (letter : Char)
  /-- Nothing that makes sense. -/
  | wrong
  deriving Repr, DecidableEq

/-- How a file is used in a redirection. -/
inductive FileUse
  /-- It is read. -/
  | input
  /-- It is written anew. -/
  | output
  /-- It is written anew, whatever the options say. -/
  | overwrite
  /-- Its end is written. -/
  | append
  /-- It is read and written. -/
  | both
  deriving Repr, DecidableEq

/-- How a choice by pattern goes on after one of its branches. -/
inductive Onward
  /-- It is over. -/
  | finish
  /-- With the next branch, whatever its patterns. -/
  | next
  /-- With the next branch that has a pattern which matches. -/
  | search
  deriving Repr, DecidableEq

/-- Why a text is no script, and the line on which this is seen. -/
structure SyntaxError where
  /-- The line. -/
  line : Nat
  /-- What is wrong, in one or more lines. -/
  texts : List Octets
  /-- The status of a shell that meets it. -/
  status : Nat := 2
  deriving Repr, DecidableEq

mutual

/-- A part of a word. -/
inductive Part
  /-- Characters that stand for themselves. -/
  | text (characters : Octets) (quoted : Bool)
  /-- The value of a parameter, with the word that belongs to its use. -/
  | parameter (name : Octets) (use : Use) (word : List Part) (quoted : Bool)
  /-- The output of a script. -/
  | output (script : Script) (quoted : Bool)
  /-- The value of an expression. -/
  | value (expression : List Part) (quoted : Bool)
  /-- What becomes of members of a parameter, or of the one that it names. -/
  | member
      (name : Octets)
      (selection : Selection)
      (indirect : Bool)
      (use : Use)
      (words : List (List Part))
      (quoted : Bool)
  /-- The names of the parameters that start with a text, perhaps as one text. -/
  | names (start : Octets) (joined quoted : Bool)
  /-- The keys of a list, perhaps as one text. -/
  | keys (name : Octets) (joined quoted : Bool)
  /-- What follows is given to a parameter, or to the member of one that has a key. -/
  | target (name : Octets) (key : Option (List Part)) (appends : Bool)
  /-- The members of a list; each may be given to a key. -/
  | list (members : List (List Part))

/-- Which members of a parameter are meant. -/
inductive Selection
  /-- Its value as such. -/
  | whole
  /-- All of them, perhaps as one text. -/
  | every (joined : Bool)
  /-- The one that has a key. -/
  | key (word : List Part)

/-- A redirection of a descriptor. -/
inductive Redirection
  /-- It leads to a file. -/
  | file (descriptor : Nat) (use : FileUse) (name : List Part)
  /-- It leads to where another descriptor leads, or nowhere. -/
  | duplicate (descriptor : Nat) (target : List Part)
  /-- It leads to a text that is part of the script, by the number of the text. -/
  | document (descriptor : Nat) (number : Nat)
  /-- It leads to a line that is given. -/
  | line (descriptor : Nat) (text : List Part)
  /-- The output and the error output lead to a file. -/
  | outputs (appends : Bool) (name : List Part)

/-- Something that is true or false. -/
inductive Proposition
  /-- A word is not empty. -/
  | filled (word : List Part)
  /-- A test of a word. -/
  | holds (operator : Octets) (operand : List Part)
  /-- A comparison of two words. -/
  | relates (operator : Octets) (first second : List Part)
  /-- The opposite. -/
  | negate (body : Proposition)
  /-- Both are true. -/
  | both (first second : Proposition)
  /-- One is true. -/
  | either (first second : Proposition)

/-- A script. -/
inductive Script
  /-- Nothing. -/
  | nothing
  /-- The assignments, words and redirections of one command, and the line it is on. -/
  | simple
      (line : Nat)
      (assignments : List (List Part))
      (words : List (List Part))
      (redirections : List Redirection)
  /-- Each command reads what the one before it writes. -/
  | pipeline (commands : List Script) (aside : Bool)
  /-- A command with redirections, and the line on which it starts. -/
  | redirected (line : Nat) (body : Script) (redirections : List Redirection)
  /-- A command that runs aside. -/
  | aside (body : Script) (redirections : List Redirection)
  /-- A command that runs apart, in a copy of the shell. -/
  | apart (line : Nat) (body : Script) (redirections : List Redirection)
  /-- One command after another. -/
  | sequence (first second : Script)
  /-- The second command if the first one succeeds. -/
  | both (first second : Script)
  /-- The second command if the first one fails. -/
  | either (first second : Script)
  /-- The opposite status. -/
  | negate (body : Script)
  /-- One of two commands, as a third one decides. -/
  | choose (test success failure : Script)
  /-- A command while, or until, another one succeeds. -/
  | loop (stopsOnSuccess : Bool) (test body : Script)
  /-- A command for each of some words. -/
  | each (line : Nat) (name : Octets) (words : List (List Part)) (body : Script)
  /-- The command of the first pattern that matches a word. -/
  | select
      (line : Nat)
      (subject : List Part)
      (branches : List (List (List Part) × Script × Onward))
  /-- A command gets a name. -/
  | define (line : Nat) (name : Octets) (body : Script)
  /-- Whether something is true. -/
  | claim (line : Nat) (proposition : Proposition)
  /-- Whether an expression is not zero. -/
  | calculate (line : Nat) (expression : List Part)
  /-- A command after one expression, while a second one is not zero, with a third one after it. -/
  | count (line : Nat) (start test step : List Part) (body : Script)
  /-- A command for each of some words that somebody picks. -/
  | pick (line : Nat) (name : Octets) (words : List (List Part)) (body : Script)
  /-- A command whose time is told, perhaps briefly. -/
  | timed (brief : Bool) (body : Script)
  /-- A command that is written to, or read from, by the name of a file. -/
  | channel (reads : Bool) (body : Script)
  /-- A text that is no script, which is only seen when it runs. -/
  | faulty (error : SyntaxError)

end

/-- A word of a command. -/
abbrev Word := List Part

/-- A redirection of the error output to the output. -/
def errorsToOutput : Redirection := .duplicate 2 [.text "1" false]

/-- A command whose error output goes where its output goes. -/
def Script.withErrors : Script -> Script
  | .simple line assignments words redirections =>
      .simple line assignments words (redirections ++ [errorsToOutput])
  | .redirected line body redirections =>
      .redirected line body (redirections ++ [errorsToOutput])
  | .apart line body redirections => .apart line body (redirections ++ [errorsToOutput])
  | body => .redirected 0 body [errorsToOutput]

end Shell
end CameraFleet
