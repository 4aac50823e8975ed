import CameraFleet.Number.Floating
import CameraFleet.Text.Octets
import CameraFleet.Text.Regex

/-!
# Scripts for records

A script says what is done for each record of the input, before the first one
and after the last one. Its rules have patterns, and what they do is written
with statements and expressions.
-/

namespace CameraFleet
namespace Programs
namespace Records

/-! ## Expressions -/

/-- What two numbers give a third one. -/
inductive Operator
  /-- Their sum. -/
  | plus
  /-- Their difference. -/
  | minus
  /-- Their product. -/
  | times
  /-- Their quotient. -/
  | over
  /-- What is left after dividing. -/
  | modulo
  /-- A power. -/
  | power
  deriving Repr, DecidableEq

/-- How two values may compare. -/
inductive Comparison
  /-- The first one is less. -/
  | less
  /-- The first one is no greater. -/
  | atMost
  /-- They are equal. -/
  | same
  /-- They are not equal. -/
  | different
  /-- The first one is no less. -/
  | atLeast
  /-- The first one is greater. -/
  | greater
  deriving Repr, DecidableEq

/-- A function that every script has. -/
inductive Builtin
  /-- The angle of a point. -/
  | angle
  /-- Close a file or a command. -/
  | close
  /-- The cosine. -/
  | cosine
  /-- The exponential function. -/
  | exponential
  /-- Write what has not been written. -/
  | flush
  /-- Replace all matches. -/
  | replaceAll
  /-- The place of a text in another one. -/
  | index
  /-- The whole part. -/
  | whole
  /-- The length. -/
  | length
  /-- The natural logarithm. -/
  | logarithm
  /-- Find a match. -/
  | find
  /-- The number of seconds for a date. -/
  | dateNumber
  /-- A number by chance. -/
  | random
  /-- The sine. -/
  | sine
  /-- Split a text. -/
  | split
  /-- A text by a format. -/
  | format
  /-- The square root. -/
  | root
  /-- Start the numbers by chance anew. -/
  | seed
  /-- A date by a format. -/
  | date
  /-- Replace the first match. -/
  | replace
  /-- A part of a text. -/
  | part
  /-- Run a command of the shell. -/
  | run
  /-- The present as a number of seconds. -/
  | now
  /-- The text in small letters. -/
  | lower
  /-- The text in capital letters. -/
  | upper
  deriving Repr, DecidableEq

/-- Where a line is read. -/
inductive LineSource
  /-- In the records. -/
  | records
  /-- In a file. -/
  | file
  /-- In what a command prints. -/
  | command
  deriving Repr, DecidableEq

/-- A regular expression, with the text by which it is written. -/
structure Pattern where
  /-- How it is written. -/
  text : Octets
  /-- What it means. -/
  regex : Regex
  deriving Repr, DecidableEq

/-- An expression. -/
inductive Expr
  /-- A number. -/
  | number (value : Floating)
  /-- A text. -/
  | text (text : Octets)
  /-- A regular expression; its value says whether it matches the record. -/
  | pattern (pattern : Pattern)
  /-- A variable. -/
  | variable (name : Octets)
  /-- An element of an array. -/
  | element (array : Octets) (keys : List Expr)
  /-- A field. -/
  | field (place : Expr)
  /-- Give a value to a variable, an element or a field. -/
  | assign (target value : Expr)
  /-- Give the result of an operation with the old value. -/
  | update (operator : Operator) (target value : Expr)
  /-- Change by one; the value is the one before or after that. -/
  | step (target : Expr) (isUp isBefore : Bool)
  /-- One or another expression. -/
  | choose (condition yes no : Expr)
  /-- Whether one of two is true. -/
  | either (first second : Expr)
  /-- Whether two are true. -/
  | both (first second : Expr)
  /-- Whether something is not true. -/
  | not (operand : Expr)
  /-- The number with the other sign. -/
  | negate (operand : Expr)
  /-- The number. -/
  | toNumber (operand : Expr)
  /-- How two values compare. -/
  | compare (how : Comparison) (first second : Expr)
  /-- Whether a pattern matches a text, or does not. -/
  | isMatch (inverted : Bool) (subject pattern : Expr)
  /-- Whether there is such an element. -/
  | hasKey (keys : List Expr) (array : Octets)
  /-- One text after the other. -/
  | join (first second : Expr)
  /-- The result of an operation. -/
  | combine (operator : Operator) (first second : Expr)
  /-- Call a function of the script. -/
  | call (name : Octets) (args : List Expr)
  /-- Call a function that every script has. -/
  | builtin (function : Builtin) (args : List Expr)
  /-- Read a line, perhaps to a variable, an element or a field. -/
  | readLine (source : LineSource) (origin target : Option Expr)

/-- Whether something can be given a value. -/
def Expr.isTarget : Expr -> Bool
  | .variable _ | .element _ _ | .field _ => true
  | _ => false

/-! ## Statements -/

/-- Where something is printed. -/
inductive Redirection
  /-- To a file that is emptied first. -/
  | writing
  /-- To the end of a file. -/
  | appending
  /-- To a command. -/
  | command
  deriving Repr, DecidableEq

/-- A statement. -/
inductive Statement
  /-- The value of an expression does not matter. -/
  | expression (expr : Expr)
  /-- Print values, perhaps to a file or a command. -/
  | print (args : List Expr) (target : Option (Redirection × Expr))
  /-- Print values by a format, perhaps to a file or a command. -/
  | printFormat (args : List Expr) (target : Option (Redirection × Expr))
  /-- Statements one after another. -/
  | block (body : List Statement)
  /-- One or another statement. -/
  | choose (condition : Expr) (yes : Statement) (no : Option Statement)
  /-- As long as something is true. -/
  | loop (condition : Expr) (body : Statement)
  /-- Once, and then as long as something is true. -/
  | loopAfter (body : Statement) (condition : Expr)
  /-- With a start, a condition and a step. -/
  | count (start condition step : Option Expr) (body : Statement)
  /-- For each key of an array. -/
  | forKeys (name array : Octets) (body : Statement)
  /-- Go on with the next record. -/
  | next
  /-- Go on with the next file. -/
  | nextFile
  /-- End the script. -/
  | exit (status : Option Expr)
  /-- End a function. -/
  | return (value : Option Expr)
  /-- End a loop. -/
  | break
  /-- Go on with the next turn of a loop. -/
  | continue
  /-- Take away an element. -/
  | delete (array : Octets) (keys : List Expr)
  /-- Take away all elements. -/
  | deleteAll (array : Octets)

/-! ## Scripts -/

/-- For which records something is done. -/
inductive Selection
  /-- For all. -/
  | all
  /-- For those for which an expression is true. -/
  | when (condition : Expr)
  /-- From one for which an expression is true to one for which another one is. -/
  | range (first last : Expr)

/-- A rule. -/
structure Rule where
  /-- For which records. -/
  selection : Selection
  /-- What is done; none if they are printed. -/
  body : Option Statement

/-- A function. -/
structure Function where
  /-- The names of its parameters. -/
  parameters : List Octets
  /-- What it does. -/
  body : Statement

/-- A script. -/
structure Script where
  /-- What is done before the first record. -/
  starts : List Statement := []
  /-- What is done for records. -/
  rules : List Rule := []
  /-- What is done after the last record. -/
  ends : List Statement := []
  /-- The functions. -/
  functions : List (Octets × Function) := []

end Records
end Programs
end CameraFleet
