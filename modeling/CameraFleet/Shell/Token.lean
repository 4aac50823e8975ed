import CameraFleet.Shell.Syntax

/-!
# Tokens of the command language

A script is read token by token. Operators are made of special characters;
keywords are words that have a meaning where a command may start.
-/

namespace CameraFleet
namespace Shell

/-- A token. -/
inductive Token
  /-- The script ends. -/
  | finish
  /-- A line ends. -/
  | newline
  /-- The operator of a redirection. -/
  | redirection
  /-- A word. -/
  | word
  /-- An operator. -/
  | operator (text : String)
  /-- A keyword. -/
  | keyword (text : String)
  deriving Repr, DecidableEq, Inhabited

namespace Token

/-- The name of a token in complaints. -/
def name : Token -> String
  | .finish => "end of file"
  | .newline => "newline"
  | .redirection => "redirection"
  | .word => "word"
  | .operator text | .keyword text => s!"\"{text}\""

/-- The keywords of every language. -/
def plainKeywords : List String :=
  ["!", "case", "do", "done", "elif", "else", "esac", "fi", "for", "if", "in", "then", "until",
    "while", "\x7b", "\x7d"]

/-- The keywords of a language. -/
def keywords : Language -> List String
  | .plain => plainKeywords
  | .extended => "[[" :: "function" :: "select" :: "time" :: plainKeywords

/-- The tokens that may follow a list of commands. -/
def endsList (token : Token) : Bool :=
  token == .finish ||
    [")", ";;", ";&", ";;&", "do", "done", "elif", "else", "esac", "fi", "then", "\x7d"].any
      fun text => token == .operator text || token == .keyword text

/-- How a choice by pattern goes on after a branch that ends with a token, if it may end so. -/
def onward? (token : Token) : Option Onward :=
  match token with
  | .operator ";;" => some .finish
  | .operator ";&" => some .next
  | .operator ";;&" => some .search
  | _ => none

end Token

/-- Whether a name may start with a character. -/
def startsName (c : Char) : Bool :=
  c.isAlpha || c == '_'

/-- Whether a character may be in a name. -/
def isInName (c : Char) : Bool :=
  c.isAlphanum || c == '_'

/-- Whether a text is a name. -/
def isName (text : Octets) : Bool :=
  match text.toList with
  | first :: rest => startsName first && rest.all isInName
  | [] => false

/-- The commands of the shell that no function can replace. -/
def specialCommands : List Octets :=
  [".", ":", "break", "continue", "eval", "exec", "exit", "export", "local", "readonly", "return",
    "set", "shift", "times", "trap", "unset"]

/-- Whether a text can be the name of a function. -/
def isFunctionName (text : Octets) : Bool :=
  isName text && !specialCommands.contains text

/-- Whether a character alone names a parameter. -/
def isSpecialName (c : Char) : Bool :=
  "!@#$*?-".toList.contains c || c.isDigit

/-- The texts of a word that has nothing but text. -/
def plainText? (word : Word) : Option Octets :=
  word.foldr (fun part rest =>
    match part, rest with
    | .text text _, some rest => some (text ++ rest)
    | _, _ => none) (some "")

/-- The text of a word that has nothing but text outside of quotes. -/
def bareText? (word : Word) : Option Octets :=
  word.foldr (fun part rest =>
    match part, rest with
    | .text text false, some rest => some (text ++ rest)
    | _, _ => none) (some "")

/-- Join neighbouring texts that are quoted alike. -/
def mergeText : Word -> Word
  | [] => []
  | part :: rest =>
      match part, mergeText rest with
      | .text first quoted, .text second quoted' :: others =>
          if quoted == quoted' then .text (first ++ second) quoted :: others
          else .text first quoted :: .text second quoted' :: others
      | part, others => part :: others

/-- The commands whose arguments may be assignments in the extended language. -/
def declaringCommands : List Octets :=
  ["declare", "export", "local", "readonly", "typeset"]

/-- What an assignment assigns to. -/
structure Destination where
  /-- The name of the parameter. -/
  name : Octets
  /-- The key of the member. -/
  key : Option Word := none
  /-- Whether the value is added to the old one. -/
  appends : Bool := false

/-- What a word assigns to, and the rest of the word, if it has been read as an assignment. -/
def destination? : Word -> Option (Destination × Word)
  | .target name key appends :: value => some ({ name, key, appends }, value)
  | _ => none

/-- The name that a text assigns to, and the rest of the word that starts with it. -/
def assignment? : Word -> Option (Octets × Word)
  | .text text false :: rest =>
      let chars := text.toList
      let name := chars.takeWhile isInName
      match chars.dropWhile isInName with
      | '=' :: value =>
          if isName (String.ofList name) then
            let start : Word := if value.isEmpty then [] else [.text (String.ofList value) false]
            some (String.ofList name, start ++ rest)
          else none
      | _ => none
  | _ => none

end Shell
end CameraFleet
