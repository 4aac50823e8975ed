/-!
# Outcomes

The payload of a capture or upload reply says whether the job succeeded, with a
detail on its first line and the command's output on the lines after it.
-/

namespace CameraFleet

/-- How a worker's job ended. -/
structure Outcome where
  /-- Whether the job succeeded. -/
  ok : Bool
  /-- What happened, in one line. -/
  detail : String
  /-- What the command printed. -/
  output : String := ""
  deriving Repr, DecidableEq

namespace Outcome

/-- The written verdict. -/
def verdict (ok : Bool) : String :=
  if ok then "SUCCESS" else "ERROR"

/-- An outcome as a payload: verdict and detail, then the output if there is any. -/
def text (outcome : Outcome) : String :=
  let head := verdict outcome.ok ++ ":" ++ outcome.detail
  if outcome.output.isEmpty then head else head ++ "\n" ++ outcome.output

/-- The outcome of a verdict and the text after it; the output follows the first line break. -/
def ofRest (ok : Bool) (rest : List Char) : Outcome :=
  { ok
    detail := String.ofList (rest.takeWhile (· != '\n'))
    output := String.ofList ((rest.dropWhile (· != '\n')).drop 1) }

/-- Read an outcome from a payload; a payload without a verdict is none. -/
def parse? (payload : String) : Option Outcome :=
  let text := payload.toList
  let success := (verdict true ++ ":").toList
  let failure := (verdict false ++ ":").toList
  if success.isPrefixOf text then some (ofRest true (text.drop success.length))
  else if failure.isPrefixOf text then some (ofRest false (text.drop failure.length))
  else none

end Outcome
end CameraFleet
