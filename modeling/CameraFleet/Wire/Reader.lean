import CameraFleet.Wire.Message

/-!
# Reading wire messages

One line break at the end of a text is dropped. The tag ends at the first colon
or line break; only after a colon does a remainder follow. What the remainder
must look like depends on the tag.
-/

namespace CameraFleet
namespace Wire

/-- Why a text is no message. -/
inductive Refusal
  /-- The tag is none of the protocol's. -/
  | unknownType (tag : String)
  /-- The tag is known, but its fields are not there. -/
  | malformed (tag : Tag)
  deriving Repr, DecidableEq

namespace Refusal

/-- The written name of the reason. -/
def reason : Refusal -> String
  | .unknownType _ => "unknown-type"
  | .malformed _ => "malformed"

/-- The tag as it was received. -/
def tagText : Refusal -> String
  | .unknownType tag => tag
  | .malformed tag => tag.text

end Refusal

/-- Whether a character ends a tag. -/
def endsTag (c : Char) : Bool :=
  c == ':' || c == '\n'

/-- A text without one line break at its end. -/
def dropLineBreak (text : List Char) : List Char :=
  if text.getLast? = some '\n' then text.dropLast else text

/-- A text without its tag: what follows a colon; nothing follows a line break. -/
def remainder : List Char -> List Char
  | ':' :: rest => rest
  | _ => []

/-- The part before the first colon, and the part after it. -/
def splitColon (text : List Char) : List Char × List Char :=
  (text.takeWhile (· != ':'), (text.dropWhile (· != ':')).drop 1)

/-- The message of a tag with a remainder, where the remainder has the tag's fields. -/
def Message.ofFields? (tag : Tag) (rest : List Char) : Option Message :=
  let whole := String.ofList rest
  let (head, tail) := splitColon rest
  match tag with
  | .register => if rest.isEmpty then none else some (.register whole)
  | .registered => if rest.isEmpty then none else some (.registered whole)
  | .heartbeat => if rest.isEmpty then none else some (.heartbeat whole)
  | .unregister => if rest.isEmpty then none else some (.unregister whole)
  | .request kind => some (.request kind)
  | .reply kind =>
      if head.isEmpty || head.contains '\n' || (kind == .time && tail.isEmpty) then none
      else some (.reply kind (String.ofList head) (String.ofList tail))
  | .error =>
      if head.isEmpty then none
      else some (.error (String.ofList head) (String.ofList tail))

/-- Read a message from its text. -/
def Message.parse (text : String) : Except Refusal Message :=
  let body := dropLineBreak text.toList
  let tagText := String.ofList (body.takeWhile (!endsTag ·))
  match Tag.ofText? tagText with
  | none => .error (.unknownType tagText)
  | some tag =>
      match Message.ofFields? tag (remainder (body.dropWhile (!endsTag ·))) with
      | none => .error (.malformed tag)
      | some message => .ok message

end Wire
end CameraFleet
