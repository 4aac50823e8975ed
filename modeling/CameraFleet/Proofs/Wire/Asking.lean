import CameraFleet.Proofs.Wire.Verdicts
import Mathlib.Data.List.TakeWhile

/-!
# Datagrams that ask

Only the datagram of a broadcast can be read as a broadcast, whatever the buffers
that it is written for and read through: the tag that is read is a part of the
tag that was written, and no part of another tag is the tag of a broadcast.
-/

namespace CameraFleet

namespace Utf8

/-- Cutting bytes of characters that have one byte each is cutting the characters. -/
theorem take_encode_of_ascii
    {text : List Char}
    (ascii : ∀ c ∈ text, c.toNat < 0x80)
    (count : Nat) :
    (encode text).take count = encode (text.take count) := by
  induction text generalizing count with
  | nil => simp
  | cons c text ih =>
      cases count with
      | zero => rfl
      | succ count =>
          have byte : encodeChar c = [UInt8.ofNat c.toNat] := by
            simp [encodeChar, ascii c List.mem_cons_self]
          have rest := ih (fun d member => ascii d (List.mem_cons_of_mem c member)) count
          simp [encode_cons, byte, rest]

theorem size_of_ascii
    {text : List Char}
    (ascii : ∀ c ∈ text, c.toNat < 0x80) :
    size text = text.length := by
  induction text with
  | nil => rfl
  | cons c text ih =>
      have one : width c = 1 := if_pos (ascii c List.mem_cons_self)
      have rest := ih fun d member => ascii d (List.mem_cons_of_mem c member)
      rw [size_cons, one, rest, List.length_cons, Nat.add_comm]

end Utf8

namespace Wire

open Utf8

/-- Some buffer lets a broadcast be read from these bytes. -/
def Asks (bytes : Bytes) : Prop :=
  ∃ maxBytes kind, receive bytes maxBytes = .ok (.request kind)

/-- The tag of a text: what comes before the first colon or line break. -/
def tagPart (text : List Char) : List Char :=
  text.takeWhile (!endsTag ·)

/-- A line break at the end is not part of the tag. -/
theorem tagPart_dropLineBreak (text : List Char) :
    tagPart (dropLineBreak text) = tagPart text := by
  unfold dropLineBreak
  split
  · rename_i ends
    obtain ⟨front, rfl⟩ := List.getLast?_eq_some_iff.mp ends
    rw [List.dropLast_concat, tagPart, tagPart, List.takeWhile_append]
    split
    · rename_i whole
      rw [(List.takeWhile_prefix _).eq_of_length whole]
      simp [endsTag]
    · rfl
  · rfl

/-- What the fields of a tag make is a message of that tag. -/
theorem tag_of_ofFields?
    {tag : Tag}
    {rest : List Char}
    {message : Message}
    (fields : Message.ofFields? tag rest = some message) :
    message.tag = tag := by
  cases tag <;> simp only [Message.ofFields?] at fields
  case request kind =>
    cases fields
    rfl
  all_goals
    split at fields
    · cases fields
    · cases fields
      rfl

/-- The tag of what is read is the tag of the text. -/
theorem ofText?_of_receive
    {bytes : Bytes}
    {maxBytes : Int}
    {message : Message}
    (received : receive bytes maxBytes = .ok message) :
    Tag.ofText? (String.ofList (tagPart (decode bytes maxBytes).toList)) = some message.tag := by
  rw [receive, Message.parse] at received
  rw [← tagPart_dropLineBreak, tagPart]
  split at received
  · simp at received
  · rename_i tag known
    rw [known]
    split at received
    · simp at received
    · rename_i found fields
      obtain rfl := Except.ok.inj received
      rw [tag_of_ofFields? fields]

/-- The tags of all other messages. -/
def otherTags : List Tag :=
  [.register, .registered, .heartbeat, .unregister, .error] ++
    [Kind.time, .listing, .capture, .upload].map Tag.reply

/-- No part of another tag is the tag of a broadcast. -/
theorem ofText?_initial
    {tag : Tag}
    (other : tag ∈ otherTags)
    {part : List Char}
    (initial : part <+: tag.text.toList)
    (kind : Kind) :
    Tag.ofText? (String.ofList part) ≠ some (.request kind) := by
  have short : ∀ tag ∈ otherTags, tag.text.toList.length < 20 := by decide +kernel
  have all : ∀ tag ∈ otherTags, ∀ count ∈ List.range 20,
      ∀ kind ∈ [Kind.time, .listing, .capture, .upload],
        Tag.ofText? (String.ofList (tag.text.toList.take count)) ≠ some (.request kind) := by
    decide +kernel
  have fits := short tag other
  have few := initial.length_le
  rw [List.prefix_iff_eq_take.mp initial]
  exact all tag other _ (List.mem_range.mpr (by omega)) kind (by cases kind <;> simp)

/-- The tag that is read from an initial part of a text that goes on after its own tag. -/
theorem tagPart_decode
    {tag : List Char}
    (plain : ∀ c ∈ tag, endsTag c = false ∧ c.toNat < 0x80)
    {last : Char}
    (ends : endsTag last = true ∧ last.toNat < 0x80)
    (rest : List Char)
    (count : Nat) :
    tagPart (Utf8.decode ((Utf8.encode (tag ++ last :: rest)).take count)) <+: tag := by
  have ascii : ∀ c ∈ tag ++ [last], c.toNat < 0x80 := by
    intro c member
    rcases List.mem_append.mp member with inTag | isLast
    · exact (plain c inTag).2
    · exact List.mem_singleton.mp isLast ▸ ends.2
  have keeps {part : List Char} (inside : part <+: tag) : tagPart part = part :=
    List.takeWhile_eq_self_iff.mpr fun c member => by simp [(plain c (inside.subset member)).1]
  have parts : tag ++ last :: rest = (tag ++ [last]) ++ rest := by simp
  have bytes : (Utf8.encode (tag ++ [last])).length = tag.length + 1 := by
    rw [length_encode, size_of_ascii ascii, List.length_append, List.length_singleton]
  rw [parts, encode_append, List.take_append]
  by_cases whole : tag.length + 1 ≤ count
  · refine ⟨[], ?_⟩
    rw [List.take_of_length_le (by omega), decode_encode_append, tagPart, List.append_assoc,
      List.takeWhile_append_of_pos fun c member => by simp [(plain c member).1],
      List.singleton_append, List.takeWhile_cons_of_neg (by simp [ends.1]), List.append_nil,
      List.append_nil]
  · have nothing : count - (Utf8.encode (tag ++ [last])).length = 0 := by omega
    have inside : (tag ++ [last]).take count = tag.take count :=
      List.take_append_of_le_length (by omega)
    rw [nothing, List.take_zero, List.append_nil, take_encode_of_ascii ascii, decode_encode,
      inside, keeps (List.take_prefix count tag)]
    exact List.take_prefix count tag

/-- The text of any other message goes on after its tag with a colon. -/
theorem toList_text_of_other
    {message : Message}
    (other : ∀ kind, message ≠ .request kind) :
    message.tag ∈ otherTags ∧
    ∃ rest, message.text.toList = message.tag.text.toList ++ ':' :: rest := by
  cases message with
  | request kind => exact absurd rfl (other kind)
  | reply kind id payload =>
      refine ⟨by cases kind <;> simp [otherTags, Message.tag],
        id.toList ++ ':' :: payload.toList, ?_⟩
      simp [Message.text, Message.tag]
  | error code detail =>
      refine ⟨by simp [otherTags, Message.tag], code.toList ++ ':' :: detail.toList, ?_⟩
      simp [Message.text, Message.tag]
  | register id =>
      exact ⟨by simp [otherTags, Message.tag], id.toList, by simp [Message.text, Message.tag]⟩
  | registered status =>
      exact ⟨by simp [otherTags, Message.tag], status.toList, by simp [Message.text, Message.tag]⟩
  | heartbeat id =>
      exact ⟨by simp [otherTags, Message.tag], id.toList, by simp [Message.text, Message.tag]⟩
  | unregister id =>
      exact ⟨by simp [otherTags, Message.tag], id.toList, by simp [Message.text, Message.tag]⟩

/-- What a buffer holds of a datagram is an initial part of it. -/
theorem exists_take_of_takeUntil (bytes : Bytes) (stop : Int) :
    ∃ count, takeUntil bytes stop = bytes.take count := by
  unfold takeUntil
  split
  · exact ⟨_, rfl⟩
  · exact ⟨_, rfl⟩

/-- The datagram of a message that is no broadcast is never read as one. -/
theorem not_asks_encode
    {message : Message}
    (other : ∀ kind, message ≠ .request kind)
    (maxBytes : Int) :
    ¬ Asks (encode message maxBytes) := by
  rintro ⟨buffer, kind, received⟩
  obtain ⟨tagged, rest, text⟩ := toList_text_of_other other
  have plain : ∀ c ∈ message.tag.text.toList, endsTag c = false ∧ c.toNat < 0x80 := by
    have all : otherTags.all (fun tag =>
        tag.text.toList.all fun c => !endsTag c && decide (c.toNat < 0x80)) = true := by
      decide +kernel
    intro c member
    simpa using List.all_eq_true.mp (List.all_eq_true.mp all _ tagged) c member
  obtain ⟨count, taken⟩ :=
    exists_take_of_takeUntil (encode message maxBytes) (readLimit (encode message maxBytes) buffer)
  have read := ofText?_of_receive received
  rw [decode, taken, Utf8.toString, String.toList_ofList, encode_eq] at read
  have kept : keptText message maxBytes <+: message.tag.text.toList ++ ':' :: rest :=
    text ▸ fit_isPrefix _ _
  -- What is kept of the message stops in its tag, or goes on after it.
  have either : keptText message maxBytes <+: message.tag.text.toList ∨
      ∃ more, keptText message maxBytes = message.tag.text.toList ++ ':' :: more := by
    have colon : message.tag.text.toList ++ [':'] <+: message.tag.text.toList ++ ':' :: rest :=
      ⟨rest, by simp⟩
    rcases List.prefix_or_prefix_of_prefix kept colon with inside | ⟨more, beyond⟩
    · rcases List.prefix_concat_iff.mp inside with whole | part
      · exact .inr ⟨[], whole⟩
      · exact .inl part
    · exact .inr ⟨more, by rw [← beyond]; simp⟩
  refine ofText?_initial tagged ?_ kind read
  rcases either with part | ⟨more, whole⟩
  · exact (tagPart_decode (fun c member => plain c (part.subset member))
      (by decide : endsTag '\n' = true ∧ '\n'.toNat < 0x80) [] count).trans part
  · rw [whole, List.append_assoc, List.cons_append]
    exact tagPart_decode plain (by decide) (more ++ ['\n']) count

end Wire
end CameraFleet
