import CameraFleet.Proofs.Wire.Asking

/-!
# From one buffer to another

Two nodes may have buffers of different sizes. If both have 64 bytes at least,
the tag of a message is read as it was written, and so is a message of one short
field.
-/

namespace CameraFleet
namespace Wire

open Utf8

variable {message : Message} {written buffer : Int}

/-- A datagram goes on after its tag with a character that ends it. -/
theorem exists_encode_eq (message : Message) (room : 64 ≤ written) :
    ∃ last rest, (endsTag last = true ∧ size [last] = 1 ∧ last ≠ '\x00') ∧
      encode message written =
        Utf8.encode (message.tag.text.toList ++ [last]) ++ Utf8.encode rest := by
  by_cases asks : ∃ kind, message = .request kind
  · obtain ⟨kind, rfl⟩ := asks
    have tag := size_tag_le (.request kind)
    refine ⟨'\n', [], ⟨by decide, by decide, by decide⟩, ?_⟩
    have text := toList_text_of_request kind
    rw [encode_eq, keptText_of_size_le (by rw [text]; omega), text]
    simp [Message.tag]
  · have tag := size_tag_le message.tag
    have text := toList_text_eq fun kind same => asks ⟨kind, same⟩
    refine ⟨':', fit ((written - 2).toNat - size (message.tag.text.toList ++ [':']))
      (fieldsOf message) ++ ['\n'], ⟨by decide, by decide, by decide⟩, ?_⟩
    have head : message.text.toList =
        (message.tag.text.toList ++ [':']) ++ fieldsOf message := by simp [text]
    have colon : size [':'] = 1 := rfl
    rw [encode_eq, keptText, head, fit_append (by rw [size_append, colon]; omega), ← encode_append,
      List.append_assoc]

/-- The tag that is read is the tag that was written. -/
theorem tag_of_receive_encode
    {message' : Message}
    (room : 64 ≤ written)
    (room' : 64 ≤ buffer)
    (received : receive (encode message written) buffer = .ok message') :
    message'.tag = message.tag := by
  obtain ⟨last, rest, ⟨ends, one, proper⟩, bytes⟩ :=
    exists_encode_eq message room
  have tag := size_tag_le message.tag
  have clean : '\x00' ∉ message.tag.text.toList ++ [last] := by
    simp [zero_not_mem_tag message.tag, proper.symm]
  obtain ⟨more, text⟩ := decode_begins clean
    (show size (message.tag.text.toList ++ [last]) < buffer by rw [size_append, one]; omega)
    (Utf8.encode rest)
  have read := ofText?_of_receive received
  rw [bytes, text, List.append_assoc, List.singleton_append, tagPart,
    (takeWhile_tag message.tag (.inr ⟨last, more, rfl, ends⟩)).1, String.ofList_toList,
    ofText?_text] at read
  exact (Option.some.inj read).symm

/-- A message of one short field is read as it was written. -/
theorem receive_encode_of_buffers
    (room : 64 ≤ written)
    (room' : 64 ≤ buffer)
    (wellFormed : message.WellFormed)
    (other : ∀ kind, message ≠ .request kind)
    (short : size (fieldsOf message) ≤ 31)
    (clean : '\x00' ∉ fieldsOf message) :
    receive (encode message written) buffer = .ok message := by
  have tag := size_tag_le message.tag
  have fits : size message.text.toList ≤ 50 := by
    rw [toList_text_eq other, size_append, size_cons_colon]
    omega
  have same : encode message written = encode message buffer := by
    rw [encode_eq, encode_eq, keptText_of_size_le (by omega), keptText_of_size_le (by omega)]
  rw [same]
  exact receive_encode_of_field room' wellFormed other short clean

/-- So are the messages that carry the id of a device alone. -/
theorem receive_encode_of_id
    (room : 64 ≤ written)
    (room' : 64 ≤ buffer)
    {id : String}
    (valid : Device.ValidId id) :
    ∀ message ∈ [Message.register id, .heartbeat id, .unregister id],
      receive (encode message written) buffer = .ok message := by
  have clean := not_mem_of_validId valid (c := '\x00') rfl
  simp only [List.mem_cons, List.not_mem_nil, or_false]
  rintro message (rfl | rfl | rfl) <;>
    exact receive_encode_of_buffers room room' valid.1 (by simp) valid.2.1 clean

/-- So is a broadcast. -/
theorem receive_encode_of_request
    (room : 64 ≤ written)
    (room' : 64 ≤ buffer)
    (kind : Kind) :
    receive (encode (.request kind) written) buffer = .ok (.request kind) := by
  have tag := size_tag_le (.request kind)
  have fits : size (Message.request kind).text.toList ≤ 18 := by
    rw [toList_text_of_request]
    exact tag
  have same : encode (.request kind) written = encode (.request kind) buffer := by
    rw [encode_eq, encode_eq, keptText_of_size_le (by omega), keptText_of_size_le (by omega)]
  rw [same]
  exact receive_encode_of_fits trivial (by omega) (zero_not_mem_tag _)

/-- So are the answers of the relay to a registration. -/
theorem receive_encode_of_status
    (room : 64 ≤ written)
    (room' : 64 ≤ buffer)
    {answer : String}
    (answers : answer ∈ ["OK", "FULL", "INVALID"]) :
    receive (encode (.registered answer) written) buffer = .ok (.registered answer) := by
  obtain ⟨some', short, clean⟩ :
      answer ≠ "" ∧ size answer.toList ≤ 31 ∧ '\x00' ∉ answer.toList := by
    have all : ∀ answer ∈ ["OK", "FULL", "INVALID"],
        answer ≠ "" ∧ size answer.toList ≤ 31 ∧ '\x00' ∉ answer.toList := by decide +kernel
    exact all answer answers
  exact receive_encode_of_buffers room room' some' (by simp) short clean

/-! ## Replies -/

/-- A payload that any hop leaves readable: a time begins with a character that does not end a
datagram. -/
def Lasting (kind : Kind) (payload : String) : Prop :=
  kind = .time -> ∃ first rest, payload.toList = first :: rest ∧ first ≠ '\x00' ∧ first ≠ '\n'

/-- A reply is read with its kind and id, and with a payload for another hop. -/
theorem receive_encode_of_lasting
    (room : 64 ≤ written)
    (room' : 64 ≤ buffer)
    {kind : Kind}
    {id payload : String}
    (valid : Device.ValidId id)
    (lasting : Lasting kind payload) :
    ∃ read, receive (encode (.reply kind id payload) written) buffer =
      .ok (.reply kind id read) ∧ Lasting kind read := by
  by_cases time : kind = .time
  · obtain ⟨first, rest, shape, proper, other⟩ := lasting time
    have short : size [first] ≤ 8 := by
      have wide : width first ≤ 4 := by
        unfold width
        repeat' split
        all_goals decide
      rw [size_cons, size_nil]
      omega
    obtain ⟨read, more, received, kept⟩ := receive_encode_beginning room room' valid
      (show payload.toList = [first] ++ rest from shape) (by simp) (by simpa using proper.symm)
      short (by simpa using other)
    exact ⟨read, received, fun _ => ⟨first, more, kept, proper, other⟩⟩
  · obtain ⟨read, _, received, _⟩ := receive_encode_beginning room room' valid
      (show payload.toList = [] ++ payload.toList from rfl) (fun same => absurd same time)
      (by simp) (by simp) (by simp)
    exact ⟨read, received, fun same => absurd same time⟩

/-- A number begins with a digit, or with the sign. -/
theorem exists_first_of_toString (number : Int) :
    ∃ first rest, (ToString.toString number).toList = first :: rest ∧
      first ≠ '\x00' ∧ first ≠ '\n' := by
  have digits (value : Nat) : ∃ first rest, value.repr.toList = first :: rest ∧
      first ≠ '\x00' ∧ first ≠ '\n' := by
    have all : ∀ c ∈ value.repr.toList, c.isDigit = true := fun c member =>
      Nat.isDigit_of_mem_toDigits (by decide) (by decide) (Nat.toList_repr ▸ member)
    cases shape : value.repr.toList with
    | nil => simp [Nat.toList_repr] at shape
    | cons first rest =>
        have digit := all first (shape ▸ List.mem_cons_self)
        exact ⟨first, rest, rfl, by rintro rfl; simp at digit, by rintro rfl; simp at digit⟩
  cases number with
  | ofNat value => exact digits value
  | negSucc value =>
      exact ⟨'-', (value + 1).repr.toList, by simp [ToString.toString, Int.repr], by decide,
        by decide⟩

/-- The time of a worker lasts. -/
theorem lasting_localTime (instant : Option Int) : Lasting .time (Calendar.localTime instant) := by
  intro
  obtain ⟨first, rest, year, proper, other⟩ : ∃ first rest,
      (Calendar.parts instant).year.toList = first :: rest ∧ first ≠ '\x00' ∧ first ≠ '\n' := by
    unfold Calendar.parts
    split
    · exact exists_first_of_toString _
    · exact ⟨'N', ['a', 'N'], rfl, by decide, by decide⟩
  obtain ⟨more, text⟩ : ∃ more, (Calendar.localTime instant).toList =
      (Calendar.parts instant).year.toList ++ more :=
    ⟨_, by simp only [Calendar.localTime, String.toList_append, List.append_assoc]; rfl⟩
  exact ⟨first, rest ++ more, by rw [text, year]; rfl, proper, other⟩

end Wire
end CameraFleet
