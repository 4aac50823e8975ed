import CameraFleet.Proofs.Wire.Reading
import CameraFleet.Proofs.Wire.Truncation
import CameraFleet.Relay.Dispatch

/-!
# Messages on their way

A datagram read through the buffer that it was written for is its text up to the
first zero. So the messages of the protocol survive the smallest buffer that a
configuration admits, a reply loses nothing but the end of its payload, and a
message that is read and written again is not shortened a second time.
-/

namespace CameraFleet
namespace Wire

open Utf8

/-! ## Zeros -/

/-- Only the zero character has a zero byte. -/
theorem not_zero_mem_encodeChar
    {c : Char}
    (proper : c ≠ '\x00') :
    ∀ b ∈ encodeChar c, (b != 0) = true := by
  have value : c.toNat ≠ 0 := fun zero => proper (Char.toNat_inj.mp zero)
  have byte (n : Nat) (low : n % 256 ≠ 0) : (UInt8.ofNat n != 0) = true := by
    rw [bne_iff_ne, ne_eq, ← UInt8.toNat_inj]
    simpa using low
  have valid : c.toNat < 0xD800 ∨ (0xDFFF < c.toNat ∧ c.toNat < 0x110000) := c.valid
  unfold encodeChar continuation
  simp only
  split
  · simp only [List.mem_singleton, forall_eq]
    exact byte _ (by omega)
  split
  · simp only [List.mem_cons, List.not_mem_nil, or_false, forall_eq_or_imp, forall_eq]
    exact ⟨byte _ (by omega), byte _ (by omega)⟩
  split
  · simp only [List.mem_cons, List.not_mem_nil, or_false, forall_eq_or_imp, forall_eq]
    exact ⟨byte _ (by omega), byte _ (by omega), byte _ (by omega)⟩
  · simp only [List.mem_cons, List.not_mem_nil, or_false, forall_eq_or_imp, forall_eq]
    exact ⟨byte _ (by omega), byte _ (by omega), byte _ (by omega), byte _ (by omega)⟩

/-- Cutting the bytes at the first zero cuts the text there. -/
theorem takeWhile_encode (text : List Char) :
    (Utf8.encode text).takeWhile (· != 0) = Utf8.encode (text.takeWhile (· != '\x00')) := by
  induction text with
  | nil => rfl
  | cons c text ih =>
      by_cases zero : c = '\x00'
      · subst zero
        rfl
      · rw [encode_cons, List.takeWhile_append_of_pos (not_zero_mem_encodeChar zero), ih,
          List.takeWhile_cons_of_pos (by simpa using zero), encode_cons]

theorem take_findIdx? (bytes : Bytes) :
    bytes.take ((bytes.findIdx? (· == 0)).getD bytes.length) = bytes.takeWhile (· != 0) := by
  induction bytes with
  | nil => rfl
  | cons b bytes ih =>
      by_cases zero : b = 0
      · simp [List.findIdx?_cons, zero]
      · rw [List.takeWhile_cons_of_pos (by simpa using zero), ← ih]
        cases found : bytes.findIdx? (· == 0) <;> simp [List.findIdx?_cons, zero, found]

/-- A datagram that leaves a byte of the buffer free is read up to its first zero. -/
theorem decode_of_fits
    {bytes : Bytes}
    {maxBytes : Int}
    (fits : bytes.length ≤ maxBytes - 1) :
    decode bytes maxBytes = Utf8.toString (bytes.takeWhile (· != 0)) := by
  have limit : readLimit bytes maxBytes =
      ((bytes.findIdx? (· == 0)).getD bytes.length : Nat) := by
    unfold readLimit
    cases found : bytes.findIdx? (· == 0) with
    | none =>
        simp only [Option.getD_none]
        omega
    | some place =>
        have inside := (List.findIdx?_eq_some_iff_getElem.mp found).1
        simp only [Option.getD_some]
        split <;> omega
  rw [decode, limit, takeUntil, if_pos (by omega), Int.toNat_natCast, take_findIdx?]

/-- A message is read back as what its datagram keeps of it, up to the first zero. -/
theorem decode_encode_message
    (message : Message)
    {maxBytes : Int}
    (room : 2 ≤ maxBytes) :
    (decode (encode message maxBytes) maxBytes).toList =
      (keptText message maxBytes ++ ['\n']).takeWhile (· != '\x00') := by
  have fits : ((encode message maxBytes).length : Int) ≤ maxBytes - 1 := by
    have := size_keptText_le message maxBytes
    rw [length_encode_message]
    omega
  rw [decode_of_fits fits, encode_eq, takeWhile_encode]
  simp [Utf8.toString]

/-- A text without a zero is read past its end. -/
theorem takeWhile_of_not_mem
    {text : List Char}
    (clean : '\x00' ∉ text)
    (rest : List Char) :
    (text ++ rest).takeWhile (· != '\x00') = text ++ rest.takeWhile (· != '\x00') := by
  refine List.takeWhile_append_of_pos fun c member => ?_
  simpa using fun same : c = '\x00' => clean (same ▸ member)

/-- Without a zero in it, just what a datagram keeps of its message is read as the body. -/
theorem receive_encode_of_clean
    {message : Message}
    {maxBytes : Int}
    (room : 2 ≤ maxBytes)
    (clean : '\x00' ∉ keptText message maxBytes) :
    receive (encode message maxBytes) maxBytes = readBody (keptText message maxBytes) := by
  have text := decode_encode_message message room
  rw [takeWhile_of_not_mem clean] at text
  have breakKept : ['\n'].takeWhile (· != '\x00') = ['\n'] := rfl
  rw [receive, parse_eq, bodyOf, text, breakKept]
  simp [dropLineBreak]

/-- A message that fits is kept whole. -/
theorem keptText_of_size_le
    {message : Message}
    {maxBytes : Int}
    (fits : size message.text.toList ≤ maxBytes - 2) :
    keptText message maxBytes = message.text.toList :=
  fit_of_size_le (by omega)

/-- A well-formed message that fits and holds no zero survives. -/
theorem receive_encode_of_fits
    {message : Message}
    {maxBytes : Int}
    (wellFormed : message.WellFormed)
    (fits : size message.text.toList ≤ maxBytes - 2)
    (clean : '\x00' ∉ message.text.toList) :
    receive (encode message maxBytes) maxBytes = .ok message := by
  have kept := keptText_of_size_le fits
  rw [receive_encode_of_clean (by omega) (kept ▸ clean), kept, readBody_eq_ok_iff]
  exact .written wellFormed

/-! ## Sizes -/

/-- The longest tag has 18 bytes, -/
theorem size_tag_le (tag : Tag) : size tag.text.toList ≤ 18 := by
  have all : ∀ tag ∈ Tag.all, size tag.text.toList ≤ 18 := by decide +kernel
  exact all tag (mem_all tag)

/-- and none holds a zero. -/
theorem zero_not_mem_tag (tag : Tag) : '\x00' ∉ tag.text.toList := by
  have all : ∀ tag ∈ Tag.all, '\x00' ∉ tag.text.toList := by decide +kernel
  exact all tag (mem_all tag)

theorem size_cons_colon (text : List Char) : size (':' :: text) = 1 + size text := rfl

/-- An id holds nothing that delimits a field. -/
theorem not_mem_of_validId
    {id : String}
    (valid : Device.ValidId id)
    {c : Char}
    (delimits : Device.delimits c = true) :
    c ∉ id.toList := by
  intro member
  rw [valid.2.2 c member] at delimits
  cases delimits

/-- A message of one short field survives any buffer of at least 64 bytes. -/
theorem receive_encode_of_field
    {message : Message}
    {maxBytes : Int}
    (least : 64 ≤ maxBytes)
    (wellFormed : message.WellFormed)
    (other : ∀ kind, message ≠ .request kind)
    (short : size (fieldsOf message) ≤ 31)
    (clean : '\x00' ∉ fieldsOf message) :
    receive (encode message maxBytes) maxBytes = .ok message := by
  have text := toList_text_eq other
  have tag := size_tag_le message.tag
  refine receive_encode_of_fits wellFormed ?_ ?_
  · rw [text, size_append, size_cons_colon]
    omega
  · rw [text]
    simp [zero_not_mem_tag, clean]

/-! ## Replies -/

/-- What stands before the payload of a reply. -/
def replyHeader (kind : Kind) (id : String) : List Char :=
  (Tag.reply kind).text.toList ++ ':' :: (id.toList ++ [':'])

theorem toList_text_reply (kind : Kind) (id payload : String) :
    (Message.reply kind id payload).text.toList = replyHeader kind id ++ payload.toList := by
  simp [Message.text, replyHeader]

theorem size_replyHeader_le
    (kind : Kind)
    {id : String}
    (valid : Device.ValidId id) :
    size (replyHeader kind id) ≤ 51 := by
  have tag := size_tag_le (.reply kind)
  have short : size id.toList ≤ 31 := valid.2.1
  have colon : size [':'] = 1 := rfl
  simp only [replyHeader, size_append, size_cons_colon, colon]
  omega

theorem zero_not_mem_replyHeader
    (kind : Kind)
    {id : String}
    (valid : Device.ValidId id) :
    '\x00' ∉ replyHeader kind id := by
  have tag := zero_not_mem_tag (.reply kind)
  have clean := not_mem_of_validId valid (c := '\x00') rfl
  simp [replyHeader, tag, clean]

/-- The bytes that are left for a reply's payload. -/
def payloadRoom (kind : Kind) (id : String) (maxBytes : Int) : Nat :=
  (maxBytes - 2).toNat - size (replyHeader kind id)

/-- A reply keeps its header, and as much of its payload as fits. -/
theorem keptText_reply
    {maxBytes : Int}
    (least : 64 ≤ maxBytes)
    (kind : Kind)
    {id : String}
    (valid : Device.ValidId id)
    (payload : String) :
    keptText (.reply kind id payload) maxBytes =
      replyHeader kind id ++ fit (payloadRoom kind id maxBytes) payload.toList := by
  have header := size_replyHeader_le kind valid
  rw [keptText, toList_text_reply, fit_append (by omega), payloadRoom]

/-- A payload that is not empty keeps its first character. -/
theorem fit_ne_nil
    {maxBytes : Int}
    (least : 64 ≤ maxBytes)
    (kind : Kind)
    {id : String}
    (valid : Device.ValidId id)
    {payload : List Char}
    (some' : payload ≠ []) :
    fit (payloadRoom kind id maxBytes) payload ≠ [] := by
  have header := size_replyHeader_le kind valid
  have wide (c : Char) : width c ≤ 4 := by
    unfold width
    repeat' split
    all_goals decide
  cases payload with
  | nil => exact absurd rfl some'
  | cons c rest =>
      have := wide c
      rw [fit_cons, if_pos (by rw [payloadRoom]; omega)]
      simp

/-- A reply of a device, with a payload where its kind needs one. -/
theorem wellFormed_reply
    {kind : Kind}
    {id : String}
    (valid : Device.ValidId id)
    {payload : List Char}
    (timed : kind = .time -> payload ≠ []) :
    (Message.reply kind id (String.ofList payload)).WellFormed :=
  ⟨valid.1, not_mem_of_validId valid rfl, not_mem_of_validId valid rfl,
    fun time => by simpa using timed time⟩

/-- A reply is read by its header, whatever its payload is; -/
theorem readBody_replyHeader
    {kind : Kind}
    {id : String}
    (valid : Device.ValidId id)
    {payload : List Char}
    (timed : kind = .time -> payload ≠ []) :
    readBody (replyHeader kind id ++ payload) =
      .ok (.reply kind id (String.ofList payload)) := by
  have text : (Message.reply kind id (String.ofList payload)).text.toList =
      replyHeader kind id ++ payload := by
    simp [toList_text_reply]
  rw [readBody_eq_ok_iff, ← text]
  exact .written (wellFormed_reply valid timed)

/-- A line break is dropped from what follows another character. -/
theorem dropLineBreak_append
    {head : List Char}
    {last : Char}
    (ends : head.getLast? = some last)
    (other : last ≠ '\n')
    (rest : List Char) :
    dropLineBreak (head ++ rest) = head ++ dropLineBreak rest := by
  unfold dropLineBreak
  by_cases empty : rest = []
  · simp [empty, ends, other]
  · rw [List.getLast?_append, List.getLast?_eq_some_getLast empty, Option.some_or]
    split
    · rw [List.dropLast_append_of_ne_nil empty]
    · rfl

theorem getLast?_replyHeader (kind : Kind) (id : String) :
    (replyHeader kind id).getLast? = some ':' := by
  have ends : replyHeader kind id =
      ((Tag.reply kind).text.toList ++ ':' :: id.toList) ++ [':'] := by simp [replyHeader]
  rw [ends, List.getLast?_concat]

/-- A line break is dropped from what follows a header, never from the header. -/
theorem dropLineBreak_replyHeader (kind : Kind) (id : String) (rest : List Char) :
    dropLineBreak (replyHeader kind id ++ rest) = replyHeader kind id ++ dropLineBreak rest :=
  dropLineBreak_append (getLast?_replyHeader kind id) (by decide) rest

/-- Without its line break a text is the beginning of what it was. -/
theorem dropLineBreak_isPrefix (text : List Char) : dropLineBreak text <+: text := by
  unfold dropLineBreak
  split
  · exact List.dropLast_prefix text
  · exact List.prefix_rfl

/-- Without a zero in its payload, a reply loses nothing but the end of the payload. -/
theorem receive_encode_reply
    {maxBytes : Int}
    (least : 64 ≤ maxBytes)
    {kind : Kind}
    {id : String}
    (valid : Device.ValidId id)
    {payload : String}
    (timed : kind = .time -> payload ≠ "")
    (clean : '\x00' ∉ payload.toList) :
    receive (encode (.reply kind id payload) maxBytes) maxBytes =
      .ok (.reply kind id
        (String.ofList (fit (payloadRoom kind id maxBytes) payload.toList))) := by
  have kept := keptText_reply least kind valid payload
  have cleanPart : '\x00' ∉ fit (payloadRoom kind id maxBytes) payload.toList :=
    fun member => clean ((fit_isPrefix _ _).subset member)
  rw [receive_encode_of_clean (by omega), kept, readBody_replyHeader valid]
  · exact fun time => fit_ne_nil least kind valid (by simpa using timed time)
  · rw [kept]
    simp [zero_not_mem_replyHeader kind valid, cleanPart]

/-- With a zero in what is kept, the payload ends there, or at a line break before it. -/
theorem receive_encode_reply_of_zero
    {maxBytes : Int}
    (least : 64 ≤ maxBytes)
    {kind : Kind}
    (untimed : kind ≠ .time)
    {id : String}
    (valid : Device.ValidId id)
    {payload : String}
    (zero : '\x00' ∈ fit (payloadRoom kind id maxBytes) payload.toList) :
    ∃ part, part <+: payload.toList ∧
      receive (encode (.reply kind id payload) maxBytes) maxBytes =
        .ok (.reply kind id (String.ofList part)) := by
  obtain ⟨head, tail, split, clean⟩ := List.eq_append_cons_of_mem zero
  have room : 2 ≤ maxBytes := by omega
  have text := decode_encode_message (.reply kind id payload) room
  have stops : ('\x00' :: (tail ++ ['\n'])).takeWhile (· != '\x00') = [] := rfl
  rw [keptText_reply least kind valid, split, List.append_assoc, List.append_assoc,
    List.cons_append, takeWhile_of_not_mem (zero_not_mem_replyHeader kind valid),
    takeWhile_of_not_mem clean, stops, List.append_nil] at text
  refine ⟨dropLineBreak head, ?_, ?_⟩
  · have kept : head <+: payload.toList :=
      (split ▸ List.prefix_append head ('\x00' :: tail)).trans (fit_isPrefix _ _)
    exact (dropLineBreak_isPrefix head).trans kept
  · rw [receive, parse_eq, bodyOf, text, dropLineBreak_replyHeader,
      readBody_replyHeader valid fun time => absurd time untimed]

/-- The relay has three answers to a registration. -/
theorem status_mem (result : Except Device.RegisterError Device.Registry.Registration) :
    Relay.status result ∈ ["OK", "FULL", "INVALID"] := by
  rcases result with (_ | _) | _ <;> simp [Relay.status]

/-! ## Main statements -/

/--
Any buffer of at least 64 bytes is enough for the protocol. Registrations,
heartbeats, farewells, broadcasts and the relay's answers are read back as they
are. A reply is read back with its kind and id and an initial part of its
payload, which, if there is no zero in it, is the longest that fits.
-/
theorem survives_smallest_buffer
    (maxBytes : Int)
    (least : 64 ≤ maxBytes)
    (id : String)
    (valid : Device.ValidId id) :
    (∀ message ∈ [Message.register id, .heartbeat id, .unregister id],
      receive (encode message maxBytes) maxBytes = .ok message) ∧
    (∀ kind, receive (encode (.request kind) maxBytes) maxBytes = .ok (.request kind)) ∧
    (∀ result, receive (encode (.registered (Relay.status result)) maxBytes) maxBytes =
      .ok (.registered (Relay.status result))) ∧
    ∀ kind payload, (kind = .time -> payload ≠ "" ∧ '\x00' ∉ payload.toList) ->
      ∃ part, part <+: payload.toList ∧
        receive (encode (.reply kind id payload) maxBytes) maxBytes =
          .ok (.reply kind id (String.ofList part)) ∧
        ('\x00' ∉ payload.toList ->
          LongestFitting part payload.toList
            ((maxBytes - 2).toNat -
              size ((Tag.reply kind).text ++ ":" ++ id ++ ":").toList)) := by
  have clean := not_mem_of_validId valid (c := '\x00') rfl
  refine ⟨?_, fun kind => ?_, fun result => ?_, fun kind payload timed => ?_⟩
  · simp only [List.mem_cons, List.not_mem_nil, or_false]
    rintro message (rfl | rfl | rfl) <;>
      exact receive_encode_of_field least valid.1 (by simp) valid.2.1 clean
  · have tag := size_tag_le (.request kind)
    refine receive_encode_of_fits trivial ?_ ?_
    · rw [toList_text_of_request]
      omega
    · exact zero_not_mem_tag _
  · have answer := status_mem result
    obtain ⟨some', short, cleanStatus⟩ :
        Relay.status result ≠ "" ∧ size (Relay.status result).toList ≤ 31 ∧
          '\x00' ∉ (Relay.status result).toList := by
      have all : ∀ status ∈ ["OK", "FULL", "INVALID"],
          status ≠ "" ∧ size status.toList ≤ 31 ∧ '\x00' ∉ status.toList := by decide +kernel
      exact all _ answer
    exact receive_encode_of_field least some' (by simp) short cleanStatus
  · have room : (maxBytes - 2).toNat - size ((Tag.reply kind).text ++ ":" ++ id ++ ":").toList =
        payloadRoom kind id maxBytes := by
      simp [payloadRoom, replyHeader]
    rw [room]
    by_cases zero : '\x00' ∈ fit (payloadRoom kind id maxBytes) payload.toList
    · have present := (fit_isPrefix _ _).subset zero
      have untimed : kind ≠ .time := fun time => (timed time).2 present
      obtain ⟨part, initial, read⟩ := receive_encode_reply_of_zero least untimed valid zero
      exact ⟨part, initial, read, fun absent => absurd present absent⟩
    · by_cases present : '\x00' ∈ payload.toList
      · -- The zero is in the part that was cut off.
        have kept := keptText_reply least kind valid payload
        have untimed : kind ≠ .time := fun time => (timed time).2 present
        refine ⟨_, fit_isPrefix (payloadRoom kind id maxBytes) _, ?_,
          fun absent => absurd present absent⟩
        rw [receive_encode_of_clean (by omega), kept,
          readBody_replyHeader valid fun time => absurd time untimed]
        rw [kept]
        simp [zero_not_mem_replyHeader kind valid, zero]
      · exact ⟨_, fit_isPrefix _ _,
          receive_encode_reply least valid (fun time => (timed time).1) present,
          fun _ => longestFitting_fit _ _⟩

/-- A reply that is longer than the smallest buffer: 43 bytes are left for its payload of 80,
and the character at their end has two bytes. -/
theorem survives_smallest_buffer_cut :
    (64 : Int) ≤ 64 ∧ Device.ValidId "cam-10" ∧
    receive (encode (.reply .listing "cam-10" (String.ofList (List.replicate 40 'é'))) 64) 64 =
      .ok (.reply .listing "cam-10" (String.ofList (List.replicate 21 'é'))) := by
  obtain ⟨part, _, read, longest⟩ :=
    (survives_smallest_buffer 64 (by decide) "cam-10" (by decide)).2.2.2 .listing
      (String.ofList (List.replicate 40 'é')) (by simp)
  have kept : part = List.replicate 21 'é' := by
    rw [(longest (by simp)).eq (longestFitting_fit _ _)]
    decide +kernel
  exact ⟨by decide, by decide, kept ▸ read⟩

/-- A message that was read from a text survives the buffer that its text fits in. -/
theorem accepts_keptText
    {message : Message}
    {body : List Char}
    {maxBytes : Int}
    (accepts : Accepts message body)
    (fits : size body ≤ maxBytes - 2) :
    Accepts message (keptText message maxBytes) ∧
      (keptText message maxBytes <+: body ++ [':']) := by
  have wellFormed := accepts.wellFormed
  -- Only a colon that was missing at the end can be cut off again.
  have colon (text : List Char) (whole : message.text.toList = text ++ [':'])
      (fits : size text ≤ maxBytes - 2) (accepted : Accepts message text) :
      Accepts message (keptText message maxBytes) ∧
        (keptText message maxBytes <+: text ++ [':']) := by
    rw [keptText, whole, fit_append (by omega)]
    have one : fit ((maxBytes - 2).toNat - size text) [':'] = [':'] ∨
        fit ((maxBytes - 2).toNat - size text) [':'] = [] := by
      rw [fit_cons]
      split
      · exact .inl (by simp)
      · exact .inr rfl
    rcases one with all | none
    · rw [all, ← whole]
      exact ⟨.written wellFormed, List.prefix_rfl⟩
    · rw [none, List.append_nil]
      exact ⟨accepted, List.prefix_append _ _⟩
  cases accepts with
  | written _ =>
      rw [keptText_of_size_le fits]
      exact ⟨.written wellFormed, List.prefix_append _ _⟩
  | request kind ends tail =>
      rw [size_append] at fits
      rw [keptText_of_size_le (by rw [toList_text_of_request]; omega)]
      refine ⟨.written wellFormed, ?_⟩
      rw [toList_text_of_request, List.append_assoc]
      exact List.prefix_append _ _
  | error some' plain =>
      exact colon _ (by simp [Message.text, Tag.text]) fits (.error some' plain)
  | reply untimed some' noColon noBreak =>
      exact colon _ (by simp [Message.text]) fits (.reply untimed some' noColon noBreak)

/--
Reading a message and writing it again loses nothing. A message read from a text
without zeros that fits the buffer with its line break is read from its own
datagram too, even where its written form is longer than the text. And a reply
that has been cut to the buffer once is the same bytes when it is read and
written again.
-/
theorem relay_hop_lossless :
    (∀ (maxBytes : Int) (text : String) (message : Message), 2 ≤ maxBytes ->
      '\x00' ∉ text.toList -> text.toList.getLast? = some '\n' ->
      size text.toList ≤ maxBytes - 1 -> Message.parse text = .ok message ->
      Message.parse (decode (encode message maxBytes) maxBytes) = .ok message) ∧
    ∀ (maxBytes : Int) (kind : Kind) (id payload : String), 64 ≤ maxBytes ->
      Device.ValidId id -> '\x00' ∉ payload.toList -> (kind = .time -> payload ≠ "") ->
      ∃ message,
        Message.parse (decode (encode (.reply kind id payload) maxBytes) maxBytes) =
          .ok message ∧
        encode message maxBytes = encode (.reply kind id payload) maxBytes := by
  constructor
  · intro maxBytes text message room clean ends fits read
    obtain ⟨body, split⟩ := List.getLast?_eq_some_iff.mp ends
    have isBody : bodyOf text = body := by simp [bodyOf, dropLineBreak, split]
    rw [parse_eq, isBody, readBody_eq_ok_iff] at read
    rw [split, size_append] at fits
    have one : size ['\n'] = 1 := rfl
    have inside : (size body : Int) ≤ maxBytes - 2 := by omega
    obtain ⟨accepted, part⟩ := accepts_keptText read inside
    have cleanKept : '\x00' ∉ keptText message maxBytes := by
      intro member
      rcases List.mem_append.mp (part.subset member) with inBody | inColon
      · exact clean (split ▸ List.mem_append_left _ inBody)
      · simp at inColon
    exact (receive_encode_of_clean room cleanKept).trans (readBody_eq_ok_iff.mpr accepted)
  · intro maxBytes kind id payload least valid clean timed
    refine ⟨_, receive_encode_reply least valid timed clean, ?_⟩
    rw [encode_eq, encode_eq, keptText_reply least kind valid, keptText_reply least kind valid,
      String.toList_ofList, fit_of_size_le (size_fit_le _ _)]

end Wire
end CameraFleet
