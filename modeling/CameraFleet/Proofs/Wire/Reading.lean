import CameraFleet.Wire.Reader

/-!
# What can be read as a message

Every text falls in one of three cases: its tag is unknown, it is a message, or
its tag is known and its fields are not there. `Accepts` lists the texts that are
messages; besides the written forms of the well-formed messages these are
requests with something after the tag, and an error or a reply whose last colon
is missing.
-/

namespace CameraFleet
namespace Wire

/-! ## Tags -/

theorem mem_all (tag : Tag) : tag ∈ Tag.all := by
  rcases tag with _ | _ | _ | _ | kind | kind | _ <;> try cases kind
  all_goals decide

/-- No tag holds a character that ends tags. -/
theorem not_endsTag_of_mem_text
    (tag : Tag)
    {c : Char}
    (member : c ∈ tag.text.toList) :
    endsTag c = false := by
  have all : ∀ tag ∈ Tag.all, tag.text.toList.all (!endsTag ·) = true := by decide +kernel
  simpa using List.all_eq_true.mp (all tag (mem_all tag)) c member

/-- A tag is known by its text, -/
theorem ofText?_text (tag : Tag) : Tag.ofText? tag.text = some tag := by
  have all : ∀ tag ∈ Tag.all, Tag.ofText? tag.text = some tag := by decide +kernel
  exact all tag (mem_all tag)

/-- The tags are told apart by their text. -/
theorem ofText?_eq_some_iff {text : String} {tag : Tag} :
    Tag.ofText? text = some tag ↔ tag.text = text := by
  constructor
  · intro found
    simpa using List.find?_some found
  · rintro rfl
    exact ofText?_text tag

/-- and a text that is no tag is not known. -/
theorem ofText?_eq_none_iff {text : String} :
    Tag.ofText? text = none ↔ ∀ tag : Tag, tag.text ≠ text := by
  simp only [Tag.ofText?, List.find?_eq_none, beq_iff_eq]
  exact ⟨fun none tag => none tag (mem_all tag), fun none tag _ => none tag⟩

/-! ## Bodies -/

/-- The text of a message without its last line break, as it is read. -/
def bodyOf (text : String) : List Char :=
  dropLineBreak text.toList

/-- The tag that a body begins with. -/
def tagOf (body : List Char) : String :=
  String.ofList (body.takeWhile (!endsTag ·))

/-- The message of a tag with a remainder, or the refusal. -/
def readFields (tag : Tag) (rest : List Char) : Except Refusal Message :=
  match Message.ofFields? tag (remainder rest) with
  | none => .error (.malformed tag)
  | some message => .ok message

/-- Read a message from a body. -/
def readBody (body : List Char) : Except Refusal Message :=
  match Tag.ofText? (tagOf body) with
  | none => .error (.unknownType (tagOf body))
  | some tag => readFields tag (body.dropWhile (!endsTag ·))

/-- A line break at the end of a text is not read. -/
theorem parse_eq (text : String) : Message.parse text = readBody (bodyOf text) := rfl

/-- A remainder is empty or begins with a character that ends the tag. -/
def Remains (rest : List Char) : Prop :=
  rest = [] ∨ ∃ c tail, rest = c :: tail ∧ endsTag c = true

/-- A tag ends where the remainder begins. -/
theorem takeWhile_tag
    (tag : Tag)
    {rest : List Char}
    (remains : Remains rest) :
    (tag.text.toList ++ rest).takeWhile (!endsTag ·) = tag.text.toList ∧
    (tag.text.toList ++ rest).dropWhile (!endsTag ·) = rest := by
  have keeps : ∀ c ∈ tag.text.toList, (!endsTag c) = true := fun c member => by
    rw [not_endsTag_of_mem_text tag member]
    rfl
  rw [List.takeWhile_append_of_pos keeps, List.dropWhile_append_of_pos keeps]
  rcases remains with rfl | ⟨c, tail, rfl, ends⟩
  · simp
  · simp [ends]

/-- A body that begins with a tag is read by that tag. -/
theorem readBody_tag
    (tag : Tag)
    {rest : List Char}
    (remains : Remains rest) :
    readBody (tag.text.toList ++ rest) = readFields tag rest := by
  obtain ⟨taken, dropped⟩ := takeWhile_tag tag remains
  simp only [readBody, tagOf, taken, dropped, String.ofList_toList, ofText?_text]

/-- Any body is its tag with a remainder. -/
theorem exists_remains (body : List Char) :
    ∃ rest, body = (tagOf body).toList ++ rest ∧ Remains rest := by
  refine ⟨body.dropWhile (!endsTag ·), ?_, ?_⟩
  · simp [tagOf]
  · cases dropped : body.dropWhile (!endsTag ·) with
    | nil => exact .inl rfl
    | cons c tail =>
        have := List.head?_dropWhile_not (!endsTag ·) body
        rw [dropped] at this
        exact .inr ⟨c, tail, rfl, by simpa using this⟩

/-! ## Fields -/

/-- The text of a message after its tag and a colon. -/
def fieldsOf : Message -> List Char
  | .register id | .heartbeat id | .unregister id => id.toList
  | .registered status => status.toList
  | .request _ => []
  | .reply _ id payload => id.toList ++ ':' :: payload.toList
  | .error code detail => code.toList ++ ':' :: detail.toList

/-- Only requests are written without a remainder. -/
theorem toList_text_of_request (kind : Kind) :
    (Message.request kind).text.toList = (Tag.request kind).text.toList := rfl

/-- All messages but broadcasts have fields, after a colon. -/
theorem toList_text_eq
    {message : Message}
    (other : ∀ kind, message ≠ .request kind) :
    message.text.toList = message.tag.text.toList ++ ':' :: fieldsOf message := by
  cases message with
  | request kind => exact absurd rfl (other kind)
  | _ => simp [Message.text, Message.tag, fieldsOf]

/-- A text is split at its first colon. -/
theorem splitColon_append
    {head : List Char}
    (plain : ':' ∉ head)
    (tail : List Char) :
    splitColon (head ++ ':' :: tail) = (head, tail) := by
  have keeps : ∀ c ∈ head, (c != ':') = true := by
    rintro c member
    simpa using fun same : c = ':' => plain (same ▸ member)
  simp [splitColon, List.takeWhile_append_of_pos keeps, List.dropWhile_append_of_pos keeps]

theorem splitColon_of_not_mem
    {head : List Char}
    (plain : ':' ∉ head) :
    splitColon head = (head, []) := by
  have keeps : ∀ c ∈ head, (c != ':') = true := by
    rintro c member
    simpa using fun same : c = ':' => plain (same ▸ member)
  have taken : (head ++ []).takeWhile (· != ':') = head ++ [] :=
    List.takeWhile_append_of_pos keeps
  have dropped : (head ++ []).dropWhile (· != ':') = [] :=
    List.dropWhile_append_of_pos keeps
  rw [List.append_nil] at taken dropped
  simp [splitColon, taken, dropped]

/-- A remainder whose last colon is missing: an error, or a reply that need not say anything. -/
inductive Unended : Message -> List Char -> Prop
  | error (code : String) : Unended (.error code "") code.toList
  | reply {kind : Kind} (untimed : kind ≠ .time) (id : String) :
      Unended (.reply kind id "") id.toList

/-- The fields of a well-formed message are read back. -/
theorem ofFields?_fieldsOf
    {message : Message}
    (wellFormed : message.WellFormed) :
    Message.ofFields? message.tag (fieldsOf message) = some message := by
  cases message with
  | register id => simpa [Message.ofFields?, Message.tag, fieldsOf, Message.WellFormed] using wellFormed
  | registered status => simpa [Message.ofFields?, Message.tag, fieldsOf, Message.WellFormed] using wellFormed
  | heartbeat id => simpa [Message.ofFields?, Message.tag, fieldsOf, Message.WellFormed] using wellFormed
  | unregister id => simpa [Message.ofFields?, Message.tag, fieldsOf, Message.WellFormed] using wellFormed
  | request kind => rfl
  | reply kind id payload =>
      obtain ⟨some', colon, break', timed⟩ := wellFormed
      simp only [Message.ofFields?, Message.tag, fieldsOf, splitColon_append colon]
      rw [if_neg]
      · simp
      · simpa [some', break'] using timed
  | error code detail =>
      obtain ⟨some', colon⟩ := wellFormed
      simp [Message.ofFields?, Message.tag, fieldsOf, splitColon_append colon, some']

/-- A remainder without its last colon is read as if it were there. -/
theorem ofFields?_of_unended
    {message : Message}
    {rest : List Char}
    (unended : Unended message rest)
    (wellFormed : message.WellFormed) :
    Message.ofFields? message.tag rest = some message := by
  cases unended with
  | error code =>
      obtain ⟨some', colon⟩ := wellFormed
      simp [Message.ofFields?, Message.tag, splitColon_of_not_mem colon, some']
  | reply untimed id =>
      obtain ⟨some', colon, break', _⟩ := wellFormed
      simp [Message.ofFields?, Message.tag, splitColon_of_not_mem colon, some', break', untimed]

/-- What is read from a remainder is well formed, and the remainder is one of its two forms. -/
theorem wellFormed_of_ofFields?
    {tag : Tag}
    {rest : List Char}
    {message : Message}
    (read : Message.ofFields? tag rest = some message) :
    message.tag = tag ∧ message.WellFormed ∧
      ((∃ kind, message = .request kind) ∨ rest = fieldsOf message ∨ Unended message rest) := by
  cases tag with
  | register | registered | heartbeat | unregister =>
      simp only [Message.ofFields?, Option.ite_none_left_eq_some, Option.some.injEq] at read
      obtain ⟨some', rfl⟩ := read
      refine ⟨rfl, ?_, .inr (.inl (by simp [fieldsOf]))⟩
      simpa [Message.WellFormed] using some'
  | request kind =>
      obtain rfl := Option.some.inj read
      exact ⟨rfl, trivial, .inl ⟨kind, rfl⟩⟩
  | reply kind =>
      by_cases colon : ':' ∈ rest
      · obtain ⟨head, tail, rfl, plain⟩ := List.eq_append_cons_of_mem colon
        simp only [Message.ofFields?, splitColon_append plain, Option.ite_none_left_eq_some,
          Option.some.injEq] at read
        obtain ⟨good, rfl⟩ := read
        refine ⟨rfl, ?_, .inr (.inl (by simp [fieldsOf]))⟩
        simpa [Message.WellFormed, plain, and_assoc] using good
      · simp only [Message.ofFields?, splitColon_of_not_mem colon, Option.ite_none_left_eq_some,
          Option.some.injEq] at read
        obtain ⟨good, rfl⟩ := read
        refine ⟨rfl, by simpa [Message.WellFormed, colon, and_assoc] using good, .inr (.inr ?_)⟩
        have untimed : kind ≠ .time := by
          rintro rfl
          simp at good
        simpa using Unended.reply untimed (String.ofList rest)
  | error =>
      by_cases colon : ':' ∈ rest
      · obtain ⟨head, tail, rfl, plain⟩ := List.eq_append_cons_of_mem colon
        simp only [Message.ofFields?, splitColon_append plain, Option.ite_none_left_eq_some,
          Option.some.injEq] at read
        obtain ⟨good, rfl⟩ := read
        refine ⟨rfl, ?_, .inr (.inl (by simp [fieldsOf]))⟩
        simpa [Message.WellFormed, plain] using good
      · simp only [Message.ofFields?, splitColon_of_not_mem colon, Option.ite_none_left_eq_some,
          Option.some.injEq] at read
        obtain ⟨good, rfl⟩ := read
        refine ⟨rfl, by simpa [Message.WellFormed, colon] using good, .inr (.inr ?_)⟩
        simpa using Unended.error (String.ofList rest)

/-! ## Messages -/

/-- The bodies that are read as a message. -/
inductive Accepts : Message -> List Char -> Prop
  /-- The written form of a well-formed message. -/
  | written {message : Message} (wellFormed : message.WellFormed) :
      Accepts message message.text.toList
  /-- A request with anything after its tag. -/
  | request (kind : Kind) {c : Char} (ends : c = ':' ∨ c = '\n') (tail : List Char) :
      Accepts (.request kind) ((Tag.request kind).text.toList ++ c :: tail)
  /-- An error without a detail and without the colon before it. -/
  | error {code : String} (some' : code ≠ "") (plain : ':' ∉ code.toList) :
      Accepts (.error code "") ("ERROR:".toList ++ code.toList)
  /-- A reply without a payload and without the colon before it. -/
  | reply {kind : Kind} (untimed : kind ≠ .time) {id : String} (some' : id ≠ "")
      (colon : ':' ∉ id.toList) (break' : '\n' ∉ id.toList) :
      Accepts (.reply kind id "") ((Tag.reply kind).text.toList ++ ':' :: id.toList)

/-- What is accepted can be written again. -/
theorem Accepts.wellFormed
    {message : Message}
    {body : List Char}
    (accepts : Accepts message body) :
    message.WellFormed := by
  cases accepts with
  | written wellFormed => exact wellFormed
  | request kind ends tail => trivial
  | error some' plain => exact ⟨some', plain⟩
  | reply untimed some' colon break' => exact ⟨some', colon, break', fun timed => absurd timed untimed⟩

theorem remains_colon (tail : List Char) : Remains (':' :: tail) :=
  .inr ⟨':', tail, rfl, rfl⟩

/-- The fields decide what is read, once the tag is known. -/
theorem readFields_eq_ok_iff {tag : Tag} {rest : List Char} {message : Message} :
    readFields tag rest = .ok message ↔
      Message.ofFields? tag (remainder rest) = some message := by
  unfold readFields
  split <;> simp_all

theorem toList_error_colon (tail : List Char) :
    "ERROR:".toList ++ tail = Tag.error.text.toList ++ ':' :: tail := rfl

/-- Every body that is listed is read as its message. -/
theorem readBody_of_accepts
    {message : Message}
    {body : List Char}
    (accepts : Accepts message body) :
    readBody body = .ok message := by
  have wellFormed := accepts.wellFormed
  cases accepts with
  | written _ =>
      by_cases request : ∃ kind, message = .request kind
      · obtain ⟨kind, rfl⟩ := request
        have read : readBody ((Tag.request kind).text.toList ++ []) = .ok (.request kind) :=
          readBody_tag (.request kind) (.inl rfl)
        rw [List.append_nil] at read
        exact read
      · rw [toList_text_eq (fun kind same => request ⟨kind, same⟩),
          readBody_tag _ (remains_colon _), readFields_eq_ok_iff]
        exact ofFields?_fieldsOf wellFormed
  | request kind ends tail =>
      rw [readBody_tag _ (.inr ⟨_, tail, rfl, by simpa [endsTag] using ends⟩),
        readFields_eq_ok_iff]
      rfl
  | @error code some' plain =>
      rw [toList_error_colon, readBody_tag _ (remains_colon _), readFields_eq_ok_iff]
      exact ofFields?_of_unended (.error code) wellFormed
  | @reply kind untimed id some' colon break' =>
      rw [readBody_tag _ (remains_colon _), readFields_eq_ok_iff]
      exact ofFields?_of_unended (.reply untimed id) wellFormed

/-- Only the bodies that are listed are read as messages. -/
theorem accepts_of_readBody
    {message : Message}
    {body : List Char}
    (read : readBody body = .ok message) :
    Accepts message body := by
  obtain ⟨rest, shape, remains⟩ := exists_remains body
  cases found : Tag.ofText? (tagOf body) with
  | none => simp [readBody, found] at read
  | some tag =>
      rw [← ofText?_eq_some_iff.mp found] at shape
      rw [shape, readBody_tag tag remains, readFields_eq_ok_iff] at read
      obtain ⟨rfl, wellFormed, form⟩ := wellFormed_of_ofFields? read
      rw [shape]
      rcases remains with rfl | ⟨c, tail, rfl, ends⟩
      · -- Without a remainder there are no fields, so this is a request.
        cases message with
        | request kind =>
            rw [List.append_nil]
            exact Accepts.written wellFormed
        | _ => simp [Message.ofFields?, Message.tag, remainder, splitColon] at read
      · rcases form with ⟨kind, rfl⟩ | form
        · exact .request kind (by simpa [endsTag] using ends) tail
        · by_cases request : ∃ kind, message = .request kind
          · obtain ⟨kind, rfl⟩ := request
            exact .request kind (by simpa [endsTag] using ends) tail
          · have ends : c = ':' ∨ c = '\n' := by simpa [endsTag] using ends
            rcases ends with rfl | rfl
            · rcases form with rest | unended
              · have text := toList_text_eq (fun kind same => request ⟨kind, same⟩)
                rw [show tail = fieldsOf message from rest, ← text]
                exact .written wellFormed
              · cases (show Unended message tail from unended) with
                | error code =>
                    rw [show (Message.error code "").tag = .error from rfl, ← toList_error_colon]
                    exact .error wellFormed.1 wellFormed.2
                | reply untimed id =>
                    exact .reply untimed wellFormed.1 wellFormed.2.1 wellFormed.2.2.1
            · -- After a line break there are no fields either.
              cases message with
              | request kind => exact absurd ⟨kind, rfl⟩ request
              | _ => simp [Message.ofFields?, Message.tag, remainder, splitColon] at read

/-- A body is read as a message if that message accepts it. -/
theorem readBody_eq_ok_iff {body : List Char} {message : Message} :
    readBody body = .ok message ↔ Accepts message body :=
  ⟨accepts_of_readBody, readBody_of_accepts⟩

theorem readBody_eq_unknown_iff {body : List Char} {tag : String} :
    readBody body = .error (.unknownType tag) ↔
      tag = tagOf body ∧ ∀ known : Tag, known.text ≠ tagOf body := by
  rw [← ofText?_eq_none_iff]
  unfold readBody readFields
  split
  · simp_all [eq_comm]
  · split <;> simp_all

theorem readBody_eq_malformed_iff {body : List Char} {tag : Tag} :
    readBody body = .error (.malformed tag) ↔
      tag.text = tagOf body ∧ ∀ message, ¬ Accepts message body := by
  simp only [← readBody_eq_ok_iff, ← ofText?_eq_some_iff]
  unfold readBody readFields
  split
  · simp_all
  · split <;> simp_all

/-- One line break at the end of a text is not part of its body. -/
theorem bodyOf_append_break (text : String) :
    bodyOf (text ++ "\n") = text.toList := by
  simp [bodyOf, dropLineBreak]

/--
A message's text with a line break is read back as the message just if the
message is well formed, and whatever is read from any text is well formed.
-/
theorem parse_text_eq_ok_iff :
    (∀ message : Message,
      Message.parse (message.text ++ "\n") = .ok message ↔ message.WellFormed) ∧
    ∀ text message, Message.parse text = .ok message ->
      message.WellFormed ∧ Message.parse (message.text ++ "\n") = .ok message := by
  have back (message : Message) (wellFormed : message.WellFormed) :
      Message.parse (message.text ++ "\n") = .ok message := by
    rw [parse_eq, bodyOf_append_break, readBody_eq_ok_iff]
    exact .written wellFormed
  have formed (text : String) (message : Message) (read : Message.parse text = .ok message) :
      message.WellFormed :=
    (accepts_of_readBody read).wellFormed
  refine ⟨fun message => ⟨formed _ message, back message⟩, fun text message read => ?_⟩
  exact ⟨formed text message read, back message (formed text message read)⟩

end Wire
end CameraFleet
