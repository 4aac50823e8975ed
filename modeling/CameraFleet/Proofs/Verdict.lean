import CameraFleet.Outcome

/-!
# Outcomes and their payloads

Reading a payload undoes writing it, up to one ambiguity each way: a detail that
holds a line break is cut there, and a payload that ends at its only line break
loses it.
-/

namespace CameraFleet
namespace Outcome

/-- The written verdict with its colon, as characters. -/
def mark (ok : Bool) : List Char :=
  (verdict ok ++ ":").toList

/-- A payload that begins with a verdict. -/
def HasVerdict (payload : String) : Prop :=
  mark true <+: payload.toList ∨ mark false <+: payload.toList

instance (payload : String) : Decidable (HasVerdict payload) :=
  inferInstanceAs (Decidable (_ ∨ _))

/-- A payload whose only line break is its last character. -/
def EndsAtOnlyBreak (payload : String) : Prop :=
  payload.toList.getLast? = some '\n' ∧ payload.toList.count '\n' = 1

instance (payload : String) : Decidable (EndsAtOnlyBreak payload) :=
  inferInstanceAs (Decidable (_ ∧ _))

/-- The characters after the verdict. -/
def body (outcome : Outcome) : List Char :=
  if outcome.output.isEmpty then outcome.detail.toList
  else outcome.detail.toList ++ '\n' :: outcome.output.toList

/-- An outcome is written as its mark and its body. -/
theorem toList_text (outcome : Outcome) :
    outcome.text.toList = mark outcome.ok ++ outcome.body := by
  unfold text body mark
  split <;> simp

/-- Reading finds the verdict that stands first, and takes the rest apart. -/
theorem parse?_of_toList
    {payload : String}
    {ok : Bool}
    {rest : List Char}
    (shape : payload.toList = mark ok ++ rest) :
    parse? payload = some (ofRest ok rest) := by
  cases ok <;> simp [parse?, shape, mark, verdict]

/-- Only a payload with a verdict is read as an outcome. -/
theorem parse?_eq_none_iff (payload : String) :
    parse? payload = none ↔ ¬ HasVerdict payload := by
  simp only [parse?, HasVerdict, mark, ← List.isPrefixOf_iff_prefix]
  split
  · simp_all
  · split <;> simp_all

theorem ofRest_of_not_mem
    (ok : Bool)
    {head : List Char}
    (plain : '\n' ∉ head) :
    ofRest ok head = ⟨ok, String.ofList head, ""⟩ := by
  have keeps : ∀ c ∈ head, (c != '\n') = true := by
    rintro c member
    simpa using fun same : c = '\n' => plain (same ▸ member)
  have taken : (head ++ []).takeWhile (· != '\n') = head ++ [] :=
    List.takeWhile_append_of_pos keeps
  have dropped : (head ++ []).dropWhile (· != '\n') = [] :=
    List.dropWhile_append_of_pos keeps
  rw [List.append_nil] at taken dropped
  simp [ofRest, taken, dropped]

/-- What stands before the first line break is the detail. -/
theorem ofRest_append_break
    (ok : Bool)
    {head : List Char}
    (plain : '\n' ∉ head)
    (tail : List Char) :
    ofRest ok (head ++ '\n' :: tail) = ⟨ok, String.ofList head, String.ofList tail⟩ := by
  have keeps : ∀ c ∈ head, (c != '\n') = true := by
    rintro c member
    simpa using fun same : c = '\n' => plain (same ▸ member)
  simp [ofRest, List.takeWhile_append_of_pos keeps, List.dropWhile_append_of_pos keeps]

/-- What is read as a detail holds no line break. -/
theorem not_mem_detail_ofRest (ok : Bool) (rest : List Char) :
    '\n' ∉ (ofRest ok rest).detail.toList := by
  by_cases found : '\n' ∈ rest
  · obtain ⟨head, tail, rfl, plain⟩ := List.eq_append_cons_of_mem found
    simpa [ofRest_append_break ok plain] using plain
  · simpa [ofRest_of_not_mem ok found] using found

/-- Taking the written body apart recovers the outcome only if its detail is one line. -/
theorem ofRest_body_eq_iff (outcome : Outcome) :
    ofRest outcome.ok outcome.body = outcome ↔ '\n' ∉ outcome.detail.toList := by
  constructor
  · intro same
    exact same ▸ not_mem_detail_ofRest outcome.ok outcome.body
  · intro plain
    obtain ⟨ok, detail, output⟩ := outcome
    simp only [body]
    split
    · rename_i empty
      simp_all [ofRest_of_not_mem ok plain]
    · simp [ofRest_append_break ok plain]

/-- A text taken apart at its first line break loses that break if nothing follows it. -/
theorem body_ofRest (ok : Bool) (rest : List Char) :
    (ofRest ok rest).body =
      if rest.getLast? = some '\n' ∧ rest.count '\n' = 1 then rest.dropLast else rest := by
  by_cases found : '\n' ∈ rest
  · obtain ⟨head, tail, rfl, plain⟩ := List.eq_append_cons_of_mem found
    have none : head.count '\n' = 0 := List.count_eq_zero.mpr plain
    rw [ofRest_append_break ok plain]
    by_cases empty : tail = []
    · simp [body, empty, none]
    · have several : ¬ (tail.getLast? = some '\n' ∧ tail.count '\n' = 0) := by
        rintro ⟨last, count⟩
        exact List.count_eq_zero.mp count (List.mem_of_getLast? last)
      have ends : (head ++ '\n' :: tail).getLast? = tail.getLast? := by
        simp [List.getLast?_append, List.getLast?_cons, List.getLast?_eq_some_getLast empty]
      rw [if_neg]
      · simp [body, empty]
      · simpa [ends, none] using several
  · have count : rest.count '\n' = 0 := List.count_eq_zero.mpr found
    simp [ofRest_of_not_mem ok found, body, count]

/-- The last character of a payload with a verdict is that of what follows the verdict. -/
theorem endsAtOnlyBreak_iff
    {payload : String}
    {ok : Bool}
    {rest : List Char}
    (shape : payload.toList = mark ok ++ rest) :
    EndsAtOnlyBreak payload ↔ rest.getLast? = some '\n' ∧ rest.count '\n' = 1 := by
  have none : (mark ok).count '\n' = 0 := by cases ok <;> decide
  unfold EndsAtOnlyBreak
  rw [shape]
  rcases rest.eq_nil_or_concat with rfl | ⟨init, last, rfl⟩
  · cases ok <;> simp [mark, verdict]
  · simp [none, ← List.append_assoc]

/-- Writing what was read gives the payload back, up to a line break that ended it. -/
theorem map_text_parse? (payload : String) :
    (parse? payload).map text =
      if HasVerdict payload then
        some (if EndsAtOnlyBreak payload then String.ofList payload.toList.dropLast else payload)
      else none := by
  by_cases has : HasVerdict payload
  · obtain ⟨ok, rest, shape⟩ : ∃ ok rest, payload.toList = mark ok ++ rest := by
      rcases has with ⟨rest, shape⟩ | ⟨rest, shape⟩
      · exact ⟨true, rest, shape.symm⟩
      · exact ⟨false, rest, shape.symm⟩
    rw [if_pos has, parse?_of_toList shape, Option.map_some, Option.some_inj, ← String.toList_inj,
      toList_text, body_ofRest]
    simp only [endsAtOnlyBreak_iff shape]
    split
    · rename_i lone
      have more : rest ≠ [] := by
        rintro rfl
        simp at lone
      simp [shape, List.dropLast_append_of_ne_nil more, ofRest]
    · simp [shape, ofRest]
  · simp [has, (parse?_eq_none_iff payload).mpr has]

/--
Reading and writing are inverse up to one ambiguity each way. Of a written
outcome the verdict is always recovered, and the whole outcome just if its
detail is one line. A payload is refused just if it has no verdict; any other is
written again as it was, but for a line break that was its only one and its last
character.
-/
theorem parse?_text_inverse :
    (∀ outcome : Outcome,
      (parse? outcome.text).map (·.ok) = some outcome.ok ∧
        (parse? outcome.text = some outcome ↔ '\n' ∉ outcome.detail.toList)) ∧
      ∀ payload : String,
        (parse? payload = none ↔
          ¬ (("SUCCESS:".toList <+: payload.toList) ∨ ("ERROR:".toList <+: payload.toList))) ∧
        (parse? payload).map text =
          if HasVerdict payload then
            some (if EndsAtOnlyBreak payload then String.ofList payload.toList.dropLast
              else payload)
          else none := by
  refine ⟨fun outcome => ?_, fun payload => ⟨parse?_eq_none_iff payload, map_text_parse? payload⟩⟩
  rw [parse?_of_toList (toList_text outcome)]
  refine ⟨rfl, ?_⟩
  rw [Option.some_inj]
  exact ofRest_body_eq_iff outcome

end Outcome
end CameraFleet
