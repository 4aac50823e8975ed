import CameraFleet.Device.Registry

/-!
# Sweeps

A sweep deactivates the stale devices and reports each of them. A later sweep
absorbs an earlier one: the registry is what the last sweep alone would leave,
and each record that it would report is reported once, by the first sweep that
finds it stale.
-/

namespace CameraFleet
namespace Device
namespace Registry

/-- Sweeps one after the other: the registry after them, and what each one reports. -/
def sweeps
    (registry : Registry)
    (timeout : Int) : List Int -> Registry × List (List Record)
  | [] => (registry, [])
  | now :: later =>
      let (registry, swept) := registry.sweepWith now timeout
      let (registry, reports) := registry.sweeps timeout later
      (registry, swept :: reports)

/-- A record after a sweep. -/
def swept (now timeout : Int) (record : Record) : Record :=
  if record.active = true ∧ timeout < now - record.lastHeartbeat then
    { record with active := false }
  else record

theorem records_sweepWith (registry : Registry) (now timeout : Int) :
    (registry.sweepWith now timeout).1.records = registry.records.map (swept now timeout) := by
  simp [sweepWith, swept, Record.Stale, Record.deactivate]

theorem mem_report_iff (registry : Registry) (now timeout : Int) (record : Record) :
    record ∈ (registry.sweepWith now timeout).2 ↔
      ∃ before ∈ registry.records, before.Stale now timeout ∧ before.deactivate = record := by
  simp [sweepWith, and_assoc]

/-- A later sweep treats a record as it would have before an earlier one. -/
theorem swept_swept
    {earlier now : Int}
    (order : earlier ≤ now)
    (timeout : Int)
    (record : Record) :
    swept now timeout (swept earlier timeout record) = swept now timeout record := by
  unfold swept
  by_cases stale : record.active = true ∧ timeout < earlier - record.lastHeartbeat
  · have still : timeout < now - record.lastHeartbeat := by omega
    simp [stale, still]
  · simp [stale]

/-- A record that is stale after a sweep was so before it, and was not stale then. -/
theorem stale_swept_iff
    {earlier now : Int}
    (timeout : Int)
    (record : Record) :
    (swept earlier timeout record).Stale now timeout ↔
      record.Stale now timeout ∧ ¬ record.Stale earlier timeout := by
  unfold swept Record.Stale
  split <;> simp_all

theorem swept_of_not_stale
    {now timeout : Int}
    {record : Record}
    (fresh : ¬ record.Stale now timeout) :
    swept now timeout record = record :=
  if_neg fresh

/-- An active record is determined by what a sweep reports of it. -/
theorem eq_of_deactivate_eq
    {left right : Record}
    (leftActive : left.active = true)
    (rightActive : right.active = true)
    (same : left.deactivate = right.deactivate) :
    left = right := by
  cases left
  cases right
  simp_all [Record.deactivate]

/-- The registry of a later sweep does not show an earlier one. -/
theorem sweepWith_sweepWith_fst
    (registry : Registry)
    (timeout : Int)
    {earlier now : Int}
    (order : earlier ≤ now) :
    ((registry.sweepWith earlier timeout).1.sweepWith now timeout).1 =
      (registry.sweepWith now timeout).1 := by
  have records : ((registry.sweepWith earlier timeout).1.sweepWith now timeout).1.records =
      (registry.sweepWith now timeout).1.records := by
    simp [records_sweepWith, Function.comp_def, swept_swept order]
  simpa [sweepWith] using records

/-- A later sweep reports what it would have, less what the earlier one reported. -/
theorem mem_report_after_iff
    (registry : Registry)
    (timeout : Int)
    (earlier now : Int)
    (record : Record) :
    record ∈ ((registry.sweepWith earlier timeout).1.sweepWith now timeout).2 ↔
      ∃ before ∈ registry.records, before.Stale now timeout ∧ ¬ before.Stale earlier timeout ∧
        before.deactivate = record := by
  rw [mem_report_iff, records_sweepWith]
  constructor
  · rintro ⟨_, member, stale, same⟩
    obtain ⟨before, known, rfl⟩ := List.mem_map.mp member
    obtain ⟨stale, fresh⟩ := (stale_swept_iff timeout before).mp stale
    exact ⟨before, known, stale, fresh, swept_of_not_stale fresh ▸ same⟩
  · rintro ⟨before, known, stale, fresh, same⟩
    refine ⟨before, List.mem_map.mpr ⟨before, known, swept_of_not_stale fresh⟩, stale, same⟩

/-- Two sweeps report what the later one alone would, and nothing twice. -/
theorem report_split
    (registry : Registry)
    (timeout : Int)
    {earlier now : Int}
    (order : earlier ≤ now)
    (record : Record) :
    (record ∈ (registry.sweepWith now timeout).2 ↔
      record ∈ (registry.sweepWith earlier timeout).2 ∨
        record ∈ ((registry.sweepWith earlier timeout).1.sweepWith now timeout).2) ∧
    ¬ (record ∈ (registry.sweepWith earlier timeout).2 ∧
      record ∈ ((registry.sweepWith earlier timeout).1.sweepWith now timeout).2) := by
  rw [mem_report_iff, mem_report_iff, mem_report_after_iff]
  have lasts (before : Record) (stale : before.Stale earlier timeout) :
      before.Stale now timeout := by
    obtain ⟨active, silent⟩ := stale
    exact ⟨active, by omega⟩
  refine ⟨⟨?_, ?_⟩, ?_⟩
  · rintro ⟨before, member, stale, same⟩
    by_cases already : before.Stale earlier timeout
    · exact .inl ⟨before, member, already, same⟩
    · exact .inr ⟨before, member, stale, already, same⟩
  · rintro (⟨before, member, stale, same⟩ | ⟨before, member, stale, _, same⟩)
    · exact ⟨before, member, lasts before stale, same⟩
    · exact ⟨before, member, stale, same⟩
  · rintro ⟨⟨left, _, stale, rfl⟩, right, _, staleLater, fresh, same⟩
    exact fresh (eq_of_deactivate_eq staleLater.1 stale.1 same ▸ stale)

/-- What sweeps report that come before a last one, and what the last one then reports. -/
theorem sweeps_concat
    (registry : Registry)
    (timeout : Int)
    {times : List Int}
    {last : Int}
    (order : (times ++ [last]).Pairwise (· ≤ ·)) :
    (registry.sweeps timeout (times ++ [last])).1 = (registry.sweepWith last timeout).1 ∧
    (registry.sweeps timeout (times ++ [last])).2.Pairwise
      (fun left right => ∀ record ∈ left, record ∉ right) ∧
    ∀ record, (∃ report ∈ (registry.sweeps timeout (times ++ [last])).2, record ∈ report) ↔
      record ∈ (registry.sweepWith last timeout).2 := by
  induction times generalizing registry with
  | nil => simp [sweeps]
  | cons now times ih =>
      rw [List.cons_append, List.pairwise_cons] at order
      have early : now ≤ last := order.1 last (by simp)
      obtain ⟨after, disjoint, union⟩ := ih (registry.sweepWith now timeout).1 order.2
      have split := report_split registry timeout early
      refine ⟨?_, ?_, ?_⟩
      · exact after.trans (sweepWith_sweepWith_fst registry timeout early)
      · refine List.pairwise_cons.mpr ⟨fun report member record reported again => ?_, disjoint⟩
        exact (split record).2 ⟨reported, (union record).mp ⟨report, member, again⟩⟩
      · intro record
        rw [(split record).1, ← union record]
        simp [sweeps]

/--
A sweep reports, in order, the records that were active and silent for longer
than the timeout, as inactive, and changes nothing else. Sweeps at times that do
not decrease leave what the last of them alone would leave; no two of them
report a record alike, and together they report what the last alone would.
-/
theorem sweeps_absorb
    (registry : Registry)
    (timeout : Int)
    (times : List Int)
    (last : Int)
    (order : (times ++ [last]).Pairwise (· ≤ ·)) :
    (∀ now limit,
      registry.sweepWith now limit =
        ({ registry with records := registry.records.map fun record =>
            if record.active = true ∧ limit < now - record.lastHeartbeat then
              { record with active := false }
            else record },
          (registry.records.filter fun record =>
            record.active = true ∧ limit < now - record.lastHeartbeat).map fun record =>
              { record with active := false })) ∧
    (registry.sweeps timeout (times ++ [last])).1 = (registry.sweepWith last timeout).1 ∧
    (registry.sweeps timeout (times ++ [last])).2.Pairwise
      (fun left right => ∀ record ∈ left, record ∉ right) ∧
    ∀ record, (∃ report ∈ (registry.sweeps timeout (times ++ [last])).2, record ∈ report) ↔
      record ∈ (registry.sweepWith last timeout).2 := by
  refine ⟨fun now limit => ?_, sweeps_concat registry timeout order⟩
  have chosen : (registry.records.filter fun record => record.Stale now limit) =
      registry.records.filter fun record =>
        record.active = true ∧ limit < now - record.lastHeartbeat :=
    List.filter_congr fun _ _ => decide_eq_decide.mpr Iff.rfl
  simp only [sweepWith, chosen]
  rfl

/-- Three sweeps of a registry with one silent device and one that is heard of. -/
theorem sweeps_absorb_three :
    ([10, 25] ++ [40] : List Int).Pairwise (· ≤ ·) ∧
    (({ capacity := 2, livenessTimeout := 20,
        records := [Record.new "a" ⟨"h", 1⟩ 0, Record.new "b" ⟨"h", 2⟩ 30] : Registry}).sweeps
      20 ([10, 25] ++ [40])).1 =
    (({ capacity := 2, livenessTimeout := 20,
        records := [Record.new "a" ⟨"h", 1⟩ 0, Record.new "b" ⟨"h", 2⟩ 30] : Registry}).sweepWith
      40 20).1 :=
  ⟨by decide, (sweeps_absorb _ 20 [10, 25] 40 (by decide)).2.1⟩

end Registry
end Device
end CameraFleet
