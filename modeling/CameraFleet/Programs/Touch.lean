import CameraFleet.Programs.DateReader
import CameraFleet.Programs.Tree

/-!
# Touching files

A file is said to have been changed at some time, by default the present. It is
made if there is none.
-/

namespace CameraFleet
namespace Programs

open Host

/-- How files are touched. -/
structure Touching where
  /-- Whether files are made. -/
  makes : Bool := true
  /-- Whether links in the last place are followed. -/
  follows : Bool := true
  /-- When the files are said to be changed; none if that is left alone. -/
  time : Option Int
  deriving Repr, DecidableEq

/-- Say when a file was changed, and make it if there is none. -/
def touchFile
    (name : Octets)
    (touching : Touching)
    (path : Octets) : Act Bool := do
  let setTime : Act Bool := do
    match touching.time with
    | none => pure true
    | some time =>
        match ← Act.call (.change (.setTime path time touching.follows)) with
        | .ok () => pure true
        | .error fault => refuseFor name s!"setting times of {Quoted.plain path}" fault
  match ← Act.call (.look path touching.follows) with
  | .ok _ => setTime
  | .error fault =>
      if path.endsWith "/" || (!touching.follows && touching.makes) then
        refuseFor name s!"setting times of {Quoted.plain path}" fault
      else if !touching.makes && fault == .missing then pure true
      else
        match ← Act.call (.open path .appending) with
        | .error fault => refuseFor name s!"cannot touch {Quoted.plain path}" fault
        | .ok descriptor => do
            let _ ← Act.call (.close descriptor)
            setTime

/-- The instant that digits stand for: month, day, hour, minute, perhaps after a year. -/
def stampOf? (now : Moment) (text : Octets) : Option Int :=
  let (digits, seconds) :=
    match text.splitOn "." with
    | [digits, seconds] => (digits, if seconds.length == 2 then natural? seconds else none)
    | _ => (text, some 0)
  let count := digits.length
  match natural? digits, seconds with
  | some value, some seconds =>
      let year? : Option Int :=
        let years := value / 100000000
        if count = 8 then some now.shown.year
        else if count = 10 then some (if years < 69 then years + 2000 else years + 1900)
        else if count = 12 then some years
        else none
      match year? with
      | none => none
      | some year =>
          let draft : DateReader.Draft :=
            { year := some (year.toNat, 4)
              monthAndDay := some (value / 1000000 % 100, value / 10000 % 100)
              time := some (value / 100 % 100, value % 100, seconds * 1000) }
          draft.instant? now
  | _, _ => none

/-- The time that options ask for, or what is wrong with them; the flag says if a hint helps. -/
def timeOf
    (now : Moment)
    (given : List Given)
    (reference : Option Int) : Except (Octets × Bool) Int :=
  match argumentOf? given 't', argumentOf? given 'd' with
  | some text, other =>
      match stampOf? now text with
      | none => .error (s!"invalid date format {Quoted.plain text}", false)
      | some time =>
          if reference.isSome || other.isSome then
            .error ("cannot specify times from more than one source", true)
          else .ok time
  | none, some text =>
      match { now with instant := reference.getD now.instant }.read? text with
      | some time => .ok time
      | none => .error (s!"invalid date format {Quoted.plain text}", false)
  | none, none => .ok (reference.getD now.instant)

/-- Say when files were changed, and make those that are missing. -/
def touch : Program :=
  withOptions
    { letters :=
        [('a', .nothing), ('c', .nothing), ('d', .something), ('f', .nothing), ('h', .nothing),
          ('m', .nothing), ('r', .something), ('t', .something)]
      words :=
        [("date", 'd', .something), ("no-create", 'c', .nothing), ("reference", 'r', .something),
          ("no-dereference", 'h', .nothing), ("time", 'T', .something)] } 1
    fun launch given operands => do
      let zone := Zone.ofEnvironment launch.environment
      let now : Moment := { instant := ← Act.call .date, zone }
      let reference : Except (Octets × Fault) (Option Int) ← do
        match argumentOf? given 'r' with
        | none => pure (.ok none)
        | some path =>
            match ← Act.call (.look path !(isGiven given 'h')) with
            | .ok sight => pure (.ok (some sight.changed))
            | .error fault => pure (.error (path, fault))
      match reference with
      | .error (path, fault) =>
          fail launch.name s!"failed to get attributes of {Quoted.plain path}: {fault.text}" 1
      | .ok reference =>
          match timeOf now given reference with
          | .error (reason, true) => misuse launch.name reason 1
          | .error (reason, false) => fail launch.name reason 1
          | .ok time =>
              let onlySeen :=
                (isGiven given 'a' || (argumentOf? given 'T').any fun kind =>
                  ["atime", "access", "use"].contains kind) && !isGiven given 'm'
              let touching : Touching :=
                { makes := !(isGiven given 'c'), follows := !(isGiven given 'h')
                  time := if onlySeen then none else some time }
              if operands.isEmpty then misuse launch.name "missing file operand" 1
              else forEachOperand (touchFile launch.name touching) operands

end Programs
end CameraFleet
