import CameraFleet.Host.Rights
import CameraFleet.Programs.Print

/-!
# Programs that change the tree of files

They make, copy, move and remove files, directories and links. What cannot be
done for one operand does not keep them from the others.
-/

namespace CameraFleet
namespace Programs

open Host

/-! ## Operands -/

/-- Do something for each operand; the status is that of the worst case. -/
def forEachOperand
    (body : Octets -> Act Bool) : List Octets -> Act Nat
  | [] => pure 0
  | operand :: rest => do
      let done ← body operand
      let status ← forEachOperand body rest
      pure (if done then status else 1)

/-- Complain about something that could not be done. -/
def refuseFor
    (name text : Octets)
    (fault : Fault) : Act Bool := do
  warn name s!"{text}: {fault.text}"
  pure false

/-- What stands at a path; a link in the last place is itself. -/
def entryAt (path : Octets) : Act (Except Fault Entry) := do
  match ← Act.call (.look path false) with
  | .error fault => pure (.error fault)
  | .ok sight =>
      match sight.kind with
      | .entry entry => pure (.ok entry)
      | _ => pure (.ok .unavailable)

/-- Whether a path leads to a directory. -/
def leadsToDirectory (path : Octets) : Act Bool := do
  match ← Act.call (.look path true) with
  | .error _ => pure false
  | .ok sight => pure (sight.kind == .entry .directory)

/-- The names in a directory, in order. -/
def sortedNames (path : Octets) : Act (List Octets) := do
  match ← Act.call (.names path) with
  | .error _ => pure []
  | .ok names => pure (names.mergeSort fun a b => decide (a ≤ b))

/-- The path of a name in a directory. -/
def childPath (directory name : Octets) : Octets :=
  if directory.endsWith "/" then directory ++ name else directory ++ "/" ++ name

/-- Tell what has been done, if that is asked for. -/
def tell
    (name : Octets)
    (tells : Bool)
    (text : Octets) : Act Unit := do
  if tells then
    let _ ← emit name (Octets.toBytes (text ++ "\n"))

/-- How deep directories lie within each other, and more. -/
def deepest : Nat := 100000

/-! ## Removing -/

/-- Remove a file, or a directory with everything in it. -/
def removeTree
    (name : Octets)
    (tells : Bool) : Nat -> Octets -> Act Bool
  | 0, _ => pure false
  | depth + 1, path => do
      let failure := s!"cannot remove {Quoted.plain path}"
      match ← entryAt path with
      | .error fault => refuseFor name failure fault
      | .ok .directory => do
          let children := (← sortedNames path).map (childPath path)
          let removed ← children.mapM (removeTree name tells depth)
          if !removed.all (· == true) then pure false
          else
            match ← Act.call (.change (.removeDirectory path)) with
            | .error fault => refuseFor name failure fault
            | .ok () => do
                tell name tells s!"removed directory {Quoted.plain path}"
                pure true
      | .ok _ => do
          match ← Act.call (.change (.remove path)) with
          | .error fault => refuseFor name failure fault
          | .ok () => do
              tell name tells s!"removed {Quoted.plain path}"
              pure true

/-- Remove what an operand names. -/
def removeOperand
    (name : Octets)
    (given : List Given)
    (path : Octets) : Act Bool := do
  let descends := isGiven given 'r' || isGiven given 'R'
  let tells := isGiven given 'v'
  let failure := s!"cannot remove {Quoted.plain path}"
  match ← entryAt path with
  | .error fault =>
      if isGiven given 'f' && (fault == .missing || fault == .notDirectory) then pure true
      else refuseFor name failure fault
  | .ok .directory =>
      let last := lastName path
      if !descends && !isGiven given 'd' then refuseFor name failure .isDirectory
      else if last == "." || last == ".." then do
        warn name s!"refusing to remove '.' or '..' directory: skipping {Quoted.plain path}"
        pure false
      else if last == "/" then do
        warn name "it is dangerous to operate recursively on '/'"
        warn name "use --no-preserve-root to override this failsafe"
        pure false
      else if descends then removeTree name tells deepest path
      else
        match ← Act.call (.change (.removeDirectory path)) with
        | .error fault => refuseFor name failure fault
        | .ok () => do
            tell name tells s!"removed directory {Quoted.plain path}"
            pure true
  | .ok _ => removeTree name tells 1 path

/-- Remove files. -/
def rm : Program :=
  withOptions
    { letters :=
        [('d', .nothing), ('f', .nothing), ('i', .nothing), ('I', .nothing), ('r', .nothing),
          ('R', .nothing), ('v', .nothing)]
      words :=
        [("dir", 'd', .nothing), ("force", 'f', .nothing), ("recursive", 'r', .nothing),
          ("verbose", 'v', .nothing)] } 1 fun launch given operands => do
    if operands.isEmpty && !isGiven given 'f' then misuse launch.name "missing operand" 1
    else forEachOperand (removeOperand launch.name given) operands

/-- Remove an empty directory, and those above it that become empty if asked for. -/
def removeEmpty
    (name : Octets)
    (given : List Given) : Nat -> Octets -> Act Bool
  | 0, _ => pure true
  | depth + 1, path => do
      tell name (isGiven given 'v') s!"{name}: removing directory, {Quoted.plain path}"
      match ← Act.call (.change (.removeDirectory path)) with
      | .error fault =>
          if fault == .notEmpty && isGiven given 'e' then pure true
          else refuseFor name s!"failed to remove {Quoted.plain path}" fault
      | .ok () =>
          let above := directoryName path
          if isGiven given 'p' && above != "." && above != "/" then
            removeEmpty name given depth above
          else pure true

/-- Remove empty directories. -/
def rmdir : Program :=
  withOptions
    { letters := [('p', .nothing), ('v', .nothing)]
      words :=
        [("ignore-fail-on-non-empty", 'e', .nothing), ("parents", 'p', .nothing),
          ("verbose", 'v', .nothing)] } 1 fun launch given operands => do
    if operands.isEmpty then misuse launch.name "missing operand" 1
    else forEachOperand (removeEmpty launch.name given deepest) operands

/-! ## Making -/

/-- Make a directory. -/
def makeDirectory
    (name : Octets)
    (tells : Bool)
    (path : Octets) : Act Bool := do
  match ← Act.call (.change (.makeDirectory path)) with
  | .error fault => refuseFor name s!"cannot create directory {Quoted.plain path}" fault
  | .ok () => do
      tell name tells s!"{name}: created directory {Quoted.plain path}"
      pure true

/-- The paths on the way to a path, and the path itself. -/
def pathsTo (path : Octets) : List Octets :=
  let chars := path.toList
  let ends := (List.range chars.length).filter fun place =>
    chars.getD place '/' != '/' && chars.getD (place + 1) '/' == '/'
  ends.map fun place => String.ofList (chars.take (place + 1))

/-- Make the directories at some paths, each of which may be there. -/
def makeDirectories
    (name : Octets)
    (tells : Bool) : List Octets -> Act Bool
  | [] => pure true
  | path :: rest => do
      if ← leadsToDirectory path then makeDirectories name tells rest
      else
        match ← Act.call (.look path true) with
        | .ok _ =>
            let fault := if rest.isEmpty then Fault.occupied else .notDirectory
            refuseFor name s!"cannot create directory {Quoted.plain path}" fault
        | .error _ =>
            if ← makeDirectory name tells path then makeDirectories name tells rest
            else pure false

/-- Whether a text describes rights. -/
def areRights (text : Octets) : Bool :=
  (Rights.given? text 0 false 0).isSome

/-- Give a path the rights that a text describes, if there is one. -/
def giveRights (text : Option Octets) (path : Octets) : Act Unit := do
  match text.bind fun text => Rights.given? text 0 true 511 with
  | some rights => do
      let _ ← Act.call (.change (.setRights path rights))
  | none => pure ()

/-- Make directories. -/
def mkdir : Program :=
  withOptions
    { letters := [('m', .something), ('p', .nothing), ('v', .nothing)]
      words :=
        [("mode", 'm', .something), ("parents", 'p', .nothing), ("verbose", 'v', .nothing)] } 1
    fun launch given operands => do
      let tells := isGiven given 'v'
      match operands.isEmpty, (argumentOf? given 'm').filter fun text => !areRights text with
      | true, _ => misuse launch.name "missing operand" 1
      | false, some text => fail launch.name s!"invalid mode {Quoted.plain text}" 1
      | false, none =>
          let make (path : Octets) : Act Bool := do
            let wasThere ← leadsToDirectory path
            let made ←
              if isGiven given 'p' then makeDirectories launch.name tells (pathsTo path)
              else makeDirectory launch.name tells path
            if made && !wasThere then giveRights (argumentOf? given 'm') path
            pure made
          forEachOperand make operands

/-! ## Copying and moving -/

/-- Where the sources of a command go. -/
inductive Destination
  /-- Into a directory. -/
  | directory (place : Octets)
  /-- To a path. -/
  | path (place : Octets)
  deriving Repr, DecidableEq

/-- The path to which a source goes. -/
def Destination.pathOf (destination : Destination) (source : Octets) : Octets :=
  match destination with
  | .directory place => childPath place (lastName source)
  | .path place => place

/-- The sources among some operands, and where they go; or what is wrong, perhaps with a hint. -/
def destinationOf
    (given : List Given)
    (operands : List Octets) :
    Act (Except (Octets × Bool) (List Octets × Destination)) := do
  match operands, argumentOf? given 't' with
  | [], _ => pure (.error ("missing file operand", true))
  | sources, some directory =>
      if ← leadsToDirectory directory then pure (.ok (sources, .directory directory))
      else pure (.error (s!"target directory {Quoted.plain directory}: {Fault.missing.text}", false))
  | [source], none =>
      pure (.error (s!"missing destination file operand after {Quoted.plain source}", true))
  | first :: rest, none => do
      let sources := first :: rest.dropLast
      let target := rest.getLast?.getD ""
      if isGiven given 'T' then
        match rest.drop 1 with
        | [] => pure (.ok (sources, .path target))
        | extra :: _ => pure (.error (s!"extra operand {Quoted.plain extra}", true))
      else if ← leadsToDirectory target then pure (.ok (sources, .directory target))
      else if rest.length = 1 then pure (.ok (sources, .path target))
      else
        match ← Act.call (.look target true) with
        | .ok _ =>
            pure (.error (s!"target {Quoted.plain target}: {Fault.notDirectory.text}", false))
        | .error fault =>
            pure (.error (s!"target {Quoted.plain target}: {fault.text}", false))

/-- Do something with every source and the path to which it goes. -/
def withDestination
    (body : Octets -> List Given -> Octets -> Octets -> Act Bool)
    (launch : Launch)
    (given : List Given)
    (operands : List Octets) : Act Nat := do
  match ← destinationOf given operands with
  | .error (reason, true) => misuse launch.name reason 1
  | .error (reason, false) => fail launch.name reason 1
  | .ok (sources, destination) =>
      forEachOperand
        (fun source => body launch.name given source (destination.pathOf source)) sources

/-- Whether two paths lead to the same file. -/
def areSame (first second : Octets) : Act Bool := do
  match ← Act.call (.resolve first), ← Act.call (.resolve second) with
  | .ok a, .ok b => pure (a == b)
  | _, _ => pure false

/-- Whether a path lies below another one. -/
def liesBelow (path above : Octets) : Act Bool := do
  match ← Act.call (.resolve above), ← Act.call (.resolve (directoryName path)) with
  | .ok a, .ok b => pure (a == b || b.startsWith (a ++ "/"))
  | _, _ => pure false

/-- Copy the content of an open file; the number bounds the portions. -/
def copyContent (source target : Nat) : Nat -> Act Unit
  | 0 => pure ()
  | turns + 1 => do
      match ← Act.call (.read source block) with
      | .error _ => pure ()
      | .ok bytes =>
          if !bytes.isEmpty then
            let _ ← Act.call (.write target bytes)
            copyContent source target turns

/-- Copy a file that is no directory. -/
def copyFile
    (name : Octets)
    (given : List Given)
    (source target : Octets)
    (sight : Sight) : Act Bool := do
  let isNew := !(← Act.call (.look target true)).isOk
  if ← leadsToDirectory target then
    warn name s!"cannot overwrite directory {Quoted.plain target} with non-directory"
    pure false
  else
    match ← Act.call (.open source .reading) with
    | .error fault => refuseFor name s!"cannot open {Quoted.plain source} for reading" fault
    | .ok input => do
        match ← Act.call (.open target .writing) with
        | .error fault => do
            let _ ← Act.call (.close input)
            let fault := if target.endsWith "/" then .notDirectory else fault
            refuseFor name s!"cannot create regular file {Quoted.plain target}" fault
        | .ok output => do
            copyContent input output manyTurns
            let _ ← Act.call (.close input)
            let _ ← Act.call (.close output)
            let keeps := isGiven given 'p' || isGiven given 'a'
            if isNew || keeps then
              let mask ← if keeps then pure 0 else Act.call (.mask none)
              let rights := Rights.without (sight.rights &&& 511) mask
              let _ ← Act.call (.change (.setRights target rights))
            if keeps then
              let _ ← Act.call (.change (.setTime target sight.changed true))
            tell name (isGiven given 'v') s!"{Quoted.plain source} -> {Quoted.plain target}"
            pure true

/-- Copy a file, or a directory with everything in it. -/
def copyTree
    (name : Octets)
    (given : List Given) : Nat -> Octets -> Octets -> Act Bool
  | 0, _, _ => pure false
  | depth + 1, source, target => do
      let descends := ['r', 'R', 'a'].any (isGiven given)
      let follows := !descends && !isGiven given 'P' && !isGiven given 'd'
      match ← Act.call (.look source follows) with
      | .error fault => refuseFor name s!"cannot stat {Quoted.plain source}" fault
      | .ok sight =>
          if ← areSame source target then
            warn name s!"{Quoted.plain source} and {Quoted.plain target} are the same file"
            pure false
          else
            match sight.kind with
            | .entry .directory =>
                if !descends then
                  warn name s!"-r not specified; omitting directory {Quoted.plain source}"
                  pure false
                else if ← liesBelow target source then
                  warn name (s!"cannot copy a directory, {Quoted.plain source}, into itself, " ++
                    Quoted.plain target)
                  pure false
                else
                  let isNew := !(← leadsToDirectory target)
                  if isNew then
                    let _ ← Act.call (.change (.makeDirectory target))
                    tell name (isGiven given 'v')
                      s!"{Quoted.plain source} -> {Quoted.plain target}"
                  let names ← sortedNames source
                  let copied ← names.mapM fun child =>
                    copyTree name given depth (childPath source child) (childPath target child)
                  pure (copied.all (· == true))
            | .entry (.link path) => do
                let _ ← Act.call (.change (.remove target))
                let _ ← Act.call (.change (.link path target))
                tell name (isGiven given 'v') s!"{Quoted.plain source} -> {Quoted.plain target}"
                pure true
            | _ => copyFile name given source target sight

/-- Copy a source to a path, unless there is something that has to stay. -/
def copySource
    (name : Octets)
    (given : List Given)
    (source target : Octets) : Act Bool := do
  match isGiven given 'n', ← Act.call (.look target false) with
  | true, .ok _ => pure true
  | _, _ => copyTree name given deepest source target

/-- Copy files. -/
def cp : Program :=
  withOptions
    { letters :=
        ['a', 'd', 'f', 'i', 'L', 'n', 'P', 'p', 'R', 'r', 'T', 'u', 'v', 'x'].map
          (fun letter => (letter, Taking.nothing)) ++ [('t', .something)]
      words :=
        [("archive", 'a', .nothing), ("force", 'f', .nothing), ("no-clobber", 'n', .nothing),
          ("no-target-directory", 'T', .nothing), ("recursive", 'r', .nothing),
          ("target-directory", 't', .something), ("update", 'u', .nothing),
          ("verbose", 'v', .nothing)] } 1 fun launch given operands => do
    if isGiven given 'n' then
      warn launch.name ("warning: behavior of -n is non-portable and may change in future; " ++
        "use --update=none instead")
    withDestination copySource launch given operands

/-- Move a source to a path. -/
def moveSource
    (name : Octets)
    (given : List Given)
    (source target : Octets) : Act Bool := do
  let move : Act Bool := do
    match ← Act.call (.change (.move source target)) with
    | .error fault =>
        let fault := if target.endsWith "/" then .notDirectory else fault
        refuseFor name s!"cannot move {Quoted.plain source} to {Quoted.plain target}" fault
    | .ok () => do
        tell name (isGiven given 'v') s!"renamed {Quoted.plain source} -> {Quoted.plain target}"
        pure true
  match ← entryAt source, ← entryAt target with
  | .error fault, _ => refuseFor name s!"cannot stat {Quoted.plain source}" fault
  | .ok entry, .error _ =>
      if entry == .directory && (← liesBelow target source) then
        warn name (s!"cannot move {Quoted.plain source} to a subdirectory of itself, " ++
          Quoted.plain target)
        pure false
      else move
  | .ok entry, .ok old =>
      if ← areSame source target then
        warn name s!"{Quoted.plain source} and {Quoted.plain target} are the same file"
        pure false
      else if isGiven given 'n' then
        warn name s!"not replacing {Quoted.plain target}"
        pure false
      else if entry == .directory && (← liesBelow target source) then
        warn name (s!"cannot move {Quoted.plain source} to a subdirectory of itself, " ++
          Quoted.plain target)
        pure false
      else if entry == .directory && old != .directory then
        warn name (s!"cannot overwrite non-directory {Quoted.plain target} with directory " ++
          Quoted.plain source)
        pure false
      else if entry != .directory && old == .directory then
        warn name s!"cannot overwrite directory {Quoted.plain target} with non-directory"
        pure false
      else move

/-- Move files. -/
def mv : Program :=
  withOptions
    { letters :=
        ['f', 'i', 'n', 'T', 'u', 'v'].map (fun letter => (letter, Taking.nothing)) ++
          [('t', .something)]
      words :=
        [("force", 'f', .nothing), ("no-clobber", 'n', .nothing),
          ("no-target-directory", 'T', .nothing), ("target-directory", 't', .something),
          ("update", 'u', .nothing), ("verbose", 'v', .nothing)] } 1
    (withDestination moveSource)

/-! ## Links -/

/-- Let a path lead to a source. -/
def linkSource
    (name : Octets)
    (given : List Given)
    (source target : Octets) : Act Bool := do
  let isSymbolic := isGiven given 's'
  let (kind, arrow) := if isSymbolic then ("symbolic", "->") else ("hard", "=>")
  let link : Act Bool := do
    if isGiven given 'f' then
      let _ ← Act.call (.change (.remove target))
    let change : Change := if isSymbolic then .link source target else .join source target
    match ← Act.call (.change change) with
    | .error fault =>
        refuseFor name s!"failed to create {kind} link {Quoted.plain target}" fault
    | .ok () => do
        tell name (isGiven given 'v') s!"{Quoted.plain target} {arrow} {Quoted.plain source}"
        pure true
  if isSymbolic then link
  else
    match ← entryAt source with
    | .error fault => refuseFor name s!"failed to access {Quoted.plain source}" fault
    | .ok .directory => do
        warn name s!"{Quoted.wordIfNeeded source}: hard link not allowed for directory"
        pure false
    | .ok _ => link

/-- Let paths lead to files. -/
def ln : Program :=
  withOptions
    { letters :=
        ['f', 'i', 'L', 'n', 'P', 'r', 's', 'T', 'v'].map (fun letter => (letter, Taking.nothing))
          ++ [('t', .something)]
      words :=
        [("force", 'f', .nothing), ("no-dereference", 'n', .nothing), ("symbolic", 's', .nothing),
          ("no-target-directory", 'T', .nothing), ("target-directory", 't', .something),
          ("verbose", 'v', .nothing)] } 1 fun launch given operands => do
    match operands, argumentOf? given 't' with
    | [source], none =>
        forEachOperand
          (fun source => linkSource launch.name given source ("./" ++ lastName source)) [source]
    | operands, _ => withDestination linkSource launch given operands

/-- Rights with their letters. -/
def shownRights (rights : Nat) : Octets :=
  s!"{Rights.fourDigits rights} ({Rights.nineLetters rights})"

/-- What is told about a change of rights, if anything. -/
def rightsReport
    (given : List Given)
    (path : Octets)
    (before after : Nat) : Octets :=
  if before != after && (isGiven given 'v' || isGiven given 'c') then
    s!"mode of {Quoted.plain path} changed from {shownRights before} to {shownRights after}\n"
  else if before == after && isGiven given 'v' then
    s!"mode of {Quoted.plain path} retained as {shownRights before}\n"
  else ""

/-- Change the rights of a file, or of everything in a directory; the number bounds the depth. -/
def changeRights
    (name : Octets)
    (given : List Given)
    (change : Bool -> Nat -> Nat) : Nat -> Octets -> Act Bool
  | 0, _ => pure false
  | depth + 1, path => do
      match ← Act.call (.look path true) with
      | .error fault =>
          if isGiven given 'f' then pure false
          else refuseFor name s!"cannot access {Quoted.plain path}" fault
      | .ok sight => do
          let isDirectory := sight.kind == .entry .directory
          let after := change isDirectory sight.rights
          let _ ← Act.call (.change (.setRights path after))
          let _ ← emit name (Octets.toBytes (rightsReport given path sight.rights after))
          if isDirectory && isGiven given 'R' then
            let names ← sortedNames path
            let changed ← names.mapM fun child => do
              match ← entryAt (childPath path child) with
              | .ok (.link _) => pure true
              | _ => changeRights name given change depth (childPath path child)
            pure (changed.all (· == true))
          else pure true

/-- Whether an argument takes away rights, though it starts like an option. -/
def takesRights (arg : Octets) : Bool :=
  match arg.toList with
  | '-' :: c :: _ => "rwxXstugoa,+=".toList.contains c
  | _ => false

/-- The options of the program that changes rights. -/
def rightsOptions : OptionTable where
  letters := [('R', .nothing), ('c', .nothing), ('f', .nothing), ('v', .nothing)]
  words :=
    [("changes", 'c', .nothing), ("quiet", 'f', .nothing), ("recursive", 'R', .nothing),
      ("reference", 'r', .something), ("silent", 'f', .nothing), ("verbose", 'v', .nothing)]

/-- Change the rights of files. -/
def chmod : Program := fun launch => do
  let (modes, others) := launch.args.partition takesRights
  match rightsOptions.read others with
  | .error reason => misuse launch.name reason 1
  | .ok (given, operands) => do
      let change (text : Octets) (paths : List Octets) (rights? : Option Nat) : Act Nat := do
        let mask ← Act.call (.mask none)
        let value (isDirectory : Bool) (rights : Nat) : Nat :=
          rights?.getD ((Rights.given? text mask isDirectory rights).getD rights)
        forEachOperand (changeRights launch.name given value deepest) paths
      let (text?, paths) :=
        match modes, argumentOf? given 'r', operands with
        | [], none, text :: paths => (some text, paths)
        | [], _, paths => (none, paths)
        | modes, _, paths => (some (String.intercalate "," modes), paths)
      match text?, argumentOf? given 'r' with
      | none, some model => do
          match ← Act.call (.look model true) with
          | .error fault =>
              fail launch.name
                s!"failed to get attributes of {Quoted.plain model}: {fault.text}" 1
          | .ok sight => change "" paths (some sight.rights)
      | none, none => misuse launch.name "missing operand" 1
      | some text, _ =>
          if paths.isEmpty then
            misuse launch.name s!"missing operand after {Quoted.plain text}" 1
          else if !areRights text then
            misuse launch.name s!"invalid mode: {Quoted.plain text}" 1
          else change text paths none

/-! ## Paths -/

/-- What of a path need not exist. -/
inductive Lenience
  /-- Nothing. -/
  | nothing
  /-- Its last name. -/
  | lastName
  /-- All of it. -/
  | everything
  deriving Repr, DecidableEq

/-- A path without links; the number bounds the steps. -/
def canonical (lenience : Lenience) : Nat -> Octets -> Act (Except Fault Octets)
  | 0, _ => pure (.error .endlessLinks)
  | depth + 1, path => do
      match ← Act.call (.resolve path) with
      | .ok place => pure (.ok place)
      | .error fault => do
          let last := lastName path
          let mayMiss := lenience == .everything || (lenience == .lastName && fault == .missing)
          if !mayMiss || path.isEmpty || last == "/" then pure (.error fault)
          else
            let above := directoryName path
            match ← entryAt (withoutSlashes path) with
            | .ok (.link target) =>
                canonical lenience depth
                  (if target.startsWith "/" then target else childPath above target)
            | _ => do
                let start ←
                  if lenience == .everything then canonical lenience depth above
                  else do
                    if ← leadsToDirectory above then Act.call (.resolve above)
                    else pure (.error fault)
                match start with
                | .error fault => pure (.error fault)
                | .ok start =>
                    if last == "." then pure (.ok start)
                    else if last == ".." then pure (.ok (directoryName start))
                    else pure (.ok (childPath start last))

/-- Show where a link leads, or a path without links. -/
def readLink
    (launch : Launch)
    (given : List Given)
    (ending path : Octets) : Act Bool := do
  let lenience? := (lastOf? given ['f', 'e', 'm']).map fun letter =>
    if letter == 'f' then Lenience.lastName
    else if letter == 'e' then .nothing
    else .everything
  let found ←
    match lenience? with
    | some lenience => canonical lenience deepest path
    | none => do
        match ← entryAt path with
        | .ok (.link target) => pure (.ok target)
        | .ok _ => pure (.error .invalid)
        | .error fault => pure (.error fault)
  match found with
  | .ok text => emit launch.name (Octets.toBytes (text ++ ending))
  | .error fault => do
      if isGiven given 'v' then warn launch.name s!"{Quoted.wordIfNeeded path}: {fault.text}"
      pure false

/-- Show where links lead, or paths without links. -/
def readlink : Program :=
  withOptions
    { letters :=
        ['e', 'f', 'm', 'n', 'q', 's', 'v', 'z'].map fun letter => (letter, Taking.nothing)
      words :=
        [("canonicalize", 'f', .nothing), ("canonicalize-existing", 'e', .nothing),
          ("canonicalize-missing", 'm', .nothing), ("no-newline", 'n', .nothing),
          ("quiet", 'q', .nothing), ("silent", 's', .nothing), ("verbose", 'v', .nothing),
          ("zero", 'z', .nothing)] } 1 fun launch given operands => do
    let bare := isGiven given 'n'
    if operands.isEmpty then misuse launch.name "missing operand" 1
    else
      if bare && 1 < operands.length then
        warn launch.name "ignoring --no-newline with multiple arguments"
      let ending := if bare && operands.length = 1 then "" else itemEnd given
      forEachOperand (readLink launch given ending) operands

/-- Show a path without links. -/
def showReal
    (launch : Launch)
    (given : List Given)
    (path : Octets) : Act Bool := do
  let lenience :=
    match lastOf? given ['e', 'm'] with
    | some 'e' => Lenience.nothing
    | some _ => .everything
    | none => .lastName
  match ← canonical lenience deepest path with
  | .ok text => emit launch.name (Octets.toBytes (text ++ itemEnd given))
  | .error fault => do
      if !isGiven given 'q' then warn launch.name s!"{Quoted.wordIfNeeded path}: {fault.text}"
      pure false

/-- Show paths without links. -/
def realpath : Program :=
  withOptions
    { letters := ['e', 'm', 'q', 'z'].map fun letter => (letter, Taking.nothing)
      words :=
        [("canonicalize-existing", 'e', .nothing), ("canonicalize-missing", 'm', .nothing),
          ("quiet", 'q', .nothing), ("zero", 'z', .nothing)] } 1 fun launch given operands => do
    if operands.isEmpty then misuse launch.name "missing operand" 1
    else forEachOperand (showReal launch given) operands

/-! ## Names that nobody has -/

/-- The letters and digits of such names. -/
def nameLetters : List Char :=
  "abcdefghijklmnopqrstuvwxyzABCDEFGHIJKLMNOPQRSTUVWXYZ0123456789".toList

/-- So many letters and digits that a number gives. -/
def lettersOf : Nat -> Nat -> List Char
  | 0, _ => []
  | count + 1, seed =>
      nameLetters.getD (seed % 62) 'a' ::
        lettersOf count ((seed / 62 + seed % 62 * 7919 + 104729) % 2147483647)

/-- A template taken apart: before its marks, their number, and after them. -/
def takeTemplate (template : Octets) (suffix : Option Octets) : List Char × Nat × List Char :=
  let chars := template.toList.reverse
  let after := if suffix.isSome then [] else (chars.takeWhile (· != 'X')).reverse
  let rest := if suffix.isSome then chars else chars.dropWhile (· != 'X')
  let marks := rest.takeWhile (· == 'X')
  ((rest.dropWhile (· == 'X')).reverse, marks.length, after ++ (suffix.getD "").toList)

/-- Make a file or a directory with a name that nobody has; the result is its path. -/
def makeUnique
    (kind : Char)
    (before : List Char)
    (count : Nat)
    (after : List Char) : Nat -> Nat -> Act (Except Fault Octets)
  | 0, _ => pure (.error .occupied)
  | tries + 1, seed => do
      let path := String.ofList (before ++ lettersOf count seed ++ after)
      let made ←
        match kind with
        | 'd' => do
            let made ← Act.call (.change (.makeDirectory path))
            if made.isOk then giveRights (some "700") path
            pure made
        | 'u' => do
            match ← Act.call (.look path false) with
            | .ok _ => pure (.error .occupied)
            | .error _ => pure (.ok ())
        | _ => do
            match ← Act.call (.open path .making) with
            | .error fault => pure (.error fault)
            | .ok descriptor => do
                let _ ← Act.call (.close descriptor)
                giveRights (some "600") path
                pure (.ok ())
      match made with
      | .ok () => pure (.ok path)
      | .error .occupied => makeUnique kind before count after tries (seed + 1)
      | .error fault => pure (.error fault)

/-- Make a file or a directory with a name that nobody has. -/
def mktemp : Program :=
  withOptions
    { letters :=
        [('d', .nothing), ('p', .something), ('q', .nothing), ('t', .nothing), ('u', .nothing)]
      words :=
        [("directory", 'd', .nothing), ("dry-run", 'u', .nothing), ("quiet", 'q', .nothing),
          ("suffix", 's', .something), ("tmpdir", 'p', .perhaps)] } 1
    fun launch given operands => do
      let usual := (launch.environment.lookup "TMPDIR").getD "/tmp"
      let inUsual := operands.isEmpty || isGiven given 't' || isGiven given 'p'
      let directory :=
        if inUsual then some ((argumentOf? given 'p').getD usual) else none
      let template := operands.headD "tmp.XXXXXXXXXX"
      let (before, count, after) := takeTemplate template (argumentOf? given 's')
      match operands with
      | _ :: _ :: _ => misuse launch.name "too many templates" 1
      | _ =>
          if count < 3 then
            fail launch.name s!"too few X's in template {Quoted.plain template}" 1
          else if after.contains '/' then
            let shown := Quoted.plain (String.ofList after)
            fail launch.name s!"invalid suffix {shown}, contains directory separator" 1
          else
            let start := (directory.map fun path => childPath path "").getD ""
            let kind :=
              if isGiven given 'u' then 'u' else if isGiven given 'd' then 'd' else 'f'
            let (process, _) ← Act.call .identity
            let seed := process * 1000003 + (← Act.call .clock) * 7919 + 12345
            match ← makeUnique kind (start.toList ++ before) count after 100 seed with
            | .ok path => printing launch.name (path ++ "\n") 0
            | .error fault => do
                let what := if kind == 'd' then "directory" else "file"
                if !isGiven given 'q' then
                  let shown := Quoted.plain (start ++ template ++ (argumentOf? given 's').getD "")
                  warn launch.name s!"failed to create {what} via template {shown}: {fault.text}"
                pure 1

end Programs
end CameraFleet
