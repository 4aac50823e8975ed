import CameraFleet.Shell.Extended.Usage
import CameraFleet.Shell.Places

/-!
# Directories of the extended shell

The commands of the extended shell that go to directories, and that keep
directories for later.
-/

namespace CameraFleet
namespace Shell
namespace Extended

open Host

/-- Go to a directory; why this fails, if it does. -/
def enter
    (isPhysical : Bool)
    (target : Octets) : Sh (Option Fault) := do
  let logical := pathFrom (← get).here target
  match ← Sh.call (.enter (if isPhysical then target else logical)) with
  | .error fault => pure (some fault)
  | .ok () => do
      let place ← if isPhysical then physicalPlace else pure logical
      arrive place true
      pure none

/-- Go to a directory. -/
def cdCommand (args : List Octets) : Sh Nat := do
  let (given, names) ← options (flags "LPe@") args
  let isPhysical := asksPhysical (given.filter fun entry => entry.1 == 'L' || entry.1 == 'P')
  let state ← get
  let (target, tells) ←
    match names with
    | [] =>
        match state.value? "HOME" with
        | some home => pure (home, false)
        | none => refuse 1 "HOME not set"
    | ["-"] =>
        match state.value? "OLDPWD" with
        | some place => pure (place, true)
        | none => refuse 1 "OLDPWD not set"
    | [target] => pure (target, false)
    | _ => refuse 1 "too many arguments"
  let found ←
    if isAnchored target || target.isEmpty then pure none
    else searchPlace target (((state.value? "CDPATH").getD "").splitOn ":")
  let (path, tells) :=
    match found with
    | some (start, path) => (path, tells || !start.isEmpty)
    | none => (target, tells)
  if path.isEmpty then pure 0
  else
    match ← enter isPhysical path with
    | none => do
        if tells then Sh.print s!"{(← get).here}\n"
        pure 0
    | some fault => complain s!"{target}: {fault.text}"

/-- Show the directory. -/
def pwdCommand (args : List Octets) : Sh Nat := do
  let (given, _) ← options (flags "LP") args
  let place ← if asksPhysical given then physicalPlace else do pure (← get).here
  Sh.print s!"{place}\n"
  pure 0

/-- A directory as it is shown, with a sign for the home. -/
def shownPlace (state : State) (place : Octets) : Octets :=
  match state.value? "HOME" with
  | some home =>
      if home.isEmpty || home == "/" then place
      else if place == home then "~"
      else if place.startsWith (home ++ "/") then "~" ++ (place.drop home.length).toString
      else place
  | none => place

/-- Show the directories that are kept, after the one where the shell is. -/
def showPlaces : Sh Unit := do
  let state ← get
  let places := (state.here :: state.places).map (shownPlace state)
  Sh.print (String.intercalate " " places ++ "\n")

/-- The place in the list of directories that an argument with a sign means. -/
def placeNumber (count : Nat) (arg : Octets) : Option Nat :=
  match arg.toList with
  | '+' :: digits => (Programs.natural? (String.ofList digits)).filter (· < count)
  | '-' :: digits =>
      ((Programs.natural? (String.ofList digits)).filter (· < count)).map (count - 1 - ·)
  | _ => none

/-- Whether an argument has a sign and a number. -/
def isPlaceNumber (arg : Octets) : Bool :=
  match arg.toList with
  | sign :: d :: _ => (sign == '+' || sign == '-') && d.isDigit
  | _ => false

/-- Keep the directory for later and go to another one. -/
def pushdCommand (args : List Octets) : Sh Nat := do
  let args := if args.head? == some "--" then args.drop 1 else args
  let (still, args) := if args.head? == some "-n" then (true, args.drop 1) else (false, args)
  let state ← get
  let all := state.here :: state.places
  let go (places : List Octets) : Sh Nat := do
    match places with
    | [] => pure 0
    | target :: rest => do
        match ← enter false target with
        | some fault => complain s!"{target}: {fault.text}"
        | none => do
            modify ({ · with places := rest })
            showPlaces
            pure 0
  match args with
  | [] =>
      match state.places with
      | [] => complain "no other directory"
      | second :: rest => go (second :: state.here :: rest)
  | arg :: _ =>
      if isPlaceNumber arg then
        if all.length < 2 then complain "directory stack empty"
        else
          match placeNumber all.length arg with
          | some number => go (all.drop number ++ all.take number)
          | none => complain s!"{arg}: directory stack index out of range"
      else if still then do
        modify ({ · with places := arg :: state.places })
        showPlaces
        pure 0
      else do
        match ← enter false arg with
        | some fault => complain s!"{arg}: {fault.text}"
        | none => do
            modify ({ · with places := all })
            showPlaces
            pure 0

/-- Go back to a directory that has been kept, or forget one. -/
def popdCommand (args : List Octets) : Sh Nat := do
  let state ← get
  let all := state.here :: state.places
  match args with
  | [] =>
      match state.places with
      | [] => complain "directory stack empty"
      | target :: rest => do
          match ← enter false target with
          | some fault => complain s!"{target}: {fault.text}"
          | none => do
              modify ({ · with places := rest })
              showPlaces
              pure 0
  | arg :: _ =>
      if !isPlaceNumber arg then complain s!"{arg}: invalid argument"
      else if all.length < 2 then complain "directory stack empty"
      else
        match placeNumber all.length arg with
        | none => complain s!"{arg}: directory stack index out of range"
        | some 0 =>
            match state.places with
            | target :: rest => do
                let _ ← enter false target
                modify ({ · with places := rest })
                showPlaces
                pure 0
            | [] => pure 0
        | some (number + 1) => do
            modify ({ · with places := state.places.eraseIdx number })
            showPlaces
            pure 0

/-- Show or forget the directories that are kept. -/
def dirsCommand (args : List Octets) : Sh Nat := do
  let numbered := args.find? isPlaceNumber
  let (given, _) ← options (flags "clpv") (args.filter fun arg => !isPlaceNumber arg)
  let letters := given.map (·.1)
  let state ← get
  let all := state.here :: state.places
  let shown (place : Octets) : Octets :=
    if letters.contains 'l' then place else shownPlace state place
  if letters.contains 'c' then
    modify ({ · with places := [] })
    pure 0
  else
    match numbered with
    | some arg =>
        match placeNumber all.length arg with
        | some number => do
            Sh.print (shown (all.getD number "") ++ "\n")
            pure 0
        | none => complain s!"{arg}: directory stack index out of range"
    | none => do
        if letters.contains 'v' then
          for (place, number) in all.zipIdx do
            let start := if number < 10 then " " else ""
            Sh.print s!"{start}{number}  {shown place}\n"
        else if letters.contains 'p' then
          for place in all do
            Sh.print s!"{shown place}\n"
        else Sh.print (String.intercalate " " (all.map shown) ++ "\n")
        pure 0

end Extended
end Shell
end CameraFleet
