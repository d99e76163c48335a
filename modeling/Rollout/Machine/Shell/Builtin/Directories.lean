import Rollout.Machine.Shell.Builtin.Basic
import Rollout.Machine.Unix.Mode

/-!
Commands about the surroundings of a shell: its current directory, the permissions of new files, and limits.
-/

namespace Rollout.Shell.Builtin

open Unix (pathOf)

/-- The components of a path without its dots, where two dots take the one before them away. -/
def normalized : List Text → List Text → List Text
  | here, [] => here.reverse
  | here, c :: cs =>
    if c = [] || c = ['.'] then normalized here cs
    else if c = ['.', '.'] then normalized here.tail cs
    else normalized (c :: here) cs

/-- The path that is reached from a directory. -/
def reached (here path : Text) : Text :=
  let whole := if path.head? = some '/' then path else here ++ '/' :: path
  pathOf (normalized [] (Text.split '/' whole))

/-- Give a variable a value that programs get. -/
def assignExported (name value : Text) : Action Unit := do
  assign name value
  changeVariable name fun v => { v with exported := true }

/-- Change the current directory to where a path leads, or tell why it leads to none. -/
def changeTo (physical : Bool) (path : Text) : Action (Option Text) := do
  let s ← get
  let logical := reached s.here path
  match if physical then s.root.locate s.cwd path else s.root.locate s.cwd logical with
  | .ok place =>
    if ((s.root.at? place).map FileTree.isDir).getD false then do
      modify fun s => { s with cwd := place, here := if physical then pathOf place else logical }
      assignExported "OLDPWD" s.here
      assignExported "PWD" (← get).here
      return none
    else return some "Not a directory"
  | .error e => return some (Unix.describeFault e)

/-- Change the current directory. -/
def cd : Routine := fun ts => do
  let s ← get
  let (os, ts) ← match s.dialect with
    | .plain => options "LP" "" ts
    | .rich => options "LPe@" "" ts
  let physical := (os.getLast?.map (·.1)) = some 'P'
  let plain := s.dialect = .plain
  match ts with
  | [] =>
    if !plain && (s.value? "HOME").isNone then do
      protest "HOME not set"
      return 1
    else go plain physical ((s.value? "HOME").getD []) false
  | ['-'] :: _ =>
    if !plain && (s.value? "OLDPWD").isNone then do
      protest "OLDPWD not set"
      return 1
    else go plain physical ((s.value? "OLDPWD").getD []) true
  | t :: rest =>
    if !plain && rest ≠ [] then do
      protest "too many arguments"
      return 1
    else go plain physical t false
where
  /-- Change to a directory, or to one below the directories that are searched, and tell where if wanted. -/
  go (plain physical : Bool) (target : Text) (shown : Bool) : Action Nat := do
    let s ← get
    let isDirect := target = [] || target.head? = some '/' || target = ['.'] || target = ['.', '.']
      || "./".toList.isPrefixOf target || "../".toList.isPrefixOf target
    let target := if target = [] then ['.'] else target
    let found := if isDirect then none
      else ((s.value? "CDPATH").map (Text.split ':')).bind fun ds => ds.find? fun d =>
        d ≠ [] && s.isDir (d ++ '/' :: target)
    let path := match found with
      | some d => d ++ '/' :: target
      | none => target
    match ← changeTo physical path with
    | none => do
      if shown || found.isSome then print (← get).here
      return 0
    | some e => do
      if plain then abort ("can't cd to " ++ target)
      else do
        protest (Quoting.shown target ++ ": " ++ e)
        return 1

/-- Print the current directory. -/
def pwd : Routine := fun ts => do
  let s ← get
  let (os, _) ← options "LP" "" ts
  print (if (os.getLast?.map (·.1)) = some 'P' then pathOf s.cwd else s.here)
  return 0

/-! ### Stacks of directories -/

/-- A path as it is shown: the home is a tilde. -/
def withTilde (s : Interpreter) (t : Text) : Text :=
  match s.value? "HOME" with
  | some (c :: cs) =>
    let home := c :: cs
    if t = home then ['~'] else if (home ++ ['/']).isPrefixOf t then '~' :: t.drop home.length else t
  | _ => t

/-- Refuse an argument that is not a number. -/
def refuseNumber (t : Text) : Action Nat := do
  let isBased (p : Char → Bool) : Bool := t.head? = some '0' && ((t.drop 1).head?).any p
  protest (t ++ ": " ++ if isBased Char.isDigit then "invalid octal number".toList
    else if isBased (· = 'x') then "invalid hex number" else "invalid number")
  showUsage
  return 2

/-- Refuse a place at which no directory is. -/
def refusePlace (s : Interpreter) (t : Text) : Action Nat := do
  protest (if s.stack = [] then "directory stack empty".toList else t ++ ": directory stack index out of range")
  return 1

/-- How directories are shown. -/
structure StackView where
  /-- Are they shown as they are? -/
  whole : Bool
  /-- Is each on a line of its own? -/
  lines : Bool
  /-- Does each have its place in front of it? -/
  numbered : Bool

/-- Show directories that have their places. -/
def StackView.show? (v : StackView) (s : Interpreter) (ds : List (Nat × Text)) : Action Nat := do
  let one (d : Nat × Text) : Text :=
    let place := Text.ofNat d.1
    (if v.numbered then List.replicate (2 - place.length) ' ' ++ place ++ "  " else [])
      ++ if v.whole then d.2 else withTilde s d.2
  print (Text.join [if v.lines || v.numbered then '\n' else ' '] (ds.map one))
  return 0

/-- The directories with their places, the current one first. -/
def placed (s : Interpreter) : List (Nat × Text) := (List.range (s.stack.length + 1)).zip (s.here :: s.stack)

/-- The place that a sign and a number stand for, which may count from the end. -/
def placeOf (s : Interpreter) (sign : Char) (n : Int) : Int := if sign = '-' then s.stack.length - n else n

/-- Show the directories that have been put away. -/
def dirs : Routine := fun ts => do
  let s ← get
  go s (ts.length + 1) ⟨false, false, false⟩ none false ts
where
  /-- Follow the arguments. -/
  go (s : Interpreter) : Nat → StackView → Option (Int × Text) → Bool → List Text → Action Nat
    | 0, _, _, _, _ => return 0
    | fuel + 1, v, place, clears, ts => match ts with
      | ['-', 'l'] :: ts => go s fuel { v with whole := true } place clears ts
      | ['-', 'c'] :: ts => go s fuel v place true ts
      | ['-', 'v'] :: ts => go s fuel { v with numbered := true } place clears ts
      | ['-', 'p'] :: ts => go s fuel { v with lines := true } place clears ts
      | ['-', '-'] :: _ => go s fuel v place clears []
      | (sign :: digits) :: ts =>
        if sign = '+' || sign = '-' then match Condition.integer? digits with
          | some n => go s fuel v (some (placeOf s sign n, digits)) clears ts
          | none => refuseNumber (sign :: digits)
        else do
          protest (sign :: digits ++ ": invalid option")
          showUsage
          return 2
      | _ => do
        if clears then
          set { s with stack := [] }
          return 0
        match place with
        | none => v.show? s (placed s)
        | some (n, digits) => match (placed s).find? fun d => (d.1 : Int) = n with
          | some d => v.show? s [d]
          | none => refusePlace s digits

/-- Change to a directory that was put away, and show those that still are. -/
def visit (path : Text) (stack : List Text) : Action Nat := do
  match ← changeTo false path with
  | none => do
    modify fun s => { s with stack := stack }
    dirs []
  | some e => do
    protest (path ++ ": " ++ e)
    return 1

/-- Put the current directory away and change to another one, or turn the directories around. -/
def pushd : Routine := fun ts => do
  let s ← get
  let (moves, place, ts) ← read s (ts.length + 1) true none ts
  match place, ts, s.stack with
  | some (.error n), _, _ => return n
  | none, none, top :: rest => visit top (s.here :: rest)
  | none, none, [] => do
    protest "no other directory"
    return 1
  | some (.ok n), _, _ =>
    let all := s.here :: s.stack
    match all.drop n ++ all.take n with
    | top :: rest =>
      if moves then visit top rest
      else do
        set { s with stack := rest }
        return 0
    | [] => return 0
  | none, some [], _ => return 0
  | none, some (t :: more), stack =>
    if !moves then do
      set { s with stack := t :: stack }
      dirs []
    else if more ≠ [] then do
      protest "too many arguments"
      return 1
    else do
      let target := if t = ['-'] then (s.value? "OLDPWD").getD [] else t
      match ← changeTo false target with
      | none => do
        if t = ['-'] then print (← get).here
        modify fun q => { q with stack := s.here :: stack }
        dirs []
      | some e => do
        protest (t ++ ": " ++ e)
        return 1
where
  /-- Read the arguments: whether the current directory changes, a place or the status of a mistake, and what is
  left, if there was anything. -/
  read (s : Interpreter) : Nat → Bool → Option (Except Nat Nat) → List Text →
      Action (Bool × Option (Except Nat Nat) × Option (List Text))
    | 0, moves, place, _ => return (moves, place, none)
    | _, moves, place, [] => return (moves, place, if moves then none else some [])
    | fuel + 1, moves, place, t :: ts => match t with
      | ['-', 'n'] => read s fuel false place ts
      | ['-', '-'] => return (moves, place, if ts = [] then none else some ts)
      | ['-'] => return (moves, place, some (t :: ts))
      | sign :: digits =>
        if sign = '+' || sign = '-' then match Condition.integer? digits with
          | none => do return (moves, some (.error (← refuseNumber t)), none)
          | some n =>
            let n := placeOf s sign n
            if 0 ≤ n && n ≤ s.stack.length then read s fuel moves (some (.ok n.toNat)) ts
            else do return (moves, some (.error (← refusePlace s t)), none)
        else return (moves, place, some (t :: ts))
      | [] => return (moves, place, some (t :: ts))

/-- Change to the directory that was put away last, or take another one away. -/
def popd : Routine := fun ts => do
  go (← get) (ts.length + 1) true none ts
where
  /-- Follow the arguments. -/
  go (s : Interpreter) : Nat → Bool → Option (Int × Text) → List Text → Action Nat
    | 0, _, _, _ => return 0
    | fuel + 1, moves, place, ts => match ts with
      | ['-', 'n'] :: ts => go s fuel false place ts
      | ['-', '-'] :: _ => go s fuel moves place []
      | (sign :: digits) :: ts =>
        if sign = '+' || sign = '-' then match Condition.integer? digits with
          | some n => go s fuel moves (some (placeOf s sign n, sign :: digits)) ts
          | none => refuseNumber (sign :: digits)
        else do
          protest (sign :: digits ++ ": invalid argument")
          showUsage
          return 2
      | _ => do
        let n := (place.map (·.1)).getD 0
        match s.stack with
        | [] => refusePlace s []
        | top :: rest =>
          if n < 0 || (s.stack.length : Int) < n then refusePlace s ((place.map (·.2)).getD [])
          else if n = 0 then
            if moves then visit top rest
            else do
              set { s with stack := rest }
              dirs []
          else do
            set { s with stack := s.stack.eraseIdx (n.toNat - 1) }
            dirs []

/-! ### Permissions and limits -/

/-- Show or change the permissions that new files do not get. -/
def umask : Routine := fun ts => do
  let s ← get
  let (os, ts) ← match s.dialect with
    | .plain => options "S" "" ts
    | .rich => options "pS" "" ts
  let symbolic (mask : Nat) : Text :=
    let part (who : Char) (shift : Nat) : Text :=
      let bits := ((0o777 ^^^ mask) >>> shift) &&& 7
      who :: '=' :: (if bits &&& 4 ≠ 0 then ['r'] else []) ++ (if bits &&& 2 ≠ 0 then ['w'] else [])
        ++ (if bits &&& 1 ≠ 0 then ['x'] else [])
    Text.join [','] [part 'u' 6, part 'g' 3, part 'o' 0]
  match ts with
  | [] => do
    let digits := Nat.toDigits 8 s.mask
    print (if has os 'S' then symbolic s.mask
      else (if has os 'p' then "umask ".toList else []) ++ List.replicate (4 - digits.length) '0' ++ digits)
    return 0
  | t :: _ =>
    let isNumber := (t.head?.map Char.isDigit).getD false
    match if isNumber then (Unix.octalMode? t).map (· &&& 0o777)
        else (Unix.changeMode 0 false t (0o777 ^^^ s.mask)).map fun m => (0o777 ^^^ m) &&& 0o777 with
    | some mask => do
      set { s with mask := mask }
      return 0
    | none => match s.dialect with
      | .plain => abort ((if isNumber then "Illegal number: ".toList else "Illegal mode: ") ++ t)
      | .rich => do
        let rest := t.dropWhile "ugoa".toList.contains
        let isOperator (c : Char) : Bool := "+-=".toList.contains c
        let shown (u : Text) : Text := '`' :: (u.take 1).headD '\x00' :: "': invalid symbolic mode "
        protest (if isNumber then t ++ ": octal number out of range"
          else if rest.head?.any isOperator then
            shown ((rest.drop 1).dropWhile "rwxXst".toList.contains) ++ "character"
          else shown rest ++ "operator")
        return 1

/-- Show or change limits, of which there are none. -/
def ulimit : Routine := fun ts => do
  let s ← get
  let (os, ts) ← match s.dialect with
    | .plain => options "HSatfdscmlpnvwr" "" ts
    | .rich => options "SHabcdefiklmnpqrstuvxPRT" "" ts
  if ts = [] then do
    let limit : Text := if has os 'c' then ['0'] else if has os 's' then "8192" else if has os 'n' then "1024"
      else "unlimited"
    print limit
    return 0
  else match s.dialect, (ts.headD []).all Char.isDigit || [("unlimited" : Text), "hard", "soft"].contains (ts.headD []) with
    | _, true => return 0
    | .plain, false => abort "bad number"
    | .rich, false => do
      protest (ts.headD [] ++ ": invalid number")
      return 1

/-- Show the time that has been used, of which there is none. -/
def times : Routine := fun _ => do
  let line : Text := match (← get).dialect with
    | .plain => "0m0.000000s 0m0.000000s"
    | .rich => "0m0.000s 0m0.000s"
  print line
  print line
  return 0

end Rollout.Shell.Builtin
