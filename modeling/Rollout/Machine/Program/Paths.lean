import Rollout.Machine.Program.Input
import Rollout.Machine.Shell.Pattern

/-!
Programs about paths: taking them apart, and finding where they lead.
-/

namespace Rollout.Program

open Unix

/-- The path less the slashes at its end. -/
def withoutSlashes (path : Text) : Text := (path.reverse.dropWhile (· = '/')).reverse

/-- The last component of a path. -/
def baseName (path : Text) : Text :=
  if path = [] then []
  else match ((withoutSlashes path).reverse.takeWhile (· ≠ '/')).reverse with
    | [] => ['/']
    | name => name

/-- The path without its last component. -/
def dirName (path : Text) : Text :=
  let parent := ((withoutSlashes path).reverse.dropWhile (· ≠ '/')).reverse
  match withoutSlashes parent with
  | [] => if parent ≠ [] || (path ≠ [] && withoutSlashes path = []) then ['/'] else ['.']
  | shown => shown

/-- Something in a directory. -/
def below (directory name : Text) : Text :=
  if directory.getLast? = some '/' then directory ++ name else directory ++ '/' :: name

/-- The pattern of names that a text is. -/
def namePattern (t : Text) : Shell.Pattern := Shell.Pattern.ofMarked .rich false (t.map fun c => (c, false))

/-- The name without an ending, unless nothing would be left. -/
def withoutEnding (ending name : Text) : Text :=
  if ending ≠ [] && ending.isSuffixOf name && ending ≠ name then name.take (name.length - ending.length) else name

/-- Print last components of paths. -/
def basename : Routine := fun ts => do
  let a ← arguments [.plain 'a' "multiple", .valued 's' "suffix", .plain 'z' "zero"] false 1 ts
  let stop := if a.has "z" then '\x00' else '\n'
  match a.operands with
  | [] => misused 1 "missing operand"
  | path :: rest => do
    if a.has "a" || a.has "s" then
      say (a.operands.flatMap fun p => withoutEnding ((a.value? "s").getD []) (baseName p) ++ [stop])
    else match rest with
      | [] => say (baseName path ++ [stop])
      | [ending] => say (withoutEnding ending (baseName path) ++ [stop])
      | _ :: extra :: _ => misused 1 ("extra operand " ++ inQuotes extra)
    return 0

/-- Print paths without their last components. -/
def dirname : Routine := fun ts => do
  let a ← arguments [.plain 'z' "zero"] false 1 ts
  if a.operands = [] then misused 1 "missing operand"
  say (a.operands.flatMap fun p => dirName p ++ [if a.has "z" then '\x00' else '\n'])
  return 0

/-- Print the current directory. -/
def pwd : Routine := fun ts => do
  let a ← arguments [.plain 'L' "logical", .plain 'P' "physical"] true 1 ts
  if a.operands ≠ [] then grumble "ignoring non-option arguments"
  let p ← get
  let here := (p.env.get? "PWD").filter fun t =>
    let parts := Text.split '/' t
    t.head? = some '/' && !parts.contains ['.'] && !parts.contains ['.', '.']
      && (p.root.locate p.cwd t).toOption = some p.cwd
  sayLine (if a.last? ["L", "P"] = some ['L'] then here.getD (pathOf p.cwd) else pathOf p.cwd)
  return 0

/-- The place that a path leads to; its last component need not exist, or none of it if nothing has to. -/
def canonical (strict loose : Bool) (path : Text) : Act (Except Text (List Text)) := do
  let p ← get
  match p.root.locate p.cwd path with
  | .ok place => return .ok place
  | .error e =>
    if strict then return .error (describeFault e)
    else match p.root.placeFor p.cwd (if withoutSlashes path = [] then path else withoutSlashes path) with
      | .ok place => return .ok place
      | .error e =>
        if !loose then return .error (describeFault e)
        else
          let (absolute, names) := FileTree.components path
          let step (here : List Text) (name : Text) : List Text :=
            if name = [] || name = ['.'] then here
            else if name = ['.', '.'] then here.dropLast
            else match p.root.follow FileTree.maxLinks here.reverse [name] with
              | .ok next => next
              | .error _ => here ++ [name]
          return .ok (names.foldl step (if absolute then [] else p.cwd))

/-- The place that a path names when links are not followed. -/
def lexicalPlace (strict loose : Bool) (path : Text) : Act (Except Text (List Text)) := do
  let p ← get
  if path = [] then return .error (describeFault .missing)
  let (absolute, names) := FileTree.components path
  let step (here : List Text) (name : Text) : List Text :=
    if name = [] || name = ['.'] then here else if name = ['.', '.'] then here.dropLast else here ++ [name]
  let place := names.foldl step (if absolute then [] else p.cwd)
  if loose then return .ok place
  return match p.look (pathOf place) with
    | .ok _ => .ok place
    | .error e => if !strict && e = describeFault .missing then .ok place else .error e

/-- The way from one place to another. -/
def wayBetween : List Text → List Text → List Text
  | a :: as, b :: bs => if a = b then wayBetween as bs else (a :: as).map (fun _ => ['.', '.']) ++ b :: bs
  | as, bs => as.map (fun _ => ['.', '.']) ++ bs

/-- The path from one place to another. -/
def relativePath (start goal : List Text) : Text :=
  match wayBetween start goal with
  | [] => ['.']
  | names => Text.join ['/'] names

/-- Print where paths lead, perhaps as they are reached from a directory. -/
def realpath : Routine := fun ts => do
  let a ← arguments [.plain 'e' "canonicalize-existing", .plain 'm' "canonicalize-missing", .plain 'L' "logical",
    .plain 'P' "physical", .plain 'q' "quiet", .plain 's' "no-symlinks", .wordOnly "strip", .plain 'z' "zero",
    .valuedWord "relative-to", .valuedWord "relative-base"] true 1 ts
  if a.operands = [] then misused 1 "missing operand"
  let strict := a.last? ["e", "m"] = some ['e']
  let loose := a.last? ["e", "m"] = some ['m']
  let place (path : Text) : Act (Except Text (List Text)) := do
    match a.last? ["L", "P", "s", "strip"] with
    | none => canonical strict loose path
    | some ['P'] => canonical strict loose path
    | some k => match ← lexicalPlace strict loose path with
      | .error e => return .error e
      | .ok found => if k = ['L'] then canonical strict loose (pathOf found) else return .ok found
  let directory (path : Text) : Act (List Text) := do
    match ← place path with
    | .error e => giveUp 1 (nameOf path ++ ": " ++ e)
    | .ok found => do
      if strict && !(← get).isDir (pathOf found) then giveUp 1 (nameOf path ++ ": " ++ describeFault .notDirectory)
      return found
  let target ← ((a.value? "relative-to").or (a.value? "relative-base")).mapM directory
  let base ← (if (a.value? "relative-to").isNone then none else a.value? "relative-base").mapM directory
  let (target, base) := match target, base with
    | some t, some b => if b.isPrefixOf t then (some t, some b) else (none, some t)
    | some t, none => (some t, if a.has "relative-base" then some t else none)
    | none, b => (none, b)
  forEach (fun path => do
    match ← place path with
    | .ok found => do
      let shown := match target with
        | some t => if base.all (·.isPrefixOf found) then relativePath t found else pathOf found
        | none => pathOf found
      say (shown ++ [if a.has "z" then '\x00' else '\n'])
      return 0
    | .error e => do
      if !a.has "q" then grumble (nameOf path ++ ": " ++ e)
      return 1) a.operands

/-- Print the targets of links, or where paths lead. -/
def readlink : Routine := fun ts => do
  let a ← arguments [.plain 'e' "canonicalize-existing", .plain 'f' "canonicalize",
    .plain 'm' "canonicalize-missing", .plain 'n' "no-newline", .plain 'q' "quiet", .plain 's' "silent",
    .plain 'v' "verbose", .plain 'z' "zero"] true 1 ts
  if a.operands = [] then misused 1 "missing operand"
  let ending : Text := if a.has "n" && a.operands.length = 1 then [] else if a.has "z" then ['\x00'] else ['\n']
  forEach (fun path => do
    let found : Except Text Text ← match a.last? ["e", "f", "m"] with
      | some k => do pure ((← canonical (k = ['e']) (k = ['m']) path).map pathOf)
      | none => do
        pure (match (← get).entry path with
          | .ok (_, .link target _) => .ok target
          | .ok _ => .error "Invalid argument".toList
          | .error e => .error e)
    match found with
    | .ok t => do
      say (t ++ ending)
      return 0
    | .error e => do
      if a.has "v" then grumble (nameOf path ++ ": " ++ e)
      return 1) a.operands

/-- A name that is made up for a number, in place of the last letters of a template that stand for it. -/
def inventName (tail : Text) (n : Nat) : Text :=
  let count := (tail.reverse.takeWhile (· = 'X')).length
  let digits := Nat.toDigits 10 n
  let word := "kQzWvRbTnY".toList
  let letters := (List.replicate (count - digits.length) 'a') ++ digits.map fun d => word.getD (d.toNat - 48) 'x'
  tail.take (tail.length - count) ++ letters

/-- The part of a template that ends with the letters that stand for a name, and what follows them. -/
def splitTemplate (template : Text) (ending : Option Text) : Act (Text × Text) := do
  match ending with
  | none =>
    let tail := (template.reverse.dropWhile (· ≠ 'X')).reverse
    return if tail = [] then (template, []) else (tail, template.drop tail.length)
  | some ending =>
    if template.getLast? ≠ some 'X' then giveUp 1 ("with --suffix, template " ++ inQuotes template ++ " must end in X")
    return (template, ending)

/-- Make a file or a directory with a new name, and print its path. -/
def mktemp : Routine := fun ts => do
  let a ← arguments [.plain 'd' "directory", .plain 'u' "dry-run", .plain 'q' "quiet", .valued 'p' "",
    ⟨none, some "tmpdir".toList, .optional⟩, .plain 't' "", .valuedWord "suffix"] true 1 ts
  if 1 < a.operands.length then misused 1 "too many templates"
  let (tail, ending) ← splitTemplate (a.operands.head?.getD "tmp.XXXXXXXXXX") (a.value? "suffix")
  let template := tail ++ ending
  if ending.contains '/' then giveUp 1 ("invalid suffix " ++ inQuotes ending ++ ", contains directory separator")
  if ((tail.reverse.takeWhile (· = 'X')).length) < 3 then giveUp 1 ("too few X's in template " ++ inQuotes template)
  let p ← get
  let inDirectory := a.operands = [] || a.has "p" || a.has "tmpdir" || a.has "t"
  let asked := ((a.options.reverse.find? fun o => o.1 = ['p'] || o.1 = "tmpdir".toList).map (·.2)).filter (· ≠ [])
  let usual := (p.env.get? "TMPDIR").filter (· ≠ [])
  let directory := ((if a.has "t" then usual.or asked else asked.or usual)).getD "/tmp"
  if inDirectory then
    if a.has "t" && template.contains '/' then
      giveUp 1 ("invalid template, " ++ inQuotes template ++ ", contains directory separator")
    if template.head? = some '/' then
      giveUp 1 ("invalid template, " ++ inQuotes template ++ "; with --tmpdir, it may not be absolute")
  let used := match p.find? (if inDirectory then directory else ['.']) with
    | some (.dir es _) => es.length
    | _ => 0
  let name := inventName tail used ++ ending
  let path := if inDirectory then below directory name else name
  if !a.has "u" then
    match p.slot path with
    | .ok place =>
      if a.has "d" then change (·.create (.dir []) 0o700 place) else change (·.create (.file []) 0o600 place)
    | .error e =>
      if a.has "q" then throw (.exited 1)
      let what : Text := if a.has "d" then "failed to create directory via template "
        else "failed to create file via template "
      let shown := if inDirectory then below directory template else template
      giveUp 1 (what ++ inShellQuotes shown ++ ": " ++ e)
  sayLine path
  return 0

/-! ### Checking names -/

/-- What a name has to be like. -/
structure NameRules where
  /-- Must every system be able to hold it? -/
  everywhere : Bool
  /-- Must it be one, and no component of it look like an option? -/
  strict : Bool

namespace NameRules

/-- The components of a path. -/
def components (path : Text) : List Text := (Text.split '/' path).filter (· ≠ [])

/-- The message that something is too long. -/
def tooLong (limit length : Nat) (what shown : Text) : Text :=
  "limit " ++ Text.ofNat limit ++ " exceeded by length " ++ Text.ofNat length ++ " of file name " ++ what ++ shown

/-- Can every system hold the character in a name? -/
def isPortable (c : Char) : Bool := c.isAlphanum || "/._-".toList.contains c

/-- The first component that is longer than a name may be. -/
def longComponent? (limit : Nat) (path : Text) : Option Text :=
  ((components path).find? (limit < ·.length)).map fun c => tooLong limit c.length "component " (inQuotes c)

/-- What is wrong with a name, of which a process says where it leads. -/
def fault? (rules : NameRules) (p : Process) (path : Text) : Option Text :=
  if rules.strict && (components path).any (·.head? = some '-') then
    some ("leading '-' in a component of file name " ++ inShellQuotes path)
  else if (rules.everywhere || rules.strict) && path.isEmpty then some "empty file name"
  else if rules.everywhere then match path.find? (!isPortable ·) with
    | some c => some ("nonportable character " ++ inQuotes [c] ++ " in file name " ++ inShellQuotes path)
    | none =>
      if 256 ≤ path.length then some (tooLong 255 path.length [] (inShellQuotes path)) else longComponent? 14 path
  else match p.entry path with
    | .ok _ => none
    | .error e =>
      if e ≠ describeFault .missing || path.isEmpty then some (nameOf path ++ ": " ++ e)
      else longComponent? 255 path

end NameRules

/-- Check whether paths could be those of files. -/
def pathchk : Routine := fun ts => do
  let a ← arguments [.plain 'p' "", .plain 'P' "", .wordOnly "portability"] false 1 ts
  if a.operands = [] then misused 1 "missing operand"
  let every := a.has "portability"
  forEach (fun path => do
    match NameRules.fault? ⟨every || a.has "p", every || a.has "P"⟩ (← get) path with
    | some e => do
      grumble e
      return 1
    | none => return 0) a.operands

end Rollout.Program
