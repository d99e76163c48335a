import Rollout.Machine.Program.Making

/-!
Programs that remove files and directories, perhaps after asking.
-/

namespace Rollout.Program

open Unix

/-- What kind of thing something is. -/
def kindName : FileTree → Text
  | .file data _ => if data = [] then "regular empty file" else "regular file"
  | .dir .. => "directory"
  | .link .. => "symbolic link"
  | .device .pipe _ => "fifo"
  | .device .. => "character special file"

/-- How files are removed. -/
structure Removal where
  /-- Is everything below directories removed? -/
  recursive : Bool
  /-- Are empty directories removed? -/
  emptyDirs : Bool
  /-- Is it no mistake if there is nothing to remove? -/
  forced : Bool
  /-- Is there a question before each removal? -/
  asks : Bool
  /-- Is each removal shown? -/
  verbose : Bool

/-- Remove something; the depth bounds directories inside of each other. Gives the status, and whether a directory that
holds it has to stay. -/
def Removal.run (r : Removal) : Nat → Text → Act (Nat × Bool)
  | 0, _ => return (1, true)
  | depth + 1, path => do
    let refuse (why : Text) : Act (Nat × Bool) := do
      grumble ("cannot remove " ++ inShellQuotes path ++ ": " ++ why)
      return (1, true)
    let remove (place : List Text) (t : FileTree) : Act (Nat × Bool) := do
      if r.asks then
        if !(← agrees ("remove " ++ kindName t ++ " " ++ inShellQuotes path)) then return (0, t.isDir)
      match (← get).root.at? place with
      | some (.dir (_ :: _) _) => refuse "Directory not empty"
      | _ => do
        eraseFile place
        if r.verbose then
          sayLine ((if t.isDir then "removed directory " else "removed ") ++ inShellQuotes path)
        return (0, false)
    match (← get).entry path with
    | .error e =>
      if r.forced && (e = describeFault .missing || e = describeFault .notDirectory) then return (0, false) else refuse e
    | .ok (place, t) => match t with
      | .dir es _ =>
        if es = [] then
          if r.recursive || r.emptyDirs then remove place t else refuse "Is a directory"
        else if r.recursive then do
          if r.asks then
            if !(← agrees ("descend into directory " ++ inShellQuotes path)) then return (0, true)
          let results ← es.mapM fun e => r.run depth (below path e.1)
          let status := results.foldl (fun n x => max n x.1) 0
          if results.any (·.2) then return (status, true)
          let (own, stays) ← remove place t
          return (max status own, stays)
        else if r.emptyDirs then refuse "Directory not empty"
        else refuse "Is a directory"
      | t => remove place t

/-- The most directories inside of each other that are removed. -/
def removalDepth : Nat := 1000

/-- The options of `rm` that say when to ask. -/
def askingFlags : List Flag := [.plain 'f' "force", .plain 'i' "", .plain 'I' "",
  ⟨none, some "interactive".toList, .optional⟩]

/-- The answers to when to ask. -/
inductive Asking
  | never | once | always
  deriving DecidableEq

/-- When to ask, as the options say. -/
def askingOf (a : Arguments) : Act Asking := do
  match a.options.reverse.find? fun o => ["f", "i", "I", "interactive"].any (·.toList = o.1) with
  | none => return .never
  | some (['f'], _) => return .never
  | some (['i'], _) => return .always
  | some (['I'], _) => return .once
  | some (_, when') => match String.ofList when' with
    | "" => return .always
    | "never" => return .never
    | "no" => return .never
    | "none" => return .never
    | "once" => return .once
    | "always" => return .always
    | "yes" => return .always
    | _ => refuseChoice 1 "invalid" when' "--interactive" [["never", "no", "none"], ["once"], ["always", "yes"]]

/-- Remove files, and directories if wanted. -/
def rm : Routine := fun ts => do
  let a ← arguments (([.plain 'd' "dir", .plain 'r' "recursive", .plain 'R' "", .plain 'v' "verbose",
    .wordOnly "one-file-system", .wordOnly "no-preserve-root", ⟨none, some "preserve-root".toList, .optional⟩] : List Flag)
    ++ askingFlags) true 1 ts
  let asking ← askingOf a
  let forced := a.last? ["f", "i", "I", "interactive"] = some ['f']
  if a.operands = [] then if forced then return 0 else misused 1 "missing operand"
  let recursive := a.has "r" || a.has "R"
  let count := a.operands.length
  if asking = .once && (3 < count || recursive) then
    let shown := Text.ofNat count ++ (if count = 1 then " argument" else " arguments")
      ++ (if recursive then " recursively".toList else [])
    if !(← agrees ("remove " ++ shown)) then return 0
  let removal : Removal := ⟨recursive, a.has "d", forced, asking = .always, a.has "v"⟩
  forEach (fun path => do
    let name := baseName path
    if (name = ['.'] || name = ['.', '.']) && recursive then
      grumble ("refusing to remove '.' or '..' directory: skipping " ++ inShellQuotes path)
      return 1
    else if recursive && path ≠ [] && withoutSlashes path = [] && !a.has "no-preserve-root" then do
      grumble ("it is dangerous to operate recursively on " ++ inShellQuotes path
        ++ if path = ['/'] then [] else " (same as '/')".toList)
      grumble "use --no-preserve-root to override this failsafe"
      return 1
    else return (← removal.run removalDepth path).1) a.operands

/-- Remove one file. -/
def unlink : Routine := fun ts => do
  let a ← arguments [] true 1 ts
  match a.operands with
  | [] => misused 1 "missing operand"
  | _ :: extra :: _ => misused 1 ("extra operand " ++ inQuotes extra)
  | [path] =>
    let refuse (e : Text) : Act Nat := giveUp 1 ("cannot unlink " ++ inShellQuotes path ++ ": " ++ e)
    match (← get).entry path with
    | .error e => refuse e
    | .ok (_, .dir ..) => refuse "Is a directory"
    | .ok (place, _) => do
      eraseFile place
      return 0

/-- Remove empty directories. -/
def rmdir : Routine := fun ts => do
  let a ← arguments [.plain 'p' "parents", .plain 'v' "verbose", .wordOnly "ignore-fail-on-non-empty"] true 1 ts
  if a.operands = [] then misused 1 "missing operand"
  let remove (parent : Bool) (path : Text) : Act Nat := do
    if a.has "v" then sayLine (.append (← get).name (": removing directory, " ++ inShellQuotes path))
    let refuse (e : Text) : Act Nat := do
      grumble ((if parent then "failed to remove directory " else "failed to remove ") ++ inShellQuotes path ++ ": " ++ e)
      return 1
    if baseName path = ['.'] then refuse "Invalid argument"
    else match (← get).entry path with
      | .error e => refuse e
      | .ok (place, .dir es _) =>
        if es = [] then do
          eraseFile place
          return 0
        else if a.has "ignore-fail-on-non-empty" then return 0
        else refuse "Directory not empty"
      | .ok _ => refuse "Not a directory"
  let rec upward (first : Bool) : List Text → Act Nat
    | [] => return 0
    | path :: rest => do
      let status ← remove (!first) path
      if status = 0 then upward false rest else return status
  forEach (fun path => if a.has "p" then upward true (pathsTo path).reverse else remove false path) a.operands

end Rollout.Program
