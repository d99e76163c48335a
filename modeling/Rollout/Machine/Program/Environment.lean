import Rollout.Machine.Program.Input
import Rollout.Machine.Unix.Executable
import Rollout.Machine.Unix.Signal

/-!
The program that runs another one in a changed environment. Its arguments may hold a text that is split into further
arguments.
-/

namespace Rollout.Program

open Unix

/-- The variable that an argument sets, if it sets one. -/
def setting? (t : Text) : Option (Text × Text) :=
  let name := t.takeWhile (· ≠ '=')
  if name.length < t.length then some (name, t.drop (name.length + 1)) else none

/-! ### Splitting -/

/-- Where splitting a text has come to. -/
structure Split where
  /-- The words, the latest first. -/
  words : List Text
  /-- The word that has begun, the latest character first. -/
  current : Option Text
  /-- The quote that is open. -/
  quote : Option Char

namespace Split

/-- Add characters to the word. -/
def add (s : Split) (t : Text) : Split := { s with current := some (t.reverse ++ s.current.getD []) }

/-- End the word. -/
def finish (s : Split) : Split :=
  { s with
    words := (s.current.map List.reverse).toList ++ s.words
    current := none }

/-- Open or close a quote. -/
def toggle (s : Split) (c : Char) : Split :=
  { s.add [] with quote := if s.quote = some c then none else some c }

/-- All words. -/
def all (s : Split) : Except Text (List Text) :=
  if s.quote.isSome then .error "no terminating quote in -S string" else .ok s.finish.words.reverse

/-- Is the character a blank of any kind? -/
def isSpace (c : Char) : Bool := c = ' ' || ('\t' ≤ c && c ≤ '\r')

/-- The variable in braces at the start of a text, and what follows it. -/
def braced? (t : Text) : Option (Text × Text) :=
  match t with
  | '\x7b' :: cs =>
    let name := cs.takeWhile fun c => c.isAlphanum || c = '_'
    match name, cs.drop name.length with
    | c :: _, '\x7d' :: rest => if c.isDigit then none else some (name, rest)
    | _, _ => none
  | _ => none

/-- The words of a text, in which variables have values. -/
def run (value : Text → Option Text) : Nat → Split → Text → Except Text (List Text)
  | 0, s, _ => s.all
  | _, s, [] => s.all
  | fuel + 1, s, c :: cs =>
    let double := s.quote = some '"'
    let single := s.quote = some '\''
    if c = '"' && !single || c = '\'' && !double then run value fuel (s.toggle c) cs
    else if isSpace c && s.quote.isNone then run value fuel s.finish (cs.dropWhile isSpace)
    else if c = '#' && s.current.isNone then s.all
    else if c = '$' && !single then match braced? cs with
      | none => .error ("only $\x7bVARNAME\x7d expansion is supported, error at: " ++ '$' :: cs)
      | some (name, rest) => match value name with
        | some v => run value fuel (s.add v) rest
        | none => run value fuel s rest
    else if c = '\\' && (!single || cs.head?.any fun d => d = '\\' || d = '\'') then match cs with
      | [] => .error "invalid backslash at end of string in -S"
      | d :: rest =>
        let put (e : Char) : Except Text (List Text) := run value fuel (s.add [e]) rest
        match d with
        | '_' => if double then put ' ' else run value fuel s.finish rest
        | 'c' => if double then .error "'\\c' must not appear in double-quoted -S string" else s.all
        | 'f' => put '\x0c'
        | 'n' => put '\n'
        | 'r' => put '\r'
        | 't' => put '\t'
        | 'v' => put '\x0b'
        | d => if "\"#$'\\".toList.contains d then put d else .error ("invalid sequence '\\" ++ d :: "' in -S".toList)
    else run value fuel (s.add [c]) cs

end Split

/-- The words of a text, in which variables have values. -/
def splitWords (value : Text → Option Text) (t : Text) : Except Text (List Text) :=
  Split.run value (t.length + 1) ⟨[], none, none⟩ t

/-- Options whose value is the next argument. -/
def takesNext (t : Text) : Bool := ["-u", "-C", "--unset", "--chdir"].any fun o => t = o.toList

/-- Where the first text to be split is among arguments: what comes before it, the text, and what comes after it. -/
def toSplit? : Nat → List Text → Option (List Text × Text × List Text)
  | 0, _ => none
  | _, [] => none
  | fuel + 1, t :: ts =>
    let later (taken : List Text) (rest : List Text) : Option (List Text × Text × List Text) :=
      (toSplit? fuel rest).map fun (before, text, after) => (taken ++ before, text, after)
    let word : Text := "--split-string"
    if takesNext t then match ts with
      | v :: rest => later [t, v] rest
      | [] => none
    else if t = word then ts.head?.map fun v => ([], v, ts.drop 1)
    else if (word ++ ['=']).isPrefixOf t then some ([], t.drop (word.length + 1), ts)
    else match t with
      | '-' :: '-' :: _ :: _ => later [t] ts
      | '-' :: c :: cs =>
        let flags := (c :: cs).takeWhile "i0v".toList.contains
        match (c :: cs).drop flags.length with
        | 'S' :: text =>
          let before := if flags.isEmpty then [] else ['-' :: flags]
          if text.isEmpty then ts.head?.map fun v => (before, v, ts.drop 1) else some (before, text, ts)
        | [] => later [t] ts
        | 'u' :: _ => later [t] ts
        | 'C' :: _ => later [t] ts
        | _ => none
      | _ => none

/-- The arguments after texts in them have been split. -/
def splitAll (value : Text → Option Text) (announce : List Text → Text → List Text → Act Unit) :
    Nat → List Text → Act (List Text)
  | 0, ts => return ts
  | fuel + 1, ts => match toSplit? (ts.length + 1) ts with
    | none => return ts
    | some (before, text, after) => match splitWords value text with
      | .error e => giveUp 125 e
      | .ok words => do
        announce before text words
        splitAll value announce fuel (before ++ words ++ after)

/-! ### Running -/

/-- The options of `env`. -/
def envFlags : List Flag :=
  [.plain 'i' "ignore-environment", .plain '0' "null", .valued 'u' "unset", .valued 'C' "chdir", .plain 'v' "debug",
    .valued 'S' "split-string", ⟨none, some "block-signal".toList, .optional⟩,
    ⟨none, some "default-signal".toList, .optional⟩, ⟨none, some "ignore-signal".toList, .optional⟩,
    .wordOnly "list-signal-handling"]

/-- The signal that a text names. -/
def signalOf? (t : Text) : Option Nat :=
  let upper := t.map Char.toUpper
  (Text.toNat? t).or (Signal.ofName? (if "SIG".toList.isPrefixOf upper then upper.drop 3 else upper))

/-- How signals are handled after options were given, in order. -/
def handling (options : List (Text × Text)) : Act (List (Nat × String)) := do
  let changes ← options.filterMapM fun (key, v) => do
    let kind? := [("block-signal", "BLOCK"), ("ignore-signal", "IGNORE"), ("default-signal", "")].lookup (String.ofList key)
    match kind? with
    | none => return none
    | some kind =>
      let names := if v.isEmpty then [] else Text.split ',' v
      let signals ← names.mapM fun name => match signalOf? name with
        | some n => return (n, kind)
        | none => misused 125 (inQuotes name ++ ": invalid signal")
      return some signals
  let all := changes.flatten
  let numbers := ((all.map (·.1)).mergeSort).eraseDups
  return numbers.filterMap fun n => match (all.reverse.lookup n).getD "" with
    | "" => none
    | kind => some (n, kind)

/-- End because of arguments that make no sense; a blank in them is the fault of what made them. -/
def refuseEnv {α : Type} (e : Text) : Act α := do
  grumble e
  if "invalid option -- ' '".toList.isPrefixOf e then grumble "use -[v]S to pass options in shebang lines"
  seeHelp 125

/-- Run a program in an environment that the arguments change, or print the environment. -/
def env (run : Runner) : Routine := fun ts => do
  let p ← get
  let showSplit (before : List Text) (text : Text) (words : List Text) : Act Unit := do
    if before.any fun t => t = "--debug".toList || (t.head? = some '-' && t.contains 'v') then
      complain ("split -S:  " ++ inQuotes text)
      words.zipIdx.forM fun (w, i) => complain ((if i = 0 then " into:    " else "     &    ").toList ++ inQuotes w)
  let ts ← splitAll (fun name => p.env.get? name) showSplit 100 ts
  let a ← match ← givenArguments envFlags false ts with
    | .ok a => pure a
    | .error e => refuseEnv e
  let signals ← handling a.options
  let note (what : String) (t : Text) : Act Unit := if a.has "v" then complain (what.toList ++ t) else pure ()
  let isBare := a.operands.head? = some ['-']
  let operands := if isBare then a.operands.drop 1 else a.operands
  let empties := isBare || a.has "i"
  if empties then note "cleaning environ" []
  else
    (a.values "u").forM fun name => do
      note "unset:    " name
      if name.isEmpty || name.contains '=' then giveUp 125 ("cannot unset " ++ inQuotes name ++ ": Invalid argument")
  let base := if empties then .empty else p.env
  let kept := base.filter fun name _ => !(a.values "u").contains name
  let given := operands.takeWhile fun t => (setting? t).isSome
  given.forM (note "setenv:   ")
  let changed := kept.insertAll (given.filterMap setting?)
  let command := operands.drop given.length
  if a.has "0" && command ≠ [] then misused 125 "cannot specify --null (-0) with command"
  if a.has "C" && command = [] then misused 125 "must specify command with --chdir (-C)"
  set { (← get) with env := changed }
  match command with
  | [] => do
    let ending : Text := if a.has "0" then ['\x00'] else ['\n']
    say (changed.entries.flatMap fun e => e.1 ++ '=' :: e.2 ++ ending)
    return 0
  | name :: rest => do
    if a.has "list-signal-handling" then
      signals.forM fun (n, kind) =>
        complain (padRight 10 (Signal.name n) ++ " (" ++ padLeft 2 (Text.ofNat n) ++ "): " ++ kind.toList)
    let ignored := (signals.filter fun s => s.2 = "IGNORE").map (·.1)
    modify fun p => { p with ignored := p.ignored ++ ignored }
    match a.value? "C" with
    | some d => do
      note "chdir:    " (inShellQuotes d)
      match p.root.locate p.cwd d with
      | .ok place => modify fun p => { p with cwd := place }
      | .error e => giveUp 125 ("cannot change directory to " ++ inQuotes d ++ ": " ++ describeFault e)
    | none => pure ()
    if a.has "v" then
      complain ("executing: " ++ name)
      (name :: rest).zipIdx.forM fun (t, i) => complain ("   arg[" ++ Text.ofNat i ++ "]= " ++ inQuotes t)
    let hint (reason : Text) : Text :=
      if reason = describeFault .missing && name.any Split.isSpace then
        "\nenv: use -[v]S to pass options in shebang lines"
      else []
    become run (fun reason => inQuotes name ++ ": " ++ reason ++ hint reason) name rest

end Rollout.Program
