import Rollout.Machine.Number.Rounded
import Rollout.Machine.Program.Input
import Rollout.Machine.Unix.Executable

/-!
The program that runs another one with arguments that it reads: with as many as fit, with so many at a time, or once
for each line, which takes the place of a mark.
-/

namespace Rollout.Program

open Unix

/-! ### Reading -/

/-- An argument that was read: whether it is the last one on its line, and its text. -/
structure Item where
  /-- The text. -/
  text : Text
  /-- Does its line end after it? -/
  ends : Bool

/-- What was read, and the quote that was not closed. -/
abbrev Items := List Item × Option Char

/-- What was read, with something before it. -/
def Items.after (before : List Item) (is : Items) : Items := (before ++ is.1, is.2)

/-- The arguments in a text: between blanks or only between lines, where quotes and backslashes take meanings away. -/
def itemsOf (lines : Bool) : Option Text → Option Char → Text → Items
  | current, none, [] => ((current.map fun t => Item.mk t.reverse true).toList, none)
  | _, some q, [] => ([], some q)
  | current, some q, c :: cs =>
    if c = '\n' then ([], some q)
    else if c = q then itemsOf lines current none cs
    else itemsOf lines (some (c :: current.getD [])) (some q) cs
  | current, none, '\\' :: c :: cs => itemsOf lines (some (c :: current.getD [])) none cs
  | current, none, c :: cs =>
    let ended (ends : Bool) : Items :=
      (itemsOf lines none none cs).after (current.map fun t => Item.mk t.reverse ends).toList
    if c = '\'' || c = '"' then itemsOf lines (some (current.getD [])) (some c) cs
    else if c = '\n' then ended true
    else if c = ' ' || c = '\t' then
      if lines && current.isSome then itemsOf lines (some (c :: current.getD [])) none cs
      else ended false
    else itemsOf lines (some (c :: current.getD [])) none cs

/-- A text in which lines that end with a blank go on. -/
def joinedLines (t : Text) : Text :=
  match t with
  | [] => []
  | c :: cs =>
    let rest := joinedLines cs
    if (c = ' ' || c = '\t') && rest.head? = some '\n' then c :: ' ' :: rest.drop 1 else c :: rest

/-- The text with another one in place of each occurrence of a third one, skipping so many characters. -/
def substituted (what other : Text) : Nat → Text → Text
  | _, [] => []
  | skip + 1, _ :: cs => substituted what other skip cs
  | 0, c :: cs =>
    if what ≠ [] && what.isPrefixOf (c :: cs) then other ++ substituted what other (what.length - 1) cs
    else c :: substituted what other 0 cs

/-- The character that a number behind a backslash stands for. -/
def numberedCharacter (written : Text) (base : Nat) (isDigit : Char → Bool) (most : Text) (t : Text) :
    Except Text Char :=
  let wrong : Text := "Invalid escape sequence " ++ written ++ " in input delimiter specification; "
  let ds := t.takeWhile isDigit
  let n := ds.foldl (fun n c => base * n + Rounded.hexValue c) 0
  let rest := t.drop ds.length
  if 255 < n then .error (wrong ++ "character values must not exceed " ++ most ++ ['.'])
  else if rest ≠ [] then .error (wrong ++ "trailing characters " ++ rest ++ " not recognised.")
  else .ok (Char.ofNat n)

/-- The character that a text stands for. -/
def delimiterOf (t : Text) : Except Text Char :=
  match t with
  | [c] => .ok c
  | ['\\', '\\'] => .ok '\\'
  | '\\' :: 'x' :: cs => numberedCharacter t 16 Rounded.isHex "ff" cs
  | '\\' :: c :: cs =>
    let plain := [('a', '\x07'), ('b', '\x08'), ('f', '\x0c'), ('n', '\n'), ('r', '\r'), ('t', '\t'), ('v', '\x0b')]
    match if cs.isEmpty then plain.lookup c else none with
    | some d => .ok d
    | none =>
      if c.isDigit then numberedCharacter t 8 (fun c => '0' ≤ c && c ≤ '7') "377" (c :: cs)
      else .error ("Invalid escape sequence " ++ t ++ " in input delimiter specification.")
  | t => .error ("Invalid input delimiter specification " ++ t
      ++ ": the delimiter must be either a single character or an escape sequence starting with \\.")

/-! ### Options -/

/-- The options of `xargs`. -/
def xargsFlags : List Flag :=
  [.plain '0' "null", .valued 'd' "delimiter", .valued 'n' "max-args", .valued 'L' "", .valued 'I' "",
    ⟨some 'i', some "replace".toList, .optional⟩, ⟨some 'l', some "max-lines".toList, .optional⟩,
    ⟨some 'e', some "eof".toList, .optional⟩, .plain 'r' "no-run-if-empty", .plain 't' "verbose",
    .valued 'P' "max-procs", .valued 's' "max-chars", .valued 'a' "arg-file", .plain 'x' "exit", .valued 'E' "",
    .plain 'p' "interactive", .plain 'o' "open-tty", .wordOnly "show-limits", .valuedWord "process-slot-var"]

/-- How arguments are given to the program. -/
structure Plan where
  /-- How many are given at a time. -/
  items : Option Nat
  /-- Those of how many lines are given at a time. -/
  lines : Option Nat
  /-- The mark that each takes the place of. -/
  mark : Option Text

/-- The integer that an option must have, not below a least one. -/
def limitOf (letter : Text) (least : Nat) (t : Text) : Act Nat := do
  let (sign, digits) : Text × Text := match t with
    | '-' :: ds => (['-'], ds)
    | ds => ([], ds)
  match Text.toNat? digits with
  | some n =>
    if sign.isEmpty && least ≤ n then return n
    else do
      grumble ("value " ++ t ++ " for -" ++ letter ++ " option should be >= " ++ Text.ofNat least)
      seeHelp 1
  | none => do
    grumble ("invalid number \"" ++ t ++ "\" for -" ++ letter ++ " option")
    seeHelp 1

/-- Say that an option makes another one count no more. -/
def warnExclusive (new old : String) : Act Unit :=
  grumble ("warning: options " ++ old.toList ++ " and " ++ new.toList
    ++ " are mutually exclusive, ignoring previous " ++ old.toList ++ " value")

/-- The plan after one more option. -/
def Plan.after (k : Plan) (o : Text × Text) : Act Plan := do
  let byLines (name : String) (n : Nat) : Act Plan := do
    if k.items.isSome then warnExclusive name "--max-args"
    if k.mark.isSome then warnExclusive name "--replace"
    return ⟨none, some n, none⟩
  let byMark (mark : Text) : Act Plan := do
    if k.items.isSome then warnExclusive "--replace/-I/-i" "--max-args"
    if k.lines.isSome then warnExclusive "--replace/-I/-i" "--max-lines"
    return ⟨none, none, some mark⟩
  match String.ofList o.1 with
  | "n" => do
    let n ← limitOf ['n'] 1 o.2
    if k.lines.isSome then warnExclusive "--max-args/-n" "--max-lines"
    if n = 1 && k.mark.isSome then return k
    if k.mark.isSome then warnExclusive "--max-args/-n" "--replace"
    return ⟨some n, none, none⟩
  | "L" => do byLines "-L" (← limitOf ['L'] 1 o.2)
  | "l" => do byLines "--max-lines/-l" (← if o.2.isEmpty then pure 1 else limitOf ['l'] 1 o.2)
  | "I" => byMark o.2
  | "i" => byMark (if o.2.isEmpty then "\x7b\x7d" else o.2)
  | _ => return k

/-! ### Groups -/

/-- How long a command may be that is run, if nothing else is said. -/
def maxCommand : Nat := 131072

/-- The least length that all systems let a command have. -/
def leastCommand : Nat := 4096

/-- How many programs may be run at the same time. -/
def maxParallel : Nat := 2147483647

/-- How many bytes the environment takes. -/
def environmentSize (p : Process) : Nat := (p.env.entries.map fun e => e.1.length + e.2.length + 2).foldl (· + ·) 0

/-- How long a command may be that is run in an environment. -/
def commandLimit (p : Process) : Nat := 2097152 - 2048 - environmentSize p

/-- Say how long commands may be. -/
def showLimits (size : Nat) : Act Unit := do
  let p ← get
  [("Your environment variables take up ", environmentSize p, " bytes"),
    ("POSIX upper limit on argument length (this system): ", commandLimit p, ""),
    ("POSIX smallest allowable upper limit on argument length (all systems): ", leastCommand, ""),
    ("Maximum length of command we could actually use: ", commandLimit p - environmentSize p, ""),
    ("Size of command buffer we are actually using: ", size, ""),
    ("Maximum parallelism (--max-procs must be no greater): ", maxParallel, "")].forM
    fun (before, n, after) => complain (before.toList ++ Text.ofNat n ++ after.toList)

/-- The groups in which arguments are given, where each group may have so many characters, and what is wrong with the
arguments after them. -/
def groupsOf (k : Plan) (strict : Bool) (room : Nat) :
    List Text → Nat → Nat → List Item → List (List Text) × Option Text
  | current, _, _, [] => (if current.isEmpty then [] else [current.reverse], none)
  | current, size, lines, i :: is =>
    let cost := i.text.length + 1
    let pending := if current.isEmpty then [] else [current.reverse]
    let closed (t : Text) : List (List Text) × Option Text :=
      let (gs, e) := groupsOf k strict room [] 0 0 is
      ((t :: current).reverse :: gs, e)
    if room ≤ cost && room < maxCommand || maxCommand ≤ cost then (pending, some "argument line too long")
    else if room < size + cost then
      if strict && (k.items.isSome || k.lines.isSome) then ([], some "argument list too long")
      else
        let full := k.items = some 1 || (k.lines = some 1 && i.ends)
        let (gs, e) := if full then
            let (gs, e) := groupsOf k strict room [] 0 0 is
            ([i.text] :: gs, e)
          else groupsOf k strict room [i.text] cost (if i.ends then 1 else 0) is
        (pending ++ gs, e)
    else if k.items = some (current.length + 1) then closed i.text
    else if i.ends && k.lines = some (lines + 1) then closed i.text
    else groupsOf k strict room (i.text :: current) (size + cost) (if i.ends then lines + 1 else lines) is

/-! ### Running -/

/-- Run a program for each group of arguments; gives the worst status, or the one that ends all, and whether it does. -/
def runEach (run : Runner) (shown asks : Bool) (command : List Text → List Text) :
    Nat → List (List Text) → Act (Nat × Bool)
  | worst, [] => return (worst, false)
  | worst, group :: groups => do
    match (command group).map (·.takeWhile (· ≠ '\x00')) with
    | [] => return (worst, false)
    | name :: rest => do
      flush
      let line := Text.join [' '] ((name :: rest).map nameOf)
      if asks then
        write 2 line
        giveUp 1 "failed to open /dev/tty for reading: No such device or address"
      if shown then complain line
      match ← start run name rest with
      | .refused status reason => do
        grumble (name ++ ": " ++ reason)
        return (status, true)
      | .killed n => do
        grumble (name ++ ": terminated by signal " ++ Text.ofNat n)
        return (125, true)
      | .ended 0 => runEach run shown asks command worst groups
      | .ended 255 => do
        grumble (name ++ ": exited with status 255; aborting")
        return (124, true)
      | .ended _ => runEach run shown asks command 123 groups

/-- What is said of a quote that is not closed. -/
def unclosed (q : Char) : Text :=
  let kind : Text := if q = '"' then "double" else "single"
  "unmatched " ++ kind ++ " quote; by default quotes are special to xargs unless you use the -0 option"

/-- What is said of a null character. -/
def nullWarning : Text :=
  "WARNING: a NUL character occurred in the input.  It cannot be passed through in the argument list.  "
    ++ "Did you mean to use the --null option?"

/-- Run a program with the arguments that are read. -/
def xargs (run : Runner) : Routine := fun ts => do
  let a ← arguments xargsFlags false 1 ts
  let plan ← a.options.foldlM Plan.after ⟨none, none, none⟩
  let stop ← match a.last? ["0", "d"] with
    | none => pure none
    | some ['0'] => pure (some '\x00')
    | some _ => match delimiterOf ((a.value? "d").getD []) with
      | .ok c => pure (some c)
      | .error e => giveUp 1 e
  let size ← match a.value? "s" with
    | none => pure maxCommand
    | some t => do
      let n ← limitOf ['s'] 1 t
      let most := commandLimit (← get)
      if most < n then
        grumble ("value " ++ t ++ " for -s option should be <= " ++ Text.ofNat most)
      pure (min n most)
  (a.values "P").forM fun t => do
    let _ ← limitOf ['P'] 0 t
  let ending := ((a.options.reverse.find? fun o => o.1 = ['E'] || o.1 = ['e']).map (·.2)).filter (· ≠ [])
  if ending.isSome && stop.isSome then grumble "warning: the -E option has no effect if -0 or -d is used.\n"
  let input ← match a.value? "a" with
    | none => readAll
    | some path => match ← readPath path with
      | .ok t => pure t
      | .error e => giveUp 1 ("Cannot open input file " ++ inQuotes path ++ ": " ++ e)
  if a.has "show-limits" then showLimits size
  modify fun p => { p with descriptors := (0, .device .null) :: p.descriptors.filter (·.1 ≠ 0) }
  let command := if a.operands = [] then ["echo".toList] else a.operands
  if stop.isNone && input.contains '\x00' then grumble nullWarning
  let (items, quote) : Items := match stop with
    | some c => ((piecesEndingWith c input).map fun t => Item.mk (withoutEnd c t) true, none)
    | none => itemsOf plan.mark.isSome none none (if plan.lines.isSome then joinedLines input else input)
  let items := match ending, stop with
    | some t, none => items.takeWhile fun i => i.text ≠ t
    | _, _ => items
  let finish (groups : List (List Text)) (fault : Option Text) (f : List Text → List Text) : Act Nat := do
    let (status, ended) ← runEach run (a.has "t") (a.has "p") f 0 groups
    match fault.or (quote.map unclosed) with
    | some e => if ended then return status else giveUp 1 e
    | none => return status
  match plan.mark with
  | some mark =>
    if mark.isEmpty && !items.isEmpty then giveUp 1 "command too long"
    let fill (group : List Text) : List Text := command.map (substituted mark (group.headD []) 0)
    finish (items.map fun i => [i.text]) none fill
  | none =>
    let base := (command.map fun t => t.length + 1).foldl (· + ·) 0
    let (groups, fault) := groupsOf plan (a.has "x") (size - base) [] 0 0 items
    let groups := if groups.isEmpty && !a.has "r" && fault.isNone && quote.isNone then [[]] else groups
    finish groups fault (command ++ ·)

end Rollout.Program
