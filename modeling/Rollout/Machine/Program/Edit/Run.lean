import Rollout.Machine.Program.Edit.Script
import Rollout.Machine.Program.Input

/-!
Editing with a script: line after line is taken into the pattern space, the steps of the script are done for it, and
what is then in the pattern space is written.
-/

namespace Rollout.Program.Edit

open Unix

/-! ### The state -/

/-- Where an active range ends. -/
inductive RangeStop
  /-- At a line with this number. -/
  | upTo (n : Nat)
  /-- At a line that an address selects. -/
  | upon (a : Address)

/-- What is written when the next line is taken. -/
inductive Later
  /-- A text. -/
  | text (t : Text)
  /-- What is in a file. -/
  | file (path : Text)

/-- A file to which steps write. -/
structure Writer where
  /-- Its path. -/
  path : Text
  /-- What leads to it. -/
  target : Descriptor
  /-- Does the end of its last line lack? -/
  lacking : Bool

/-- How a script is used. -/
structure Manner where
  /-- Is nothing written that is not asked for? -/
  quiet : Bool
  /-- Does each file have a first and a last line of its own? -/
  separate : Bool
  /-- Do the results replace the files? With the ending of the names under which the files are kept. -/
  inPlace : Option Text
  /-- The character that ends lines. -/
  stop : Char
  /-- How long the lines are in which characters are listed. -/
  width : Nat

/-- What is known while a script is used. -/
structure Editor where
  /-- The files that are not open yet. -/
  ahead : List Text
  /-- The lines that are left of the open file. -/
  lines : List Text
  /-- The path of the open file. -/
  name : Text
  /-- The number of the line. -/
  number : Nat
  /-- The pattern space. -/
  space : Text
  /-- Did the line have an end? -/
  ended : Bool
  /-- The hold space. -/
  held : Text
  /-- What is written when the next line is taken, the last first. -/
  queue : List Later
  /-- The steps whose ranges are active. -/
  active : List (Nat × RangeStop)
  /-- Has there been a replacement since a line was taken or a jump depended on it? -/
  changed : Bool
  /-- The expression that was used last. -/
  last : Option Regex.Compiled
  /-- Does the end of the last line of the output lack? -/
  lacking : Bool
  /-- The result that replaces the open file, the last part first, with the place of the file. -/
  result : Option (List Text × List Text)
  /-- The files to which steps write. -/
  writers : List Writer
  /-- The lines that are left of files that are read line by line. -/
  sources : List (Text × List Text)
  /-- The status in the end. -/
  status : Nat

/-- A part of editing. -/
abbrev EditM := StateT Editor Act

/-! ### Output -/

/-- Write a text. -/
def put (t : Text) : EditM Unit := do
  match (← get).result with
  | some (ts, place) => modify fun e => { e with result := some (t :: ts, place) }
  | none => say t

/-- Write the end of the line that lacks it. -/
def settle (m : Manner) : EditM Unit := do
  if (← get).lacking then
    modify fun e => { e with lacking := false }
    put [m.stop]

/-- Write a line, or one whose end lacks. -/
def emit (m : Manner) (t : Text) (ended : Bool) : EditM Unit := do
  settle m
  put t
  if ended then put [m.stop] else modify fun e => { e with lacking := true }

/-- Write what was put off. -/
def writeQueue (m : Manner) : EditM Unit := do
  let queue := (← get).queue.reverse
  modify fun e => { e with queue := [] }
  for item in queue do
    match item with
    | .text t => do
      settle m
      put t
    | .file path =>
      let content ← if path = "/dev/stdin".toList then contentOf ['-'] else contentOf path
      match content with
      | .ok t => do
        settle m
        put t
      | .error _ => pure ()

/-- Write a line to a file. -/
def emitTo (m : Manner) (path t : Text) (ended : Bool) : EditM Unit := do
  let e ← get
  let line := t ++ (if ended then [m.stop] else [])
  if path = "/dev/stdout".toList then
    if e.result.isSome then say line else emit m t ended
  else if path = "/dev/stderr".toList then write 2 line
  else match e.writers.find? (·.path = path) with
    | none => return
    | some w => do
      let _ ← writeTo ((if w.lacking then [m.stop] else []) ++ line) w.target
      let writers := e.writers.map fun v => if v.path = path then { v with lacking := !ended } else v
      set { e with writers := writers }

/-! ### Input -/

/-- Put the result in the place of the open file. -/
def finishFile (m : Manner) : EditM Unit := do
  let e ← get
  match e.result, m.inPlace with
  | some (ts, place), some ending => do
    let p ← getThe Process
    match p.root.at? place with
    | some (.file data about) => do
      if ending ≠ [] then
        let own := place.getLast?.getD []
        let kept := if ending.contains '*' then ending.flatMap fun c => if c = '*' then own else [c] else own ++ ending
        let place := if kept.contains '/' then (p.slot kept).toOption.getD place else place.dropLast ++ [kept]
        change (·.put (.file data about) place)
      change (·.create (.file (Octets.toBytes ts.reverse.flatten)) about.mode place)
    | _ => pure ()
    set { e with result := none, lacking := false }
  | _, _ => pure ()

/-- Tell that a file cannot be used. -/
def skipFile (status : Nat) (message : Text) : EditM Unit := do
  grumble message
  modify fun e => { e with status := max e.status status }

/-- Open a file. -/
def openFile (m : Manner) (path : Text) : EditM Unit := do
  let p ← getThe Process
  let reset (lines : List Text) : EditM Unit := modify fun e =>
    { e with lines := lines, name := path, number := if m.separate then 0 else e.number }
  if m.inPlace.isSome then
    match p.entry path with
    | .error reason => skipFile 2 ("can't read " ++ path ++ ": " ++ reason)
    | .ok (place, t) => match p.look path with
      | .ok (.file data about) => do
        let isLink := match t with
          | .link .. => true
          | _ => false
        if isLink then change (·.create (.file data) about.mode place)
        reset (piecesEndingWith m.stop (Octets.ofBytes data))
        modify fun e => { e with result := some ([], place) }
      | .ok _ => skipFile 4 ("couldn't edit " ++ path ++ ": not a regular file")
      | .error reason => skipFile 2 ("can't read " ++ path ++ ": " ++ reason)
  else match ← contentOf path with
    | .ok t => reset (piecesEndingWith m.stop t)
    | .error reason =>
      if reason = "Is a directory".toList then giveUp 4 ("read error on " ++ path ++ ": " ++ reason)
      else skipFile 2 ("can't read " ++ path ++ ": " ++ reason)

/-- Take the next line, if there is one. -/
def advance (m : Manner) : Nat → EditM Bool
  | 0 => return false
  | fuel + 1 => do
    let e ← get
    match e.lines with
    | l :: ls => do
      set { e with
        lines := ls
        number := e.number + 1
        space := withoutEnd m.stop l
        ended := l.getLast? = some m.stop
        changed := false }
      return true
    | [] => do
      finishFile m
      match e.ahead with
      | [] => return false
      | path :: ahead => do
        modify fun e => { e with ahead := ahead }
        openFile m path
        advance m fuel

/-- Write what was put off, and take the next line, if there is one. -/
def takeLine (m : Manner) : EditM Bool := do
  writeQueue m
  advance m ((← get).ahead.length + 2)

/-- Is there something to read at a path? -/
def hasData (p : Process) (path : Text) : Bool :=
  if path = ['-'] then match p.descriptors.lookup 0 with
    | some (.reader i) => p.stream i ≠ []
    | some (.file i) => (p.handles[i]?).any fun h => (p.unread h).2 ≠ []
    | _ => false
  else match p.look path with
    | .ok (.file data _) => data ≠ []
    | _ => false

/-- Is it the last line? -/
def isLast (m : Manner) : EditM Bool := do
  let e ← get
  let p ← getThe Process
  return e.lines.isEmpty && (m.separate || !e.ahead.any (hasData p))

/-! ### Lines that are selected -/

/-- The expression that is used: the given one, or the one that was used last. -/
def inUse (c : Option Regex.Compiled) : EditM Regex.Compiled := do
  match c.or (← get).last with
  | some c => do
    modify fun e => { e with last := some c }
    return c
  | none => giveUp 1 "-e expression #1, char 0: no previous regular expression"

/-- Does an address select the line? -/
def Address.selects (m : Manner) (a : Address) : EditM Bool := do
  let e ← get
  match a with
  | .line n => return e.number = n
  | .every first step => return first ≤ e.number && (e.number - first) % step = 0
  | .last => isLast m
  | .matching c => do return ((← inUse c).search e.space 0).isSome

/-- Make the range of a step active or not. -/
def setRange (i : Nat) (stop : Option RangeStop) : EditM Unit := modify fun e =>
  let others := e.active.filter fun r => r.1 ≠ i
  { e with active := match stop with
      | some s => (i, s) :: others
      | none => others }

/-- Start the range of a step. -/
def startRange (i : Nat) (stop : RangeEnd) : EditM Unit := do
  let n := (← get).number
  let upTo (last : Nat) : EditM Unit := if n < last then setRange i (some (.upTo last)) else pure ()
  match stop with
  | .at (.line last) => upTo last
  | .at a => setRange i (some (.upon a))
  | .after count => upTo (n + count)
  | .multiple k => if k = 0 then pure () else upTo ((n / k + 1) * k)

/-- Is a step done for the line? -/
def Scope.selects (m : Manner) (s : Scope) (i : Nat) : EditM Bool := do
  let inside ← match s.start, s.stop with
    | none, _ => pure true
    | some a, none => a.selects m
    | some a, some stop => do
      let e ← get
      match e.active.lookup i with
      | some (.upTo n) => do
        if n ≤ e.number then setRange i none
        pure (e.number ≤ n : Bool)
      | some (.upon b) => do
        if ← b.selects m then setRange i none
        pure true
      | none => do
        let starts ← a.selects m
        if starts then startRange i stop
        pure starts
  return inside != s.negated

/-! ### Replacements -/

/-- A text with its case changed, and what is still to be changed after it. -/
def Casing.apply (lasting once : Casing) (t : Text) : Text × Casing :=
  let all (t : Text) : Text := match lasting with
    | .upper => t.map Char.toUpper
    | .lower => t.map Char.toLower
    | _ => t
  match once, t with
  | _, [] => ([], once)
  | .nextUpper, c :: cs => (c.toUpper :: all cs, .asIs)
  | .nextLower, c :: cs => (c.toLower :: all cs, .asIs)
  | _, t => (all t, .asIs)

/-- What comes in the place of a match. -/
def expandPieces (found : Regex.Match) (lasting once : Casing) : List Piece → Text
  | [] => []
  | .casing .nextUpper :: ps => expandPieces found lasting .nextUpper ps
  | .casing .nextLower :: ps => expandPieces found lasting .nextLower ps
  | .casing c :: ps => expandPieces found c .asIs ps
  | .text t :: ps =>
    let (t, once) := Casing.apply lasting once t
    t ++ expandPieces found lasting once ps
  | .group n :: ps =>
    let (t, once) := Casing.apply lasting once ((found.group? n).getD [])
    t ++ expandPieces found lasting once ps

/-- The text from a place on with replacements, and whether there was one. The next match has this number; one that
is empty does not count right behind the last one. -/
def replaceFrom (c : Regex.Compiled) (r : Replacing) (t : Text) : Nat → Nat → Nat → Option Nat → Text × Bool
  | 0, after, _, _ => (t.drop after, false)
  | fuel + 1, after, count, last =>
    if t.length < after then ([], false)
    else match c.search t after with
      | none => (t.drop after, false)
      | some m =>
        let before := (t.drop after).take (m.start - after)
        let behind := m.start + m.text.length
        let step := (t.drop behind).take (if m.text = [] then 1 else 0)
        if m.text = [] && last = some m.start then
          let (rest, done) := replaceFrom c r t fuel (behind + 1) count none
          (before ++ step ++ rest, done)
        else
          let chosen := r.first ≤ count
          let shown := if chosen then expandPieces m .asIs .asIs r.pieces else m.text
          if chosen && !r.every then (before ++ shown ++ t.drop behind, true)
          else
            let (rest, done) := if m.text = [] then replaceFrom c r t fuel (behind + 1) (count + 1) none
              else replaceFrom c r t fuel behind (count + 1) (some behind)
            (before ++ shown ++ step ++ rest, done || chosen)

/-! ### Listing -/

/-- A character in a form that can be read without doubt. -/
def visible (c : Char) : Text :=
  match c with
  | '\\' => ['\\', '\\']
  | '\x07' => ['\\', 'a']
  | '\x08' => ['\\', 'b']
  | '\x0c' => ['\\', 'f']
  | '\n' => ['\\', 'n']
  | '\r' => ['\\', 'r']
  | '\t' => ['\\', 't']
  | '\x0b' => ['\\', 'v']
  | c =>
    let n := c.toNat
    if 32 ≤ n && n < 127 then [c]
    else '\\' :: [n / 64, n / 8 % 8, n % 8].map fun d => Char.ofNat ('0'.toNat + d)

/-- Characters in lines of a length; a backslash stands at the end of a line that goes on. -/
def listed (width : Nat) : Nat → Text → Text
  | _, [] => ['$', '\n']
  | column, c :: cs =>
    let shown := visible c
    if 0 < width && width < column + shown.length + 1 then '\\' :: '\n' :: shown ++ listed width shown.length cs
    else shown ++ listed width (column + shown.length) cs

/-! ### Running -/

/-- How the steps for a line end. -/
inductive Signal
  /-- The pattern space is written. -/
  | finished
  /-- It is not. -/
  | dropped
  /-- The steps are done again for what is left in it. -/
  | again
  /-- Nothing more is done; perhaps the pattern space is still written. -/
  | quit (silent : Bool) (status : Nat)

/-- The number of the step behind the end of the block that is open. -/
def afterBlock : Nat → Nat → List Step → Nat
  | i, _, [] => i
  | i, depth, s :: ss => match s.deed with
    | .blockStart => afterBlock (i + 1) (depth + 1) ss
    | .blockEnd => if depth = 0 then i + 1 else afterBlock (i + 1) (depth - 1) ss
    | _ => afterBlock (i + 1) depth ss

/-- The next line of a file that is read line by line. -/
def lineOfSource (path : Text) : EditM (Option Text) := do
  let e ← get
  let lines ← match e.sources.lookup path with
    | some ls => pure ls
    | none => match ← contentOf (if path = "/dev/stdin".toList then ['-'] else path) with
      | .ok t => pure (linesOf t)
      | .error _ => pure []
  let others := e.sources.filter fun s => s.1 ≠ path
  set { e with sources := (path, lines.drop 1) :: others }
  return lines.head?

/-- What is done after a step: the step with a number is next, or the steps for the line have come to an end. -/
inductive Follow
  | step (i : Nat)
  | signal (s : Signal)

/-- Replace matches in the pattern space. -/
def replaceMatches (m : Manner) (r : Replacing) : EditM Unit := do
  let c ← inUse r.expression
  let t := (← get).space
  let (new, done) := replaceFrom c r t (2 * t.length + 4) 0 1 none
  if done then
    modify fun e => { e with space := new, changed := true }
    let e ← get
    if r.prints then emit m e.space e.ended
    match r.file with
    | some path => emitTo m path e.space e.ended
    | none => pure ()

/-- Do a step. -/
def perform (m : Manner) (s : Script) (i : Nat) (d : Deed) : EditM Follow := do
  let e ← get
  let onward : Follow := .step (i + 1)
  let stop := m.stop
  let firstLine := e.space.takeWhile (· ≠ stop)
  let later (l : Later) : EditM Follow := do
    set { e with queue := l :: e.queue }
    return onward
  match d with
  | .append t => later (.text t)
  | .insert t => do
    settle m
    put t
    return onward
  | .change t => do
    if (e.active.lookup i).isNone then
      settle m
      put t
    return .signal .dropped
  | .jump c label => do
    let jumps := match c with
      | .always => true
      | .changed => e.changed
      | .unchanged => !e.changed
    if c ≠ .always then set { e with changed := false }
    if !jumps then return onward
    else return match s.labels.lookup label with
      | some n => .step n
      | none => .signal .finished
  | .delete => return .signal .dropped
  | .deleteLine =>
    if firstLine.length = e.space.length then return .signal .dropped
    else do
      set { e with space := e.space.drop (firstLine.length + 1) }
      return .signal .again
  | .fileName => do
    settle m
    put (e.name ++ ['\n'])
    return onward
  | .fetch => do
    set { e with space := e.held }
    return onward
  | .fetchMore => do
    set { e with space := e.space ++ stop :: e.held }
    return onward
  | .hold => do
    set { e with held := e.space }
    return onward
  | .holdMore => do
    set { e with held := e.held ++ stop :: e.space }
    return onward
  | .listing width => do
    settle m
    put (listed (width.getD m.width) 0 e.space)
    return onward
  | .next => do
    if ← isLast m then return .signal .finished
    if !m.quiet then emit m e.space e.ended
    if ← takeLine m then return onward else return .signal (.quit true 0)
  | .joinNext => do
    if ← isLast m then return .signal .finished
    if ← takeLine m then
      modify fun n => { n with space := e.space ++ stop :: n.space }
      return onward
    else return .signal .finished
  | .print => do
    emit m e.space e.ended
    return onward
  | .printLine => do
    emit m firstLine true
    return onward
  | .quit silent status => return .signal (.quit silent status)
  | .readFile path => later (.file path)
  | .readLine path => do
    match ← lineOfSource path with
    | some t => modify fun e => { e with queue := .text (t ++ [stop]) :: e.queue }
    | none => pure ()
    return onward
  | .replace r => do
    replaceMatches m r
    return onward
  | .writeFile path => do
    emitTo m path e.space e.ended
    return onward
  | .writeLine path => do
    emitTo m path firstLine true
    return onward
  | .exchange => do
    set { e with space := e.held, held := e.space }
    return onward
  | .translate pairs => do
    set { e with space := e.space.map fun c => (pairs.lookup c).getD c }
    return onward
  | .clear => do
    set { e with space := [] }
    return onward
  | .number => do
    settle m
    put (Text.ofNat e.number ++ ['\n'])
    return onward
  | .blockStart => return onward
  | .blockEnd => return onward

/-- How many steps are done for a line at most. -/
def maxSteps : Nat := 1000000

/-- Do the steps from one on. -/
def runFrom (m : Manner) (s : Script) : Nat → Nat → EditM Signal
  | 0, _ => tooLong (α := Signal)
  | fuel + 1, i => match s.steps[i]? with
    | none => return .finished
    | some step => do
      let follow ← if ← step.scope.selects m i then perform m s i step.deed
        else match step.deed with
          | .blockStart => pure (.step (afterBlock (i + 1) 0 (s.steps.toList.drop (i + 1))))
          | _ => pure (.step (i + 1))
      match follow with
      | .step j => runFrom m s fuel j
      | .signal signal => return signal

/-- Do the steps for all lines, and give the status; tells whether there is a line already. -/
def editLines (m : Manner) (s : Script) : Nat → Bool → EditM Nat
  | 0, _ => tooLong (α := Nat)
  | fuel + 1, has => do
    let has ← if has then pure true else takeLine m
    if !has then return (← get).status
    else match ← runFrom m s maxSteps 0 with
      | .finished => do
        let e ← get
        if !m.quiet then emit m e.space e.ended
        editLines m s fuel false
      | .dropped => editLines m s fuel false
      | .again => do
        writeQueue m
        editLines m s fuel true
      | .quit silent status => do
        let e ← get
        if !silent && !m.quiet then emit m e.space e.ended
        writeQueue m
        finishFile m
        return max status e.status

end Rollout.Program.Edit

/-! ### The program -/

namespace Rollout.Program

open Unix Edit

/-- The options of `sed`. -/
def sedFlags : List Flag :=
  [.plain 'n' "quiet", .wordOnly "silent", .valued 'e' "expression", .valued 'f' "file", .plain 'E' "regexp-extended",
    .plain 'r' "", ⟨some 'i', some "in-place".toList, .optional⟩, .valued 'l' "line-length", .plain 's' "separate",
    .plain 'u' "unbuffered", .plain 'z' "null-data", .wordOnly "zero-terminated", .plain 'b' "binary",
    .wordOnly "posix", .wordOnly "debug", .wordOnly "sandbox", .wordOnly "follow-symlinks"]

/-- End because of arguments that make no sense. -/
def sedMisused {α : Type} (complaint : Option Text) : Act α := do
  match complaint with
  | some t => grumble t
  | none => pure ()
  complain "Usage: sed [OPTION]... \x7bscript-only-if-no-other-script\x7d [input-file]..."
  throw (.exited 1)

/-- The pieces of a script that options give. -/
def scriptPieces : Nat → List (Text × Text) → Act (List (Origin × Text))
  | _, [] => return []
  | n, (key, v) :: rest => do
    if key = ['e'] then return (.argument (n + 1), v) :: (← scriptPieces (n + 1) rest)
    else match ← contentOf v with
      | .ok t => return (.file v, withoutEnd '\n' t) :: (← scriptPieces n rest)
      | .error reason => giveUp 4 ("couldn't open file " ++ v ++ ": " ++ reason)

/-- The files to which the steps of a script write. -/
def filesWritten (s : Script) : List Text :=
  (s.steps.toList.filterMap fun step => match step.deed with
    | .writeFile path => some path
    | .writeLine path => some path
    | .replace r => r.file
    | _ => none).filter fun path => path ≠ "/dev/stdout".toList && path ≠ "/dev/stderr".toList

/-- Open files for writing, each once. -/
def openWriters : List Writer → List Text → Act (List Writer)
  | ws, [] => return ws
  | ws, path :: paths => do
    if ws.any (·.path = path) then openWriters ws paths
    else match ← openForWriting false path with
      | .ok d => openWriters (⟨path, d, false⟩ :: ws) paths
      | .error reason => giveUp 4 ("couldn't open file " ++ path ++ ": " ++ reason)

/-- How many lines are edited at most. -/
def maxLines : Nat := 10000000

/-- Edit the lines of files. -/
def sed : Routine := fun ts => do
  let a ← match ← givenArguments sedFlags true ts with
    | .ok a => pure a
    | .error e => sedMisused (some e)
  let given := a.options.filter fun o => o.1 = ['e'] || o.1 = ['f']
  let (pieces, operands) ← match given, a.operands with
    | [], [] => sedMisused none
    | [], t :: rest => pure ([(Origin.argument 1, t)], rest)
    | given, rest => do pure (← scriptPieces 0 given, rest)
  match readScript (a.has "E" || a.has "r") pieces with
  | .error (status, message) => giveUp status message
  | .ok script => do
    let inPlace := a.value? "i"
    if inPlace.isSome && operands = [] then giveUp 4 "no input files"
    let width := ((a.value? "l").bind Text.toNat?).getD 70
    let manner : Manner := {
      quiet := script.quiet || a.has "n" || a.has "silent"
      separate := a.has "s" || inPlace.isSome
      inPlace := inPlace
      stop := if a.has "z" || a.has "zero-terminated" then '\x00' else '\n'
      width := width }
    let writers ← openWriters [] (filesWritten script)
    let isZero (s : Step) : Bool := match s.scope.start with
      | some (.line 0) => true
      | _ => false
    -- a range that starts at line 0 is active from the beginning
    let active := (script.steps.toList.zipIdx.filter fun (s, _) => isZero s).filterMap fun (s, i) =>
      match s.scope.stop with
      | some (.at b) => some (i, RangeStop.upon b)
      | _ => none
    let editor : Editor := {
      ahead := orInput operands
      lines := []
      name := ['-']
      number := 0
      space := []
      ended := true
      held := []
      queue := []
      active := active
      changed := false
      last := none
      lacking := false
      result := none
      writers := writers
      sources := []
      status := 0 }
    let (status, _) ← (editLines manner script maxLines false).run editor
    return status

end Rollout.Program
