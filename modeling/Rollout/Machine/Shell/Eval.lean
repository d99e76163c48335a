import Rollout.Machine.Program.Table
import Rollout.Machine.Regex.Parser
import Rollout.Machine.Shell.Menu
import Rollout.Machine.Shell.Parameter
import Rollout.Machine.Shell.Quoting
import Rollout.Machine.Shell.Start
import Rollout.Machine.Shell.State

/-!
Running commands. The fuel bounds the depth and the repetitions; a shell that has used it up is ended by a signal,
as a system ends a process that takes too long.
-/

namespace Rollout.Shell

/-! ### Commands as they are shown -/

/-- A piece as it may have been written. -/
def Piece.shown : Piece → Text
  | .text t quoted => if quoted then Quoting.single t else t
  | .parameter (.mk name none false) .plain quoted => if quoted then '"' :: '$' :: name ++ ['"'] else '$' :: name
  | .parameter (.mk name ..) _ _ => "$\x7b" ++ name ++ "\x7d"
  | .output .. => "$()"
  | .arithmetic .. => "$(())"
  | .channel reads _ => if reads then "<()" else ">()"
  | .home user => '~' :: user
  | .elements _ => "()"
  | .meaningless source => source

/-- A word as it may have been written. -/
def Word.shown (w : Word) : Text := w.flatMap Piece.shown

/-- What stands in front of a command that is shown before it is run; its first character shows how many texts
are run inside of each other. -/
def State.tracePrefix (s : State) : Text :=
  let t := (s.value? "PS4").getD []
  match s.dialect, t with
  | .rich, c :: cs => List.replicate s.level c ++ cs
  | _, t => t

/-- Show a line before it is run, if that is wanted, on what the descriptor for errors stood for. -/
def traceTo (errors : Option Unix.Descriptor) (line : Text) : Action Unit := do
  Unix.flush
  let s ← get
  match errors with
  | some d => if s.has "xtrace" then let _ ← Unix.writeTo (s.tracePrefix ++ line ++ ['\n']) d
  | none => return

/-- Show a line before it is run, if that is wanted. -/
def trace (line : Text) : Action Unit := do traceTo ((← get).descriptors.lookup 2) line

/-- Show the words of a command before it is run, if that is wanted. -/
def traceWords (errors : Option Unix.Descriptor) (assignments : List (Text × Text)) (words : List Text) :
    Action Unit := do
  match (← get).dialect with
  | .plain => traceTo errors (Text.join [' '] (assignments.map (fun a => a.1 ++ '=' :: a.2) ++ words))
  | .rich =>
    if words ≠ [] then traceTo errors (Text.join [' '] (words.map Quoting.traced))

/-- Show an assignment of the rich dialect before it is made, if that is wanted. -/
def traceAssignment (name : Text) (extend : Bool) (value : Text) : Action Unit := do
  if (← get).dialect = .rich then
    trace (name ++ (if extend then ['+', '='] else ['=']) ++ if value = [] then [] else Quoting.traced value)

/-! ### Expressions -/

/-- The expression that characters form, of which quoted ones mean themselves. -/
def expressionText (ms : List Pattern.Marked) : Text := ms.flatMap fun (c, quoted) =>
  if quoted && ".[]\\()*+?^$|\x7b\x7d".toList.contains c then ['\\', c] else [c]

/-- What is found by an expression in a text: the match and what its groups have matched. -/
def findGroups (fold : Bool) (expression t : Text) : Option (Option (List Text)) :=
  match Regex.compile Regex.extended fold false expression with
  | .error _ => none
  | .ok c => some ((c.search t 0).map fun m =>
      (List.range (c.regex.groups + 1)).map fun i => (m.group? i).getD [])

/-! ### Jobs -/

/-- How much a pipe holds that nobody reads. -/
def pipeRoom : Nat := 65536

/-- How long a job takes at least, in microseconds. -/
def jobWork : Nat := 1000

/-- The jobs with another one at the first place that is free for it. -/
def Interpreter.withPlace (s : Interpreter) (j : Job) : List Job :=
  match s.dialect with
  | .plain =>
    let isFree (i : Job) : Bool := i.awaited && !Builtin.isRunning s.time i
    let taken := (s.jobs.filter (!isFree ·)).map (·.place)
    let place := ((List.range (taken.length + 1)).find? fun n => !taken.contains (n + 1)).getD 0 + 1
    s.jobs.filter (·.place ≠ place) ++ [{ j with place := place }]
  | .rich => s.jobs ++ [{ j with place := s.jobs.foldl (fun n i => max n i.place) 0 + 1 }]

/-- The jobs as another shell for a command shows them. -/
def Interpreter.shownJobs (s : Interpreter) : List Job :=
  match s.dialect with
  | .plain => []
  | .rich => s.jobs.map fun j => { j with
      ended := (j.postponed.map Postponed.due).getD j.ended
      postponed := none }

/-- The jobs as another shell for a command of a pipeline shows them. -/
def Interpreter.jobsFor (s : Interpreter) (x : Command) : List Job :=
  match x with
  | .simple .. => s.shownJobs
  | _ => []

/-- The jobs of the rich dialect that have ended lose their places. -/
def Interpreter.settled (s : Interpreter) : List Job :=
  match s.dialect with
  | .plain => s.jobs
  | .rich => s.jobs.map fun j => if Builtin.isRunning s.time j then j else { j with place := 0 }

/-- How a program is called. -/
structure Calling where
  /-- How messages about its name start. -/
  role : Text
  /-- The name that it gets, if that is another one. -/
  title : Option Text
  /-- Does it get no variables? -/
  bare : Bool

/-- How most programs are called. -/
def Calling.usual : Calling := ⟨[], none, false⟩

/-- The variable that tells how many shells are around one, less this shell. -/
def State.levelAbove (s : State) : List (Text × Text) :=
  let name : Text := "SHLVL"
  match (s.value? name).bind Text.toNat? with
  | some n => [(name, Text.ofNat (n - 1))]
  | none => []

/-- Assignments and words, where all words that are assignments may count as such. -/
def State.withKeywords (s : State) (assignments : List Assignment) (words : List Word) :
    List Assignment × List Word :=
  if s.dialect = .rich && s.has "keyword" then
    (assignments ++ words.filterMap (Parser.assignment? .rich), words.filter fun w => (Parser.assignment? .rich w).isNone)
  else (assignments, words)

/-- Descriptors for what a command beside the shell writes and reads. -/
def Interpreter.freeDescriptors (s : Interpreter) : Nat × Nat :=
  let free := (List.range 64).reverse.filter fun n => (s.descriptors.lookup n).isNone
  ((free[0]?).getD 63, (free[3]?).getD 60)

/-- A time that never comes, in microseconds. -/
def farTime : Nat := Nat.pow 10 15

/-- The work of a command, in microseconds. -/
def commandWork : Nat := 10

/-- The work of starting a program, in microseconds. -/
def programWork : Nat := 500

/-- How deep functions may be run inside of each other. -/
def maxDepth : Nat := 4000

/-- The place of the files that stand for descriptors. -/
def descriptorPlace : List Text := ["proc", "self", "fd"].map String.toList

/-- The descriptor for a stream for the time of a command, and the path that leads to it. -/
def openChannel (d : Unix.Descriptor) (reader : Option (Nat × List Command)) : Action Text := do
  let s ← get
  let used := s.descriptors.map (·.1)
  let n := ((List.range 64).reverse.find? fun n => !used.contains n).getD 64
  let name := Text.ofNat n
  set { s with
    descriptors := (n, d) :: s.descriptors
    channels := (n, reader) :: s.channels
    root := s.root.put (.ofDevice (.descriptor n)) (descriptorPlace ++ [name]) }
  return "/dev/fd/" ++ name

/-- The job that comes to its end first, up to a time. -/
def firstDue (limit : Nat) (jobs : List Job) : Option (Nat × Postponed) :=
  let waiting := jobs.filterMap fun j => j.postponed.map fun p => (j.number, p)
  (waiting.filter fun j => j.2.due ≤ limit).foldl (fun found j => match found with
    | none => some j
    | some i => if j.2.due < i.2.due then some j else some i) none

/-- Is the word one of a declaration whose value is an array? -/
def arrayOf? (w : Word) : Option (Assignment × Text) :=
  match w.getLast? with
  | some (.elements es) => (Parser.assignment? .rich w.dropLast).bind fun
    | .mk name none extend _ => some (.mk name none extend [.elements es], name)
    | _ => none
  | _ => none

/-- Start a command beside the shell, with descriptors for what it writes and what it reads. -/
def startPartner (name : Text) (body : Command) : Action Unit := do
  let input ← Unix.openStream .empty
  let output ← Unix.openStream .empty
  let s ← get
  let number := s.nextNumber
  let (reads, writes) := s.freeDescriptors
  set { s with
    nextNumber := number + 1
    lastJob := some number
    lasting := reads :: writes :: s.lasting
    partners := ⟨number, input, output, body, s.toProcess, [], 0, false⟩ :: s.partners
    descriptors := (reads, .reader output) :: (writes, .writer input) :: s.descriptors
    jobs := s.withPlace ⟨number, 0, none, s.time + jobWork, false, 0, none, (Command.partner 0 name body).shown⟩
    status := 0 }
  assignContent name (.list [(0, Text.ofNat reads), (1, Text.ofNat writes)])
  assign (name ++ "_PID") (Text.ofNat number)

/-- Does the pattern that marked characters form cover the text, perhaps without regard to case? -/
def coversMarked (t : Text) (ms : List Pattern.Marked) : Action Bool := do
  if (← get).has "nocasematch" then
    return (Pattern.ofMarked .rich true (ms.map fun (c, q) => (c.toLower, q))).covers (t.map Char.toLower)
  else return (Pattern.ofMarked .rich true ms).covers t

/-- Run what a command of the shell does; a mistake ends the shell only if the command is a special one. -/
def runRoutine (isSpecial : Bool) (name : Text) (r : Routine) (arguments : List Text) : Action Unit :=
  underName name (do
    let ended (stop : Stop) : Action Unit := do
      Unix.flush
      throw stop
    try do
      let n ← r arguments
      Unix.flush
      let s ← get
      match s.fault with
      | none => setStatus n
      | some e => do
        set { s with fault := none }
        protest (match s.dialect with
          | .plain => name ++ ": I/O error"
          | .rich => "write error: " ++ e)
        setStatus 1
    catch
      | .failed => if isSpecial then ended .failed else Unix.flush
      | stop => ended stop)

mutual

/-- Expand the pieces of a word. -/
def expand (fuel : Nat) (ps : Word) : Action (List Atom) :=
  match fuel with
  | 0 => tooLong
  | fuel + 1 => match ps with
    | [] => return []
    | p :: ps => do
      let first ← expandPiece fuel p
      return first ++ (← expand fuel ps)
termination_by structural fuel

/-- Expand a piece. -/
def expandPiece (fuel : Nat) (piece : Piece) : Action (List Atom) :=
  match fuel with
  | 0 => tooLong
  | fuel + 1 => match piece with
    | .text t quoted => return Atom.ofText t quoted
    | .home user => return match (← get).home? user with
      | some t => Atom.ofText t true
      | none => Atom.ofText ('~' :: user) false
    | .parameter p m quoted => expandParameter fuel p m quoted
    | .output commands quoted => do return Atom.ofValue (← capture fuel commands) quoted
    | .arithmetic e quoted => do return Atom.ofValue (Text.ofInt (← number fuel e)) quoted
    | .channel reads commands => do
      let i ← Unix.openStream .empty
      if reads then do
        let start := (← get).waited
        let _ ← inCopy id (do
          point 1 (.writer i)
          runToEnd fuel (runAll fuel .usual commands))
        -- what reads it starts at the same time
        let ended := (← get).waited
        modify fun s => { s with toProcess := { s.toProcess.changeStream i ({ · with closed := ended }) with
          waited := start } }
        return Atom.ofText (← openChannel (.reader i) none) true
      else return Atom.ofText (← openChannel (.writer i) (some (i, commands))) true
    | .elements _ => return []
    | .meaningless source => do
      match (← get).dialect with
      | .plain => abort "Bad substitution"
      | .rich => abandon (source ++ ": bad substitution")
termination_by structural fuel

/-- What a parameter stands for. -/
def held (fuel : Nat) (p : Parameter) : Action Held :=
  match fuel with
  | 0 => tooLong
  | fuel + 1 => match p with
    | .mk name subscript indirect => do
      let direct ← match subscript with
        | none => do pure ((← get).parameter name)
        | some (.all joined) => do pure ((← get).elements name joined)
        | some (.one index) => do elementHeld name (← expandText fuel index)
      let s ← get
      if s.dialect = .rich && name = "RANDOM".toList then set { s with toState := s.toState.drawn }
      if !indirect then return direct
      else match s.vars.get? name with
        | some v => if v.reference then return .one (s.target name) else indirectly name (s.heldText direct)
        | none => indirectly name (s.heldText direct)
termination_by structural fuel

/-- Expand a parameter with a modifier. -/
def expandParameter (fuel : Nat) (p : Parameter) (m : Modifier) (quoted : Bool) : Action (List Atom) :=
  match fuel with
  | 0 => tooLong
  | fuel + 1 => match p, m with
    | .mk name (some (.all joined)) isStart, .names => do
      let s ← get
      return s.expansion quoted (namesHeld s name joined isStart)
    | .mk name subscript indirect, m => do
      let h ← held fuel (.mk name subscript indirect)
      let s ← get
      let value := s.heldText h
      let give (h : Held) : Action (List Atom) := do return (← get).expansion quoted h
      let isAll := match subscript with
        | some (.all _) => true
        | _ => name = ['@'] || name = ['*']
      let refuse : Action Unit := if isAll then return else refuseUnset name h
      match m with
      | .plain => do
        refuse
        give h
      | .names => give h
      | .length => do
        refuse
        let n := match s.dialect, h with
          | .rich, .many ts _ => ts.length
          | _, _ => (value.getD []).length
        return Atom.ofValue (Text.ofNat n) quoted
      | .fallback kind orEmpty word => do
        let missing := value.isNone || (orEmpty && value = some [])
        let other : Action (List Atom) := do
          let as ← expand fuel word
          return (if quoted then [.mark] else []) ++ as.map Atom.asValue
        match kind with
        | .instead => if missing then return Atom.ofValue [] quoted else other
        | .use => if missing then other else give h
        | .assign =>
          if missing then do
            let t ← expandText fuel word
            if !isName name then match s.dialect with
              | .plain => abort (name ++ ": bad variable name")
              | .rich => abandon ('$' :: name ++ ": cannot assign in this way")
            match subscript with
            | some (.one index) => Builtin.assignTo (name ++ '[' :: (← expandText fuel index) ++ [']']) t
            | _ => assign name t
            give (← held fuel (.mk name subscript indirect))
          else give h
        | .fail =>
          if missing then do
            let t ← expandText fuel word
            let usual : Text := match orEmpty, s.dialect with
              | false, _ => "parameter not set"
              | true, .plain => "parameter not set or null"
              | true, .rich => "parameter null or not set"
            let message := name ++ ": " ++ if word.isEmpty then usual else t
            match s.dialect with
            | .plain => abort message
            | .rich => do
              report message
              exitWith 127
          else give h
      | .trimmed atEnd longest pattern => do
        refuse
        let p ← patternOf fuel pattern
        match s.dialect, h with
        | .plain, .many (t :: ts) joined =>
          if joined && quoted then give (.one (p.trim atEnd longest (value.getD [])))
          else give (.many (p.trimJoined atEnd longest (t :: ts)) joined)
        | _, _ => give (h.map (p.trim atEnd longest))
      | .replaced which pattern replacement => do
        refuse
        let p ← patternOf fuel pattern
        let marked := Atom.marked (← expand fuel replacement)
        give (h.map (p.replace (replacementFor quoted · marked) which))
      | .recased upper every pattern => do
        refuse
        let p ← patternOf fuel pattern
        give (h.map (recase upper every fun c => pattern.isEmpty || p.covers [c]))
      | .transformed letter => give (transformed s name isAll letter h)
      | .slice start count => do
        refuse
        let start ← number fuel start
        let count ← match count with
          | none => pure none
          | some w => do pure (some (← number fuel w))
        let tooSmall (n : Int) : Action (List Atom) := abandon (Text.ofInt n ++ ": substring expression < 0")
        match numbered? (← get) name subscript, h with
        | some values, .many _ joined => match sliceValues values start count with
          | .ok ts => give (.many ts joined)
          | .error n => tooSmall n
        | _, .none => give .none
        | _, _ => match sliceText (value.getD []) start count with
          | .ok t => give (.one t)
          | .error n => tooSmall n
termination_by structural fuel

/-- Expand a word to a pattern. -/
def patternOf (fuel : Nat) (w : Word) : Action Pattern :=
  match fuel with
  | 0 => tooLong
  | fuel + 1 => do
    let as ← expand fuel w
    let s ← get
    return Pattern.ofMarked s.dialect (s.has "extglob") (Atom.marked as)
termination_by structural fuel

/-- Expand a word that stays whole. -/
def expandText (fuel : Nat) (w : Word) : Action Text :=
  match fuel with
  | 0 => tooLong
  | fuel + 1 => do return Atom.text (← expand fuel w)
termination_by structural fuel

/-- The value of a word as an arithmetic expression. -/
def number (fuel : Nat) (w : Word) : Action Int :=
  match fuel with
  | 0 => tooLong
  | fuel + 1 => do evaluate (← expandText fuel w)
termination_by structural fuel

/-- The value of a word as an arithmetic expression that is a command, if it has one. -/
def commandNumber (fuel : Nat) (w : Word) : Action (Option Int) :=
  match fuel with
  | 0 => tooLong
  | fuel + 1 => do
    let t ← expandText fuel w
    trace ("(( " ++ t ++ " ))")
    let s ← get
    match Arithmetic.value s.dialect s.lookup t with
    | .ok (n, assigned) => do
      assignNumbers assigned.reverse
      return some n
    | .error e => do
      report ("((: " ++ e.message s.dialect)
      return none
termination_by structural fuel

/-- Expand words to fields. -/
def expandWords (fuel : Nat) (ws : List Word) : Action (List Text) :=
  match fuel with
  | 0 => tooLong
  | fuel + 1 => match ws with
    | [] => return []
    | w :: ws => do
      let atoms ← expand fuel w
      let s ← get
      let first ← (fields s.separators atoms).mapM fun field => match s.paths? field with
        | some ts => pure ts
        | none => abandon ("no match: " ++ field.map (·.1))
      return first.flatten ++ (← expandWords fuel ws)
termination_by structural fuel

/-- Expand the arguments of a command that may take assignments, which stay whole. -/
def expandArguments (fuel : Nat) (declares : Bool) (ws : List Word) : Action (List Text) :=
  match fuel with
  | 0 => tooLong
  | fuel + 1 => match ws with
    | [] => return []
    | w :: ws => do
      let d := (← get).dialect
      let first ← match arrayOf? w, if declares then Parser.assignment? d w else none with
        | some (_, name), _ => pure [name]
        | none, some (.mk name none extend value) => do
          let t ← expandText fuel (Parser.withHomes value)
          pure [name ++ (if extend then ['+', '='] else ['=']) ++ t]
        | none, _ => expandWords fuel [if d = .rich then Parser.withLaterHomes w else w]
      return first ++ (← expandArguments fuel declares ws)
termination_by structural fuel

/-- Expand the words of a command; what they start with decides how the others are expanded. -/
def expandCommand (fuel : Nat) (ws : List Word) : Action (List Text) :=
  match fuel with
  | 0 => tooLong
  | fuel + 1 => match ws with
    | [] => return []
    | w :: ws => do
      match ← expandWords fuel [w] with
      | [] => expandCommand fuel ws
      | [name] => do
        let d := (← get).dialect
        if name = "command".toList || (d = .rich && name = "builtin".toList) then
          return name :: (← expandCommand fuel ws)
        else return name :: (← expandArguments fuel (Builtin.declares d name) ws)
      | ts => return ts ++ (← expandArguments fuel false ws)
termination_by structural fuel

/-- What commands write, without the newlines at its end. -/
def capture (fuel : Nat) (commands : List Command) : Action Text :=
  match fuel with
  | 0 => tooLong
  | fuel + 1 => do
    let withoutNewlines (t : Text) : Text := (t.reverse.dropWhile (· = '\n')).reverse
    match (← get).dialect, commands with
    | .rich, [.simple _ [] [] [.mk _ (.fixed 0) .read target] _] => do
      let path ← expandText fuel target
      match ← Unix.readPath path with
      | .ok t => return withoutNewlines (t.filter (· ≠ '\x00'))
      | .error e => do
        report (path ++ ": " ++ e)
        modify fun s => { s with outputStatus := 1 }
        return []
    | d, commands => do
      let i ← Unix.openStream .empty
      let jobs := (← get).shownJobs
      let inside (s : Interpreter) : Interpreter :=
        { s with
          level := s.level + 1
          jobs := jobs
          options := if d = .rich && !s.has "inherit_errexit" then s.options.filter (· ≠ "errexit".toList)
            else s.options }
      let status ← waitedStatus (← inCopy inside (do
        point 1 (.writer i)
        runToEnd fuel (runAll fuel ⟨false, true⟩ commands)))
      modify fun s => { s with outputStatus := status, status := if d = .rich then status else s.status }
      let t := (← get).stream i
      if d = .rich && t.contains '\x00' then
        report "warning: command substitution: ignored null byte in input"
      return withoutNewlines (t.filter (· ≠ '\x00'))
termination_by structural fuel

/-- Change descriptors, and tell whether that was possible. -/
def redirect (fuel : Nat) (rs : List Redirection) : Action Bool :=
  match fuel with
  | 0 => tooLong
  | fuel + 1 => match rs with
    | [] => return true
    | .mk _ slot attachment target :: rs => do
      let t ← match (← get).dialect, attachment with
        | .rich, .document => do pure (some (← expandText fuel target))
        | .rich, .word => do pure (some (← expandText fuel target))
        | .rich, _ => match ← expandWords fuel [target] with
          | [t] => pure (some t)
          | _ => pure none
        | .plain, _ => do pure (some (← expandText fuel target))
      match t with
      | none => do
        report (Word.shown target ++ ": ambiguous redirect")
        return false
      | some t => match ← attachSlot slot t attachment with
        | none => redirect fuel rs
        | some message => do
          report message
          return false
termination_by structural fuel

/-- The elements that a value for an array stands for: keys with values, and values without keys. -/
def arrayElements (fuel : Nat) (es : List (Option Word × Word)) : Action (List (Option Text × Text)) :=
  match fuel with
  | 0 => tooLong
  | fuel + 1 => match es with
    | [] => return []
    | (index, w) :: es => do
      let first : List (Option Text × Text) ← match index with
        | some i => do
          let key ← expandText fuel i
          pure [(some key, ← expandText fuel w)]
        | none => do pure ((← expandWords fuel [w]).map (none, ·))
      return first ++ (← arrayElements fuel es)
termination_by structural fuel

/-- Put elements of an array under numbers, from a number on. -/
def insertElements (fuel : Nat) (next : Nat) (found : List (Nat × Text)) (es : List (Option Text × Text)) :
    Action (List (Nat × Text)) :=
  match fuel with
  | 0 => tooLong
  | fuel + 1 => match es with
    | [] => return found
    | (none, t) :: es => insertElements fuel (next + 1) (insertAt next t found) es
    | (some key, t) :: es => do
      let i ← evaluate key
      insertElements fuel (i.toNat + 1) (insertAt i.toNat t found) es
termination_by structural fuel

/-- Make an assignment; gives the name and the value, as they are shown. -/
def assignOne (fuel : Nat) (a : Assignment) : Action (Text × Text) :=
  match fuel with
  | 0 => tooLong
  | fuel + 1 => match a with
    | .mk name none extend [.elements es] => do
      let es ← arrayElements fuel es
      let s ← get
      let es ← match s.holder? name with
        | some v => es.mapM fun (e : Option Text × Text) => match s.cast v e.2 with
          | .ok t => pure (e.1, t)
          | .error e => giveUp e
        | none => pure es
      match (s.holder? name).map Variable.content with
      | some (.table old) => do
        let start := if extend then old else .empty
        let keyed := es.filterMap fun e => e.1.map (·, e.2)
        let bare := (es.filter (·.1.isNone)).map (·.2)
        let pairsOf := (List.range (bare.length / 2)).map fun i =>
          ((bare[2 * i]?).getD [], (bare[2 * i + 1]?).getD [])
        assignContent name (.table (start.insertAll (keyed ++ pairsOf)))
      | c => do
        let start : List (Nat × Text) := match extend, c with
          | true, some (.list old) => old
          | true, some (.text t) => [(0, t)]
          | _, _ => []
        let next := ((start.getLast?).map fun e => e.1 + 1).getD 0
        assignContent name (.list (← insertElements fuel next start es))
      return (name, [])
    | .mk name (some index) extend value => do
      let key ← expandText fuel index
      let t ← expandText fuel value
      let target := name ++ '[' :: key ++ [']']
      let old ← if extend then do
          let h ← elementHeld name key
          pure (((← get).heldText h).getD [])
        else pure []
      traceAssignment target extend t
      Builtin.assignTo target (old ++ t)
      return (target, t)
    | .mk name none extend value => do
      let t ← expandText fuel value
      traceAssignment name extend t
      let s ← get
      let isInteger := ((s.holder? name).map Variable.integer).getD false
      let old := if extend then (s.value? name).getD [] else []
      assign name (if extend && isInteger then old ++ "+(" ++ t ++ [')'] else old ++ t)
      return (name, t)
termination_by structural fuel

/-- Make assignments, perhaps for programs; gives the names and the values. -/
def assignAll (fuel : Nat) (exported : Bool) (assignments : List Assignment) : Action (List (Text × Text)) :=
  match fuel with
  | 0 => tooLong
  | fuel + 1 => match assignments with
    | [] => return []
    | a :: rest => do
      let (name, t) ← assignOne fuel a
      if exported then changeVariable name fun v => { v with exported := true }
      return (name, t) :: (← assignAll fuel exported rest)
termination_by structural fuel

/-- Run commands one after another. -/
def runAll (fuel : Nat) (c : Setting) (commands : List Command) : Action Unit :=
  match fuel with
  | 0 => tooLong
  | fuel + 1 => match commands with
    | [] => return
    | [x] => run fuel c x
    | x :: xs => do
      run fuel c.notLast x
      runAll fuel c xs
termination_by structural fuel

/-- Do what is to be done after a command: what jobs and signals ask for, and what is done after a failure. -/
def afterwards (fuel : Nat) (c : Setting) : Action Unit :=
  match fuel with
  | 0 => tooLong
  | fuel + 1 => do
    let s ← get
    if !s.partners.isEmpty then servePartners fuel
    if !s.jobs.isEmpty then do
      catchUp fuel s.time
      modify fun s => { s with jobs := s.settled }
    runPending fuel
    if !c.tested then do
      let s ← get
      if s.status ≠ 0 then do
        runTrap fuel Builtin.failure
        if s.has "errexit" then throw .exit
termination_by structural fuel

/-- Run a command. -/
def run (fuel : Nat) (c : Setting) (command : Command) : Action Unit :=
  match fuel with
  | 0 => tooLong
  | fuel + 1 => match command with
    | .simple line assignments words redirections _ => do
      modify fun s => { s with line := line }
      announce fuel command
      runSimple fuel c assignments words redirections
      closeChannels fuel
      modify fun s => { s with statuses := [s.status] }
      afterwards fuel c
    | .pipeline negated stages => do
      match stages with
      | [x] => run fuel ⟨c.tested || negated, c.last && !negated⟩ x
      | xs => do
        let statuses ← runStages fuel c xs
        let s ← get
        let failed := (statuses.filter (· ≠ 0)).getLast?
        let status := if s.has "pipefail" then failed.getD 0 else statuses.getLast?.getD 0
        set { s with statuses := statuses, status := status }
      if negated then setStatus (if (← get).status = 0 then 1 else 0)
      else if 1 < stages.length then afterwards fuel c
    | .both first second => do
      run fuel .condition first
      if (← get).status = 0 then run fuel c second
    | .either first second => do
      run fuel .condition first
      if (← get).status ≠ 0 then run fuel c second
    | .background x => startJob fuel x
    | .subshell line body => do
      modify fun s => { s with line := line }
      let inside (s : Interpreter) : Interpreter := if s.dialect = .rich then { s with loops := 0 } else s
      let status ← waitedStatus (← inCopy inside (runToEnd fuel (runAll fuel ⟨c.tested, true⟩ body)))
      modify fun s => { s with status := status, statuses := [status] }
      afterwards fuel c
    | .group body => runAll fuel c body
    | .branch condition body otherwise => do
      runAll fuel .condition condition
      if (← get).status = 0 then runAll fuel c body
      else match otherwise with
        | [] => setStatus 0
        | xs => runAll fuel c xs
    | .loop whileSuccess condition body => do
      setStatus (← runLoop fuel whileSuccess c.notLast condition body 0)
    | .timed older body => do
      let start := (← get).time
      runAll fuel c.notLast body
      tellTime older ((← get).time - start)
    | .partner line name body => do
      modify fun s => { s with line := line }
      startPartner name body
    | .menu line name words _ body => do
      modify fun s => { s with line := line }
      let items ← match words with
        | some ws => expandWords fuel ws
        | none => do pure (← get).arguments
      if !isName name then do
        report ('`' :: name ++ "': not a valid identifier")
        setStatus 1
      else if items.isEmpty then setStatus 0
      else runMenu fuel c.notLast command name body items true
    | .each line name words _ body => do
      modify fun s => { s with line := line }
      let items ← match words with
        | some ws => expandWords fuel ws
        | none => do pure (← get).arguments
      if !isName name then do
        report ('`' :: name ++ "': not a valid identifier")
        setStatus 1
      else if items.isEmpty then setStatus 0
      else runEach fuel c.notLast command name body items
    | .counted line start condition step _ body => do
      modify fun s => { s with line := line }
      announce fuel (.sum line start ("((" ++ Word.shown start ++ "))"))
      if start.isEmpty then setStatus (← runCounted fuel c.notLast condition step body 0)
      else match ← commandNumber fuel start with
        | none => setStatus 1
        | some _ => setStatus (← runCounted fuel c.notLast condition step body 0)
    | .choice line subject written arms => do
      modify fun s => { s with line := line }
      announce fuel command
      let t ← expandText fuel subject
      if (← get).dialect = .rich then trace ("case " ++ written ++ " in")
      runArms fuel c false t arms
    | .question line q _ => do
      modify fun s => { s with line := line }
      announce fuel command
      let answer ← ask fuel q
      setStatus (match answer with
        | some true => 0
        | some false => 1
        | none => 2)
      modify fun s => { s with statuses := [s.status] }
      afterwards fuel c
    | .sum line e _ => do
      modify fun s => { s with line := line }
      announce fuel command
      setStatus (match ← commandNumber fuel e with
        | some 0 => 1
        | some _ => 0
        | none => 1)
      modify fun s => { s with statuses := [s.status] }
      afterwards fuel c
    | .define _ name body => do
      modify fun s => { s with
        functions := s.functions.insert name
          ⟨body, if s.given = "-c: ".toList && s.dialect = .rich then "environment" else s.origin⟩ }
      setStatus 0
    | .redirected line x redirections _ => do
      modify fun s => { s with line := line }
      keepingDescriptors (do
        if ← redirect fuel redirections then run fuel c.notLast x
        else do
          setStatus (redirectionStatus (← get).dialect)
          afterwards fuel c)
      closeChannels fuel
termination_by structural fuel

/-- Keep the command that is run next, unless something is done on a condition, and do what is to be done before
commands. -/
def announce (fuel : Nat) (command : Command) : Action Unit :=
  match fuel with
  | 0 => tooLong
  | fuel + 1 => do
    let s ← get
    if s.dialect = .rich then
      if s.handling.isEmpty then set { s with running := some command }
      runTrap fuel Builtin.nextCommand
termination_by structural fuel

/-- Announce a command of a pipeline whose words the shell reads before it starts another one for it. -/
def announceStage (fuel : Nat) (command : Command) : Action Unit :=
  match fuel with
  | 0 => tooLong
  | fuel + 1 => do
    if !(← get).has "functrace" then match command with
      | .simple line .. => do
        modify fun s => { s with line := line }
        announce fuel command
      | _ => return
termination_by structural fuel

/-- Let the commands beside the shell do what they can do with what has been written to them. -/
def servePartners (fuel : Nat) : Action Unit :=
  match fuel with
  | 0 => tooLong
  | fuel + 1 => do
    let s ← get
    s.partners.forM fun p => do
      let s ← get
      let fresh := s.stream p.input
      let finished := !s.descriptors.any (·.2 = .writer p.input)
      if !p.finished && (fresh ≠ [] || finished) then do
        let given := p.given ++ fresh
        let input ← Unix.openStream { Unix.Stream.ofText given with closed := if finished then 0 else farTime }
        let output ← Unix.openStream .empty
        modify fun s => { s with toProcess := s.toProcess.changeStream p.input fun _ => .empty }
        let (before, now) := (s.waited, s.worked)
        let started (now : Interpreter) : Interpreter :=
          { copied { now with toProcess := { p.process with
              toSystem := now.toSystem
              deadline := if finished then none else some ⟨farTime - 1, Unix.killSignal, none⟩ } } with
            number := p.number
            partners := [] }
        let (r, q) ← runCopy started (do
          point 0 (.reader input)
          point 1 (.writer output)
          runToEnd fuel (run fuel ⟨false, true⟩ p.command))
        takeOver { q with waited := before, worked := now }
        let written := (← get).stream output
        modify fun s => { s with
          toProcess := s.toProcess.changeStream p.output (·.push before (written.drop p.produced))
          partners := s.partners.map fun (o : Partner) => if o.number = p.number then
            { o with given := given, produced := written.length, finished := finished } else o }
        if finished then Builtin.changeJob p.number ({ · with
          place := 0
          status := r.toOption.getD 0 })
termination_by structural fuel

/-- Choose words from a list again and again; gives the status of the last repetition. -/
def runMenu (fuel : Nat) (c : Setting) (head : Command) (name : Text) (body : List Command) (items : List Text)
    (shows : Bool) : Action Unit :=
  match fuel with
  | 0 => tooLong
  | fuel + 1 => do
    match ← chooseFrom items shows maxDepth with
    | none => setStatus 1
    | some t => do
      assign name t
      announce fuel head
      if ← onceInLoop (runAll fuel c body) then
        runMenu fuel c head name body items (((← get).value? "REPLY") = some [])
termination_by structural fuel

/-- Run what reads from descriptors that were there for the time of a command, and take them away. -/
def closeChannels (fuel : Nat) : Action Unit :=
  match fuel with
  | 0 => tooLong
  | fuel + 1 => do
    let s ← get
    match s.channels with
    | [] => return
    | (n, reader) :: rest => do
      set { s with
        channels := rest
        descriptors := s.descriptors.filter (·.1 ≠ n)
        root := s.root.erase (descriptorPlace ++ [Text.ofNat n]) }
      match reader with
      | some (i, commands) => do
        let _ ← inCopy (fun s => { s with channels := [] }) (do
          point 0 (.reader i)
          runToEnd fuel (runAll fuel .usual commands))
      | none => pure ()
      closeChannels fuel
termination_by structural fuel

/-- Run the commands of a pipeline, each in a shell of its own; gives their statuses. -/
def runStages (fuel : Nat) (c : Setting) (stages : List Command) : Action (List Nat) :=
  match fuel with
  | 0 => tooLong
  | fuel + 1 => match stages with
    | [] => return []
    | [x] => do
      let s ← get
      if s.dialect = .rich && s.has "lastpipe" then do
        run fuel ⟨true, false⟩ x
        return [(← get).status]
      else do
        announceStage fuel x
        let jobs := (← get).jobsFor x
        return [← waitedStatus (← inCopy ({ · with jobs := jobs }) (runToEnd fuel (run fuel ⟨c.tested, true⟩ x)))]
    | x :: xs => do
      announceStage fuel x
      let i ← Unix.openStream .empty
      let start := (← get).waited
      let jobs := (← get).jobsFor x
      let r ← inCopy ({ · with jobs := jobs }) (do
        point 1 (.writer i)
        runToEnd fuel (run fuel ⟨c.tested, true⟩ x))
      let status ← waitedStatus (match r with
        | .error n => .error (if n = Unix.timeSignal then Unix.pipeSignal else n)
        | r => r)
      -- what comes next starts at the same time
      let ended := (← get).waited
      modify fun s => { s with toProcess := s.toProcess.changeStream i ({ · with closed := ended }) }
      modify fun s => { s with waited := start }
      let rest ← keepingDescriptors (do
        point 0 (.reader i)
        runStages fuel c xs)
      modify fun s => { s with waited := max ended s.waited }
      let isLeft := status = 0 && pipeRoom < ((← get).stream i).length
      return (if isLeft then signalStatus Unix.pipeSignal else status) :: rest
termination_by structural fuel

/-- Repeat commands as long as a condition allows it; gives the status of the last repetition. -/
def runLoop (fuel : Nat) (whileSuccess : Bool) (c : Setting) (condition body : List Command) (status : Nat) :
    Action Nat :=
  match fuel with
  | 0 => tooLong
  | fuel + 1 => do
    let goesOn ← onceInLoop (do
      runAll fuel .condition condition
      if ((← get).status = 0) ≠ whileSuccess then do
        setStatus status
        throw (.leave 1)
      runAll fuel c body)
    let last := (← get).status
    if goesOn then runLoop fuel whileSuccess c condition body last else return last
termination_by structural fuel

/-- Repeat commands for each of some texts, as the head of a loop asks for. -/
def runEach (fuel : Nat) (c : Setting) (head : Command) (name : Text) (body : List Command) (items : List Text) :
    Action Unit :=
  match fuel with
  | 0 => tooLong
  | fuel + 1 => match items with
    | [] => return
    | t :: ts => do
      announce fuel head
      let s ← get
      if s.dialect = .rich then trace head.heading
      if ((s.vars.get? name).map Variable.reference).getD false then changeOwn name (·.holding (.text t))
      else assign name t
      if ← onceInLoop (runAll fuel c body) then runEach fuel c head name body ts
termination_by structural fuel

/-- Repeat commands as long as an expression is not zero; gives the status of the last repetition. -/
def runCounted (fuel : Nat) (c : Setting) (condition step : Word) (body : List Command) (status : Nat) :
    Action Nat :=
  match fuel with
  | 0 => tooLong
  | fuel + 1 => do
    let value ← if condition.isEmpty then pure (some 1) else commandNumber fuel condition
    match value with
    | none => return 1
    | some 0 => return status
    | some _ => do
      let goesOn ← onceInLoop (runAll fuel c body)
      let last := (← get).status
      if goesOn then do
        if !step.isEmpty then
          if (← commandNumber fuel step).isNone then return 1
        runCounted fuel c condition step body last
      else return last
termination_by structural fuel

/-- Run the commands beside the first pattern that covers the text, or of the next arm at once. -/
def runArms (fuel : Nat) (c : Setting) (atOnce : Bool) (t : Text)
    (arms : List (List Word × Text × List Command × ArmEnd)) : Action Unit :=
  match fuel with
  | 0 => tooLong
  | fuel + 1 => match arms with
    | [] => if atOnce then return else setStatus 0
    | (patterns, _, body, ending) :: rest => do
      let chosen ← if atOnce then pure true else coversAny fuel t patterns
      if chosen then do
        match body, ending with
        | [], .done => setStatus 0
        | [], _ => pure ()
        | xs, _ => runAll fuel (if ending = .done then c else c.notLast) xs
        match ending with
        | .done => return
        | .fallThrough => runArms fuel c true t rest
        | .tryMore => do
          if ← coversLater fuel t rest then runArms fuel c false t rest
      else runArms fuel c false t rest
termination_by structural fuel

/-- Does a pattern of one of the arms cover the text? -/
def coversLater (fuel : Nat) (t : Text) (arms : List (List Word × Text × List Command × ArmEnd)) : Action Bool :=
  match fuel with
  | 0 => tooLong
  | fuel + 1 => match arms with
    | [] => return false
    | (patterns, _, _, _) :: rest => do
      if ← coversAny fuel t patterns then return true
      coversLater fuel t rest
termination_by structural fuel

/-- Does one of the patterns cover the text? -/
def coversAny (fuel : Nat) (t : Text) (patterns : List Word) : Action Bool :=
  match fuel with
  | 0 => tooLong
  | fuel + 1 => match patterns with
    | [] => return false
    | w :: ws => do
      if ← coversFolded fuel t w then return true
      coversAny fuel t ws
termination_by structural fuel

/-- Does the pattern cover the text, perhaps without regard to case? -/
def coversFolded (fuel : Nat) (t : Text) (w : Word) : Action Bool :=
  match fuel with
  | 0 => tooLong
  | fuel + 1 => do
    let as ← expand fuel w
    let s ← get
    let marked := Atom.marked as
    if s.has "nocasematch" then
      let lower := marked.map fun (c, q) => (c.toLower, q)
      return (Pattern.ofMarked s.dialect true lower).covers (t.map Char.toLower)
    else return (Pattern.ofMarked s.dialect (s.has "extglob") marked).covers t
termination_by structural fuel

/-- Answer a condition, if it can be answered. -/
def ask (fuel : Nat) (q : Question) : Action (Option Bool) :=
  match fuel with
  | 0 => tooLong
  | fuel + 1 => match q with
    | .negated q => do return (← ask fuel q).map (!·)
    | .both a b => do
      match ← ask fuel a with
      | some true => ask fuel b
      | r => return r
    | .either a b => do
      match ← ask fuel a with
      | some false => ask fuel b
      | r => return r
    | .one op w => do
      let t ← expandText fuel w
      trace ("[[ " ++ op ++ ' ' :: Quoting.traced t ++ " ]]")
      return some (Condition.askOne (Builtin.world (← get)) op t)
    | .two op a b => do
      let t ← expandText fuel a
      let ms := Atom.marked (← expand fuel b)
      let u := ms.map (·.1)
      trace ("[[ " ++ Quoting.traced t ++ ' ' :: op ++ ' ' :: Quoting.traced u ++ " ]]")
      let s ← get
      match String.ofList op with
      | "==" => do return some (← coversMarked t ms)
      | "=" => do return some (← coversMarked t ms)
      | "!=" => do return some (!(← coversMarked t ms))
      | "=~" => match findGroups (s.has "nocasematch") (expressionText ms) t with
        | none => return none
        | some none => do
          assignContent "BASH_REMATCH" (.list [])
          return some false
        | some (some groups) => do
          assignContent "BASH_REMATCH" (.list ((List.range groups.length).zip groups))
          return some true
      | _ => match Condition.comparison? op with
        | some f => do
          let m ← evaluate t
          let n ← evaluate u
          return some (f m n)
        | none => return match Condition.askTwo .rich (Builtin.world s) op t u with
          | .ok answer => some answer
          | .error _ => none
termination_by structural fuel

/-- Run a command of words. -/
def runSimple (fuel : Nat) (c : Setting) (assignments : List Assignment) (words : List Word)
    (redirections : List Redirection) : Action Unit :=
  match fuel with
  | 0 => tooLong
  | fuel + 1 => do
    Unix.work commandWork
    modify fun s => { s with outputStatus := 0 }
    let errors := (← get).descriptors.lookup 2
    let (assignments, words) := (← get).withKeywords assignments words
    let texts ← expandCommand fuel words
    let d := (← get).dialect
    let refused := redirectionStatus d
    let after : Action Unit := modify fun s => { s with lastWord := texts.getLast?.getD [] }
    finally? (do
      match texts with
      | [] => keepingDescriptors (do
          if ← redirect fuel redirections then do
            let assigned ← assignAll fuel false assignments
            if assigned ≠ [] then traceWords errors assigned []
            setStatus (← get).outputStatus
          else setStatus refused)
      | name :: arguments =>
        let isFunction := (← get).functions.contains name
        let isSpecial := Builtin.isSpecial d name
        if name = "exec".toList && !isFunction then do
          if !(← redirect fuel redirections) then do
            setStatus refused
            match d with
            | .plain => throw .failed
            | .rich => return
          let assigned ← assignAll fuel (arguments ≠ []) assignments
          traceWords errors assigned texts
          runExec fuel arguments
        else keepingDescriptors (do
          if d = .rich && assignments.isEmpty then traceWords errors [] texts
          if !(← redirect fuel redirections) then do
            setStatus refused
            if isSpecial then throw .failed
          else if isSpecial then do
            let assigned ← assignAll fuel false assignments
            traceWords errors assigned texts
            runWords fuel c true texts
          else keepingVariables (assignments.map fun | .mk n _ _ _ => n) (do
            let assigned ← try assignAll fuel true assignments catch
              | .nextLine => pure []
              | stop => throw stop
            if d = .plain || !assignments.isEmpty then traceWords errors assigned texts
            runWords fuel c true texts
            declareArrays fuel words))) after
termination_by structural fuel

/-- Give variables the arrays that a declaration has for them. -/
def declareArrays (fuel : Nat) (words : List Word) : Action Unit :=
  match fuel with
  | 0 => tooLong
  | fuel + 1 => match words with
    | [] => return
    | w :: ws => do
      match arrayOf? w with
      | some (a, name) => do
        let locked := (((← get).holder? name).map Variable.readonly).getD false
        if locked then changeVariable name fun v => { v with readonly := false }
        let _ ← assignOne fuel a
        if locked then changeVariable name fun v => { v with readonly := true }
      | none => pure ()
      declareArrays fuel ws
termination_by structural fuel

/-- Become a program, or only keep changed descriptors. -/
def runExec (fuel : Nat) (arguments : List Text) : Action Unit :=
  match fuel with
  | 0 => tooLong
  | fuel + 1 => underName "exec" (do
    let (os, ts) ← match (← get).dialect with
      | .plain => Builtin.options "" "" arguments
      | .rich => try Builtin.options "cl" "a" arguments catch
        | .failed => return
        | stop => throw stop
    modify fun s => { s with command := [] }
    match ts with
    | [] => setStatus 0
    | name :: rest => do
      let title := ((os.reverse.find? (·.1 = 'a')).map (·.2)).getD name
      let title := if Builtin.has os 'l' then '-' :: title else title
      let started ← runProgram fuel ⟨false, true⟩ ⟨"exec: ", some title, Builtin.has os 'c'⟩ name rest
      if started then modify fun s => { s with traps := [] }
      if !started && (← get).has "execfail" then return
      throw .exit)
termination_by structural fuel

/-- Run a command that has a name: one that was defined, one of the shell, or a program. -/
def runWords (fuel : Nat) (c : Setting) (defined : Bool) (words : List Text) : Action Unit :=
  match fuel with
  | 0 => tooLong
  | fuel + 1 => do
    let s ← get
    let d := s.dialect
    match words with
    | [] => return
    | name :: arguments =>
      let isSpecial := Builtin.isSpecial d name
      match if defined then s.functions.get? name else none with
      | some f => runFunction fuel c name f arguments
      | none =>
        if Builtin.isName d name && !s.disabled.contains name then match String.ofList name with
          | "eval" => runRoutine (isSpecial && defined) name (runEval fuel c) arguments
          | "command" => runRoutine false name (runCommand fuel c) arguments
          | "builtin" => runRoutine false name (runBuiltin fuel c) arguments
          | "." => runRoutine (isSpecial && defined) name (runFile fuel) arguments
          | "source" => runRoutine false name (runFile fuel) arguments
          | "exec" => runExec fuel arguments
          | "mapfile" => runRoutine false name (Builtin.mapfile (runCall fuel)) arguments
          | "readarray" => runRoutine false name (Builtin.mapfile (runCall fuel)) arguments
          | _ => match Builtin.find? (catchUp fuel) d name with
            | some routine => runRoutine (isSpecial && defined) name routine arguments
            | none => setStatus 127
        else do
          let _ ← runProgram fuel c .usual name arguments
termination_by structural fuel

/-- Run a text as commands on the way. -/
def runCall (fuel : Nat) (t : Text) : Action Unit :=
  match fuel with
  | 0 => tooLong
  | fuel + 1 => do
    let s ← get
    runText fuel .usual (Source.ofText s.readingMode t s.line)
termination_by structural fuel

/-- Run a command that was given a name. -/
def runFunction (fuel : Nat) (c : Setting) (name : Text) (f : Function) (arguments : List Text) : Action Unit :=
  match fuel with
  | 0 => tooLong
  | fuel + 1 => do
    let s ← get
    if maxDepth < s.depth then throw (.killed Unix.faultSignal)
    if s.dialect = .plain then asFunction arguments (run fuel ⟨c.tested, false⟩ f.body)
    else do
      let stays (n : Nat) : Bool := n < Builtin.failure || Builtin.reaches s.toState n
      let put := s.traps.filter fun t => !stays t.1
      set { s with
        origin := f.origin
        frames := ⟨name, s.line, f.origin⟩ :: s.frames
        traps := s.traps.filter fun t => stays t.1 }
      finally? (asFunction arguments (do
          untilFinished (run fuel ⟨c.tested, false⟩ f.body)
          runTrap fuel Builtin.departure))
        (modify fun q => { q with
          origin := s.origin
          frames := s.frames
          line := s.line
          traps := (put.filter fun t => (q.traps.lookup t.1).isNone) ++ q.traps })
termination_by structural fuel

/-- Run a text that arguments form. -/
def runEval (fuel : Nat) (c : Setting) (arguments : List Text) : Action Nat :=
  match fuel with
  | 0 => tooLong
  | fuel + 1 => do
    let arguments := match (← get).dialect, arguments with
      | .rich, ['-', '-'] :: ts => ts
      | _, ts => ts
    let s ← get
    let text := Text.join [' '] arguments
    if maxDepth < s.level then throw (.killed Unix.faultSignal)
    let given := s.given
    set { s with level := s.level + 1, given := "eval: ", status := if arguments = [] then 0 else s.status }
    finally? (runText fuel ⟨c.tested, false⟩ (Source.ofText s.readingMode text (match s.dialect with
      | .plain => 1
      | .rich => s.line))) (modify fun q => { q with level := s.level, given := given })
    return (← get).status
termination_by structural fuel

/-- Run a command by its name without regard to definitions, or tell what the name stands for. -/
def runCommand (fuel : Nat) (c : Setting) (arguments : List Text) : Action Nat :=
  match fuel with
  | 0 => tooLong
  | fuel + 1 => do
    let (os, ts) ← Builtin.options "pvV" "" arguments
    let standard := Builtin.has os 'p'
    let rich := (← get).dialect = .rich
    if Builtin.has os 'v' then
      if rich then Builtin.forEach (Builtin.showMeaning standard) ts
      else match ts with
        | t :: _ => Builtin.showMeaning standard t
        | [] => return 0
    else if Builtin.has os 'V' then
      if rich then Builtin.forEach (Builtin.describe standard) ts
      else match ts with
        | t :: _ => Builtin.describe standard t
        | [] => return 0
    else if ts = [] then return 0
    else do
      let run : Action Unit := do
        modify fun s => { s with command := [] }
        runWords fuel c false ts
      if standard then keepingVariables ["PATH".toList] (do
        assign "PATH" Unix.shellPath
        run)
      else run
      return (← get).status
termination_by structural fuel

/-- Run a command of the shell without regard to definitions. -/
def runBuiltin (fuel : Nat) (c : Setting) (arguments : List Text) : Action Nat :=
  match fuel with
  | 0 => tooLong
  | fuel + 1 => do
    match arguments with
    | [] => return 0
    | name :: _ =>
      if Builtin.isName .rich name then do
        runWords fuel c false arguments
        return (← get).status
      else do
        protest (name ++ ": not a shell builtin")
        return 1
termination_by structural fuel

/-- Run the commands of a file in this shell. -/
def runFile (fuel : Nat) (arguments : List Text) : Action Nat :=
  match fuel with
  | 0 => tooLong
  | fuel + 1 => do
    let s ← get
    let plain := s.dialect = .plain
    let arguments := if arguments.head? = some ['-', '-'] then arguments.drop 1 else arguments
    match arguments with
    | [] =>
      if plain then return 0
      else do
        protest "filename argument required"
        Builtin.showUsage
        return 2
    | path :: rest => do
      let isFile (t : Text) : Bool := isThere s t
      let searched := if path.contains '/' then none
        else ((Text.split ':' (Builtin.directories s)).map (Unix.inDirectory · path)).find? isFile
      if plain && searched.isNone && !path.contains '/' then abort (path ++ ": not found")
      let target := searched.getD path
      match ← Unix.readPath target with
      | .error e => match s.dialect with
        | .plain => abort (cannotOpen .plain false target e)
        | .rich => do
          if e = "Is a directory".toList then protest (path ++ ": is a directory") else report (path ++ ": " ++ e)
          return 1
      | .ok t => do
        setStatus 0
        let level := s.level
        modify fun q => { q with level := level + 1, command := if plain then target else q.command }
        let given := if plain then [] else rest
        if !plain then modify fun q => { q with frames := ⟨"source", s.line, path⟩ :: q.frames }
        finally? (asFile given (if plain then none else some path) (do
            untilFinished (runText fuel .usual { Source.ofText s.readingMode t 1 with fromFile := plain })
            runTrap fuel Builtin.departure))
          (modify fun q => { q with
            level := level
            frames := s.frames
            line := if plain then q.line else s.line })
        return (← get).status
termination_by structural fuel

/-- Run a program; messages about its name say in which role it was given. Tells whether there was one. -/
def runProgram (fuel : Nat) (c : Setting) (m : Calling) (name : Text) (arguments : List Text) : Action Bool :=
  match fuel with
  | 0 => tooLong
  | fuel + 1 => do
    let s ← get
    let role := m.role
    let (found, path) := match s.dialect, s.remembered? name with
      | .rich, some path => (Unix.foundAt s.root s.cwd path, path)
      | _, _ => Unix.findProgram s.root s.cwd (Builtin.directories s) name
    let env : Dict Text := if m.bare then .empty else match s.dialect with
      | .plain => s.environment
      | .rich => (s.environment.insertAll (if role = [] then [] else s.levelAbove)).insert "_" path
    if (found.obstacle? s.root s.cwd).isSome then do
      let named := if (s.remembered? name).isSome && s.dialect = .rich then path else name
      setStatus (← refuseProgram role named path found)
      return false
    else if Unix.isTooLong arguments env then do
      report ((if s.dialect = .plain then role ++ name else path) ++ ": " ++ Unix.tooLongArguments)
      setStatus 126
      return false
    else do
      match s.dialect with
      | .plain => Builtin.remember name path
      | .rich => if role = [] then Builtin.rememberRun name path
      Unix.flush
      Unix.work programWork
      let (r, q) := (launch fuel s.dialect (!c.last || !s.traps.isEmpty) found (m.title.getD name) arguments).run.run
        { s.toProcess with env := env }
      modify fun s => { s with
        toSystem := q.toSystem
        arrived := q.arrived
        deadline := q.deadline }
      (← Unix.takeRaised).forM Builtin.receive
      match r with
      | .ok (.ok n) => setStatus n
      | .ok (.error n) =>
        if c.last && s.traps.isEmpty then throw (.killed n) else setStatus (← waitedStatus (.error n))
      | .error (.exited n) => setStatus n
      | .error (.killed n) => throw (.killed n)
      return true
termination_by structural fuel

/-- Run what was found under a name, perhaps in a process of its own; a file without an interpreter is read by a
shell. -/
def launch (fuel : Nat) (d : Dialect) (forks : Bool) (found : Unix.Found) (name : Text) (arguments : List Text) :
    Unix.Act (Except Nat Nat) :=
  match fuel with
  | 0 => return .error Unix.timeSignal
  | fuel + 1 => do
    let p ← get
    let under (name : Text) (a : Unix.Act Nat) : Unix.Act (Except Nat Nat) :=
      Unix.inside (fun p => { if forks then p.forked else p with name := name, held := [] }) a
    match Unix.resolveProgram p.root p.cwd Unix.maxInterpreters name found arguments with
    | some (program, name, arguments) => under name (match dialect? program with
      | some d => asShell d [] (runShell fuel arguments)
      | none => match Program.find? program with
        | some routine => routine (launch fuel .plain true) arguments
        | none => return 127)
    | none => match found with
      | .script path _ => under path (asShell d [] (runShell fuel (path :: arguments)))
      | _ => return .ok 127
termination_by structural fuel

/-- Do what is to be done on a condition, unless it is being done, which leaves the status as it is. -/
def runTrap (fuel : Nat) (n : Nat) : Action Unit :=
  match fuel with
  | 0 => tooLong
  | fuel + 1 => do
    let s ← get
    let isCommand := Builtin.failure ≤ n
    match s.traps.lookup n with
    | some (c :: cs) => if !(isCommand && s.handling.contains n) then do
      set { s with level := s.level + 1, handling := n :: s.handling }
      finally? (runText fuel .condition (Source.ofText s.readingMode (c :: cs) (if isCommand then s.line else 1)))
        (modify fun q => { q with level := s.level, handling := s.handling, line := s.line })
      setStatus s.status
    | _ => return
termination_by structural fuel

/-- Run what signals that have come ask for. -/
def runPending (fuel : Nat) : Action Unit :=
  match fuel with
  | 0 => tooLong
  | fuel + 1 => do
    let s ← get
    match s.arrived with
    | [] => return
    | n :: rest => do
      set { s with arrived := rest }
      runTrap fuel n
      runPending fuel
termination_by structural fuel

/-- Start a command that nobody waits for; one that takes time is put off until its time has come. -/
def startJob (fuel : Nat) (x : Command) : Action Unit :=
  match fuel with
  | 0 => tooLong
  | fuel + 1 => do
    let s ← get
    let number := s.nextNumber
    let (r, q) ← runCopy id (runJob fuel x)
    let (status, signal) := match r with
      | .ok n => (n, none)
      | .error n => (signalStatus n, some n)
    let takesTime := s.waited < q.waited
    if !takesTime then takeOver q
    let postponed := if takesTime then some (Postponed.mk x s.toState s.toProcess q.time) else none
    let ended := max q.time (s.time + jobWork)
    modify fun s => { s with
      jobs := s.withPlace ⟨number, 0, postponed, ended, false, status, signal, x.shown⟩
      nextNumber := max (number + 1) s.nextNumber
      lastJob := some number
      status := 0 }
termination_by structural fuel

/-- Run a job. -/
def runJob (fuel : Nat) (x : Command) : Action Unit :=
  match fuel with
  | 0 => tooLong
  | fuel + 1 => do
    point 0 (.device .null)
    runToEnd fuel (match x with
      | .subshell line body => do
        modify fun s => { s with line := line, loops := if s.dialect = .rich then 0 else s.loops }
        runAll fuel ⟨false, true⟩ body
      | x => run fuel ⟨false, true⟩ x)
termination_by structural fuel

/-- Run the jobs whose time has come. -/
def catchUp (fuel : Nat) (limit : Nat) : Action Unit :=
  match fuel with
  | 0 => tooLong
  | fuel + 1 => do
    let s ← get
    match firstDue limit s.jobs with
    | none => return
    | some (number, p) => do
      let started (now : Interpreter) : Interpreter :=
        { copied { now with
            toProcess := { p.process with toSystem := { now.toSystem with
              waited := p.process.waited
              worked := p.process.worked } }
            toState := p.state } with number := number }
      let (r, q) ← runCopy started (runJob fuel p.command)
      let (status, signal) := match r with
        | .ok n => (n, none)
        | .error n => (signalStatus n, some n)
      if limit < q.time then Builtin.changeJob number ({ · with postponed := some { p with due := q.time } })
      else do
        takeOver { q with waited := s.waited, worked := s.worked }
        Builtin.changeJob number ({ · with
          postponed := none
          ended := q.time
          status := status
          signal := signal })
      catchUp fuel limit
termination_by structural fuel

/-- Do something as a shell does it, and at its end what is to be done then. -/
def runToEnd (fuel : Nat) (a : Action Unit) : Action Unit :=
  match fuel with
  | 0 => tooLong
  | fuel + 1 => do
    let stop ← try do
        a
        runPending fuel
        pure none
      catch stop => pure (some stop)
    let lastWords : Action Unit := do
      let s ← get
      match s.traps.lookup 0 with
      | some (c :: cs) => do
        set { s with traps := s.traps.filter (·.1 ≠ 0), arrived := [], depth := 0, reading := 1 }
        let ended ← try do
            untilFinished (runText fuel .usual (Source.ofText s.readingMode (c :: cs) 1))
            pure false
          catch
            | .exit => pure true
            | .killed n => throw (.killed n)
            | _ => pure true
        if !ended then setStatus s.status
      | _ => return
    match stop with
    | some (.killed n) => do
      if (← get).dialect = .rich && n ≠ Unix.killSignal && n ≠ Unix.timeSignal then lastWords
      throw (.killed n)
    | _ => do
      lastWords
      catchUp fuel (Builtin.lastDue (← get).jobs)
termination_by structural fuel

/-- Run commands that the arguments hold, or the file that they name, or the standard input. -/
def runShell (fuel : Nat) (arguments : List Text) : Action Unit :=
  match fuel with
  | 0 => tooLong
  | fuel + 1 => do
    let rich := (← get).dialect = .rich
    let start : Action (Given × List Text) := do
      modify fun s => { s with line := 0 }
      startOptions (arguments.flatten.length + arguments.length + 1) .file arguments
    let (given, ts) ← try start catch _ => exitWith 2
    modify fun s => { s with line := 1 }
    let refuse (status : Nat) (plain : Text) (named : Text) : Action Unit := do
      let s ← get
      Unix.complain (s.name ++ (if rich then ": ".toList ++ named else ": 0: " ++ plain))
      exitWith status
    match given, ts with
    | .text, line :: rest => do
      modify fun s => { s with
        name := rest.head?.getD s.name
        origin := rest.head?.getD s.origin
        arguments := rest.drop 1
        text := some line
        given := "-c: " }
      let s ← get
      runToEnd fuel (untilFinished (runText fuel ⟨false, true⟩ (Source.ofText s.readingMode line 1)))
    | .text, [] => refuse 2 "-c requires an argument" "-c: option requires an argument"
    | .file, path :: rest => do
      let s ← get
      match ← Unix.readPath path with
      | .error e =>
        let isDir := e = "Is a directory".toList
        refuse (if !rich then 2 else if isDir then 126 else 127) (cannotOpen .plain false path e)
          (if isDir then path ++ ": " ++ path ++ ": " ++ e else path ++ ": " ++ e)
      | .ok t => do
        set { s with name := path, origin := path, arguments := rest, frames := [⟨mainName, 0, path⟩] }
        runToEnd fuel (untilFinished (runText fuel .usual (Source.ofFile s.readingMode t)))
    | _, ts => do
      let t ← Unix.readAll
      modify fun s => { s with arguments := ts }
      let s ← get
      runToEnd fuel (untilFinished (runText fuel .usual (Source.ofFile s.readingMode t)))
termination_by structural fuel

/-- Run the commands of a text line by line. -/
def runText (fuel : Nat) (c : Setting) (source : Source) : Action Unit :=
  match fuel with
  | 0 => tooLong
  | fuel + 1 =>
    if source.isFinished then return
    else do
      let s ← get
      match (source.readAs s.readingMode).next with
      | .error e => refuseText e
      | .ok (commands, rest) => do
        if s.has "verbose" then echoText source (source.rest.take (source.rest.length - rest.rest.length))
        rest.warnings.forM fun (line, t) =>
          Unix.complain (s.origin ++ ": line " ++ Text.ofNat line ++ ": warning: " ++ t)
        if !s.has "noexec" then
          try runAll fuel { c with last := c.last && rest.isFinished } commands catch
            | .nextLine => if 0 < s.nesting || s.dialect = .plain then throw .exit else pure ()
            | stop => throw stop
        if (← get).has "onecmd" && (← get).dialect = .rich then throw .exit
        runText fuel c { rest with warnings := [] }
termination_by structural fuel

end

end Rollout.Shell
