import Rollout.Machine.Shell.Builtin.Signals

/-!
Commands about jobs: commands that nobody waits for until they are waited for here. What a job still has to do
once its time has come is done by an action that is given how far the time has come.
-/

namespace Rollout.Shell.Builtin

/-- Does what the jobs have to do up to a time. -/
abbrev CatchUp := Nat → Action Unit

/-- When the last of the jobs will have ended. -/
def lastDue (jobs : List Job) : Nat := jobs.foldl (fun n j => max n ((j.postponed.map Postponed.due).getD j.ended)) 0

/-- Let the time come. -/
def waitUntil (catchUp : CatchUp) (time : Nat) : Action Unit := do
  catchUp time
  Unix.pass (time - (← get).time)

/-- The job with a number. -/
def jobOf? (s : Interpreter) (number : Nat) : Option Job := s.jobs.find? fun j => j.number = number

/-- Change the job with a number. -/
def changeJob (number : Nat) (f : Job → Job) : Action Unit :=
  modify fun s => { s with jobs := s.jobs.map fun (j : Job) => if j.number = number then f j else j }

/-- Wait for a job. -/
def waitFor (catchUp : CatchUp) : Nat → Nat → Action (Option Nat)
  | 0, _ => return none
  | fuel + 1, number => do
    match jobOf? (← get) number with
    | none => return none
    | some j => match j.postponed with
      | some p => do
        waitUntil catchUp p.due
        waitFor catchUp fuel number
      | none => do
        waitUntil catchUp j.ended
        if let (some n, .plain) := (j.signal, (← get).dialect) then
          if Unix.Signal.description n ≠ [] then mutter (Unix.Signal.description n)
        let rich := (← get).dialect = .rich
        changeJob number fun j => { j with
          awaited := true
          signal := if rich then j.signal else none
          place := if rich then 0 else j.place }
        return some j.status

/-- How often a job that was to end may go on. -/
def maxDelays : Nat := 1000

/-- Wait for all jobs. -/
def waitForAll (catchUp : CatchUp) : Action Nat := do
  let numbers := (← get).jobs.map (·.number)
  if (← get).dialect = .rich then
    numbers.forM fun n => do let _ ← waitFor catchUp maxDelays n
    modify fun s => { s with jobs := [] }
  else do
    waitUntil catchUp (lastDue (← get).jobs)
    modify fun s => { s with jobs := s.jobs.map fun (j : Job) => { j with awaited := true } }
  return 0

/-- Wait for a job that a text names. -/
def waitForNamed (catchUp : CatchUp) (t : Text) : Action Nat := do
  let s ← get
  let known := match t with
    | '%' :: _ => jobNumber? s t
    | t => Text.toNat? t
  match known with
  | none => match s.dialect, t with
    | .plain, '%' :: _ => abort ("No such job: " ++ t)
    | .plain, _ => abort ("Illegal number: " ++ t)
    | .rich, '%' :: _ => do
      protest (t ++ ": no such job")
      return 127
    | .rich, _ => do
      protest ('`' :: t ++ "': not a pid or valid job spec")
      return 1
  | some number => match ← waitFor catchUp maxDelays number with
    | some status => return status
    | none => do
      if s.dialect = .rich then protest ("pid " ++ t ++ " is not a child of this shell")
      return 127

/-- Wait for jobs; the status of the last one counts. -/
def wait (catchUp : CatchUp) : Routine := fun ts => do
  let (os, ts) ← match (← get).dialect with
    | .plain => options "" "" ts
    | .rich => options "fn" "p" ts
  let s ← get
  let keeper := (os.find? (·.1 = 'p')).map (·.2)
  match keeper with
  | some name => modify fun s => { s with toState := s.without name }
  | none => pure ()
  if has os 'n' then
    let named := ts.filterMap fun t => (jobNumber? s t).or (Text.toNat? t)
    let known := s.jobs.filter fun j => !j.awaited && (ts = [] || named.contains j.number)
    match known with
    | [] => return 127
    | j :: _ => do
      let finish (j : Job) : Nat := (j.postponed.map Postponed.due).getD j.ended
      let first := known.foldl (fun (a b : Job) => if finish b < finish a then b else a) j
      let status ← waitFor catchUp maxDelays first.number
      match keeper with
      | some name => assign name (Text.ofNat first.number)
      | none => pure ()
      return status.getD 127
  else if ts = [] then waitForAll catchUp
  else do
    let status ← last ts
    match keeper, ts.getLast?.bind fun t => (jobNumber? s t).or (Text.toNat? t) with
    | some name, some n => assign name (Text.ofNat n)
    | _, _ => pure ()
    return status
where
  /-- Wait for jobs one after another. -/
  last : List Text → Action Nat
    | [] => return 0
    | [t] => waitForNamed catchUp t
    | t :: ts => do
      let _ ← waitForNamed catchUp t
      last ts

/-- Is the job still running at a time? -/
def isRunning (now : Nat) (j : Job) : Bool := j.postponed.isSome || now < j.ended

/-- The state of a job at a time, as it is shown. -/
def stateOf (now : Nat) (j : Job) : Text :=
  if isRunning now j then "Running"
  else match j.signal, j.status with
    | some n, _ => Unix.Signal.description n
    | none, 0 => "Done"
    | none, n => "Done(" ++ Text.ofNat n ++ [')']

/-- A text with blanks up to a width. -/
def padded (width : Nat) (t : Text) : Text := t ++ List.replicate (width - t.length) ' '

/-- Show a job with a mark. -/
def showJob (numbers long : Bool) (mark : Char) (j : Job) : Action Unit := do
  let s ← get
  let number : Text := if long then Text.ofNat j.number ++ [' '] else []
  let state := stateOf s.time j
  if numbers then print (Text.ofNat j.number)
  else match s.dialect with
    | .plain => print ('[' :: Text.ofNat j.place ++ "] " ++ mark :: ' ' :: number ++ padded 27 state)
    | .rich => print ('[' :: Text.ofNat j.place ++ ']' :: mark :: ' ' :: (if long then [] else [' ']) ++ number
      ++ padded 24 state ++ j.shown ++ if isRunning s.time j then " &".toList else [])

/-- Jobs, the latest first, with the marks of the latest two. -/
def markedJobs (js : List Job) : List (Char × Job) := ('+' :: '-' :: List.replicate js.length ' ').zip js.reverse

/-- Show the jobs, all or those that are named; the ones that have ended are forgotten. -/
def jobs : Routine := fun ts => do
  let s ← get
  let (os, ts) ← match s.dialect with
    | .plain => options "lp" "" ts
    | .rich => options "lpnrs" "" ts
  let marked := markedJobs (s.jobs.filter (·.place ≠ 0))
  let ordered := match s.dialect with
    | .plain => marked
    | .rich => marked.mergeSort fun a b => a.2.place ≤ b.2.place
  let display (js : List (Char × Job)) : Action Unit :=
    (js.filter fun (_, j) => (!has os 'r' || isRunning s.time j) && !has os 's').forM fun (mark, j) =>
      showJob (has os 'p') (has os 'l') mark j
  let rec named : List Text → Action Nat
    | [] => return 0
    | t :: ts => match jobNumber? s t with
      | some n => do
        display (ordered.filter fun (_, j) => j.number = n)
        named ts
      | none => match s.dialect with
        | .plain => abort ("No such job: " ++ t)
        | .rich => do
          protest (t ++ ": no such job")
          let _ ← named ts
          return 1
  let status ← if ts = [] then do
      display ordered
      pure 0
    else named ts
  modify fun s => { s with jobs := s.jobs.filter (isRunning s.time) }
  return status

/-- Refuse to go on with a job, since no terminal controls jobs. -/
def resume : Routine := fun ts => do
  let s ← get
  match s.dialect with
  | .plain => match ts with
    | [] => abort "No current job"
    | t :: _ => match jobNumber? s t with
      | some _ => abort ("job " ++ t ++ " not created under job control")
      | none => abort ("No such job: " ++ t)
  | .rich => do
    protest "no job control"
    return 1

/-- Forget jobs. -/
def disown : Routine := fun ts => do
  let (os, ts) ← options "har" "" ts
  let s ← get
  let forget (number : Nat) : Action Unit :=
    if has os 'h' then pure () else changeJob number fun j => { j with place := 0 }
  let jobs := s.jobs.filter (·.place ≠ 0)
  match ts with
  | [] =>
    if has os 'a' || has os 'r' then do
      jobs.forM fun j => forget j.number
      return 0
    else match jobs.getLast? with
      | some j => do
        forget j.number
        return 0
      | none => do
        protest "current: no such job"
        return 1
  | ts => forEach (fun t => do
    match (jobNumber? s t).or ((Text.toNat? t).filter fun n => jobs.any (·.number = n)) with
    | some n => do
      forget n
      return 0
    | none => do
      protest (t ++ ": no such job")
      return 1) ts

/-- Refuse to pause, since no terminal controls jobs. -/
def suspend : Routine := fun ts => do
  let _ ← options "f" "" ts
  protest "cannot suspend: no job control"
  return 1

/-- Refuse to end a shell that nobody has logged in to. -/
def logout : Routine := fun _ => do
  protest "not login shell: use `exit'"
  return 1

end Rollout.Shell.Builtin
