import Rollout.Machine.Program.Sorting

/-!
What can be done with lines that are in order: counting equal ones, and comparing or joining two files. It is noticed
when lines are out of order, as soon as that makes a difference.
-/

namespace Rollout.Program

open Unix

/-! ### Equal lines -/

/-- The runs of equal lines. -/
def runsOf (same : Text → Text → Bool) : List Text → List (List Text)
  | [] => []
  | a :: rest => match runsOf same rest with
    | (b :: run) :: runs => if same a b then (a :: b :: run) :: runs else [a] :: (b :: run) :: runs
    | runs => [a] :: runs

/-- The old options of `uniq` as new ones: a number behind a dash or a plus sign. -/
def withSkips : List Text → List Text
  | [] => []
  | ['-', '-'] :: ts => ['-', '-'] :: ts
  | ('-' :: c :: cs) :: ts =>
    if c.isDigit && cs.all Char.isDigit then ['-', 'f'] :: (c :: cs) :: withSkips ts else ('-' :: c :: cs) :: withSkips ts
  | ('+' :: c :: cs) :: ts =>
    if c.isDigit && cs.all Char.isDigit then ['-', 's'] :: (c :: cs) :: withSkips ts else ('+' :: c :: cs) :: withSkips ts
  | t :: ts => t :: withSkips ts

/-- What is written of a run of equal lines, if only some runs are, or counts are. -/
def shownRun (a : Arguments) (run : List Text) : List Text :=
  let counted (line : Text) : Text :=
    if a.has "c" then padLeft 7 (Text.ofNat run.length) ++ ' ' :: line else line
  if run.length = 1 then (if a.has "d" || a.has "D" then [] else run.map counted)
  else if a.has "D" then run.dropLast ++ (if a.has "u" then [] else run.drop (run.length - 1))
  else if a.has "u" then []
  else (run.take 1).map counted

/-- Write each of several equal lines once. -/
def uniq : Routine := fun ts => do
  let a ← arguments [.plain 'c' "count", .plain 'd' "repeated", .plain 'D' "",
    ⟨none, some "all-repeated".toList, .optional⟩, ⟨none, some "group".toList, .optional⟩, .valued 'f' "skip-fields",
    .plain 'i' "ignore-case", .valued 's' "skip-chars", .plain 'u' "unique", .plain 'z' "zero-terminated",
    .valued 'w' "check-chars"] true 1 (withSkips ts)
  let number (key what : String) : Act (Option Nat) := do
    match a.value? key with
    | none => return none
    | some t => match Text.toNat? t with
      | some n => return some n
      | none => giveUp 1 (t ++ ": invalid number of " ++ what)
  let separations ← (a.values "all-repeated").mapM fun t =>
    if t = [] then pure "none" else choose 1 "--all-repeated" [["none"], ["prepend"], ["separate"]] t
  let groups ← (a.values "group").mapM fun t =>
    if t = [] then pure "separate" else choose 1 "--group" [["prepend"], ["append"], ["separate"], ["both"]] t
  let all := a.has "D" || a.has "all-repeated"
  let a := if all then a.addOption ['D'] [] else a
  let fields ← number "f" "fields to skip"
  let skipped ← number "s" "bytes to skip"
  let checked ← number "w" "bytes to compare"
  match a.operands with
  | _ :: _ :: extra :: _ => misused 1 ("extra operand " ++ inQuotes extra)
  | _ => pure ()
  if groups ≠ [] && (all || a.has "c" || a.has "d" || a.has "u") then
    misused 1 "--group is mutually exclusive with -c/-d/-D/-u"
  if all && a.has "c" then
    misused 1 "printing all duplicated lines and repeat counts is meaningless"
  let part (line : Text) : Text :=
    let t := (afterFields none (fields.getD 0) line).drop (skipped.getD 0)
    let t := match checked with
      | some n => t.take n
      | none => t
    if a.has "i" then t.map Char.toLower else t
  let path := a.operands.head?.getD ['-']
  match ← contentOf path with
  | .error e =>
    giveUp 1 (if e = "Is a directory".toList then "error reading " ++ inShellQuotes path ++ ": " ++ e
      else nameOf path ++ ": " ++ e)
  | .ok t => do
    let stop := if a.has "z" then '\x00' else '\n'
    let lines := (piecesEndingWith stop t).map (withoutEnd stop)
    let runs := runsOf (fun x y => part x = part y) lines
    let text (ls : List Text) : Text := ls.flatMap (· ++ [stop])
    let out : Text := match groups.getLast? with
      | some "prepend" => runs.flatMap fun r => stop :: text r
      | some "append" => runs.flatMap fun r => text r ++ [stop]
      | some "both" => (runs.flatMap fun r => stop :: text r) ++ (if runs = [] then [] else [stop])
      | some _ => Text.join [stop] (runs.map text)
      | none =>
        let shown := runs.map fun r => (decide (1 < r.length), text (shownRun a r))
        match separations.getLast? with
        | some "prepend" => shown.flatMap fun (several, t) => if several then stop :: t else t
        | some "separate" => Text.join [stop] ((shown.filter (·.1)).map (·.2))
        | _ => shown.flatMap (·.2)
    match a.operands with
    | [_, target] => match ← openForWriting false target with
      | .ok d => let _ ← writeTo out d
      | .error e => giveUp 1 (nameOf target ++ ": " ++ e)
    | _ => say out
    return 0

/-! ### Two files -/

/-- The contents of two files. -/
def twoFiles (status : Nat) : List Text → Act (Text × Text)
  | [x, y] => do
    let read (path : Text) : Act Text := do
      match ← contentOf path with
      | .ok t => return t
      | .error e => giveUp status (nameOf path ++ ": " ++ e)
    let a ← read x
    return (a, ← read y)
  | [] => misused status "missing operand"
  | [x] => misused status ("missing operand after " ++ inQuotes x)
  | _ :: _ :: z :: _ => misused status ("extra operand " ++ inQuotes z)

/-- How it is checked whether lines are in order. -/
inductive OrderCheck
  /-- As soon as a line has no partner. -/
  | whenUnpaired
  /-- Always. -/
  | always
  /-- Never. -/
  | never
  deriving DecidableEq

/-- The check that options ask for. -/
def orderCheckOf (a : Arguments) : OrderCheck :=
  match a.last? ["check-order", "nocheck-order"] with
  | some t => if t = "check-order".toList then .always else .never
  | none => .whenUnpaired

/-- A file from which lines are taken one after another. -/
structure Taking (α : Type) where
  /-- The lines that were taken last, the latest first. -/
  taken : List α
  /-- The lines that are left. -/
  left : List α
  /-- The number of lines that were taken. -/
  count : Nat
  /-- Has it been said that the lines are out of order? -/
  warned : Bool

/-- The file whose lines are all left, apart from the first one. -/
def Taking.start {α : Type} (ls : List α) : Taking α := ⟨(ls.take 1), ls.drop 1, (ls.take 1).length, false⟩

/-- The line that was taken last, as long as there was one. -/
def Taking.current? {α : Type} (t : Taking α) : Option α := t.taken.head?

/-- Lines of two files in order, each with the number of the column where it is shown; and the numbers of the files
that are found to be out of order, with how many columns come before that. -/
def mergeColumns (check : OrderCheck) :
    Nat → Bool → Taking Text → Taking Text → List (Nat × Text) × List (Nat × Nat)
  | 0, _, _, _ => ([], [])
  | fuel + 1, unpaired, x, y =>
    let next : Option (Ordering × Text) := match x.current?, y.current? with
      | none, none => none
      | some a, none => some (.lt, a)
      | none, some b => some (.gt, b)
      | some a, some b => some (compareTexts a b, if compareTexts a b == .lt then a else b)
    match next with
    | none => ([], [])
    | some (order, line) =>
      let unpaired := unpaired || order != .eq
      let checked := check = .always || (check = .whenUnpaired && unpaired)
      let step (steps : Bool) (t : Taking Text) : Taking Text × Bool :=
        if !steps then (t, false)
        else
          let recent := match t.left, t.taken with
            | b :: _, a :: _ => some (a, b)
            | [], b :: a :: _ => some (a, b)
            | _, _ => none
          let wrong := checked && !t.warned && recent.any fun (a, b) => b < a
          let taken := match t.left with
            | b :: _ => b :: t.taken.take 1
            | [] => []
          (⟨taken, t.left.drop 1, t.count + 1, t.warned || wrong⟩, wrong)
      let (x, wrongX) := step (order != .gt) x
      let (y, wrongY) := step (order != .lt) y
      let column := match order with
        | .lt => 0
        | .gt => 1
        | .eq => 2
      let found := (if wrongX then [1] else []) ++ (if wrongY && !(wrongX && check = .always) then [2] else [])
      let (rows, faults) :=
        if check = .always && found ≠ [] then ([], []) else mergeColumns check fuel unpaired x y
      ((column, line) :: rows, found.map (fun n => (n, 1)) ++ faults.map fun (n, k) => (n, k + 1))

/-- Show which lines two files have in common. -/
def comm : Routine := fun ts => do
  let a ← arguments (Flag.letters "123" ++ ([.wordOnly "check-order", .wordOnly "nocheck-order",
    .valuedWord "output-delimiter", .wordOnly "total", .plain 'z' "zero-terminated"] : List Flag)) true 1 ts
  let delimiters := a.values "output-delimiter"
  if delimiters.any (some · ≠ delimiters.head?) then giveUp 1 "multiple output delimiters specified"
  let (x, y) ← twoFiles 1 a.operands
  let hidden := ["1", "2", "3"].map a.has
  let delimiter := match delimiters.head? with
    | none => ['\t']
    | some [] => ['\x00']
    | some t => t
  let stop := if a.has "z" then '\x00' else '\n'
  let linesIn (t : Text) : List Text := (piecesEndingWith stop t).map (withoutEnd stop)
  let (rows, faults) := mergeColumns (orderCheckOf a) (x.length + y.length + 1) false
    (.start (linesIn x)) (.start (linesIn y))
  say (rows.flatMap fun (column, line) =>
    if hidden.getD column false then []
    else ((hidden.take column).filter (!·)).flatMap (fun _ => delimiter) ++ line ++ [stop])
  faults.forM fun (n, _) => grumble ("file " ++ Text.ofNat n ++ " is not in sorted order")
  if faults ≠ [] && orderCheckOf a = .always then return 1
  if a.has "total" then
    let count (column : Nat) : Text := Text.ofNat (rows.filter (·.1 = column)).length
    say (Text.join delimiter [count 0, count 1, count 2, "total".toList] ++ [stop])
  if faults ≠ [] then
    grumble "input is not in sorted order"
    return 1
  return 0

/-! ### Joining -/

/-- The fields of a line, between separators or between blanks. -/
def joinFields (separator : Option Char) (line : Text) : List Text :=
  if line = [] then []
  else match separator with
    | some '\n' => [line]
    | some c => Text.split c line
    | none =>
      let rec words : Nat → Text → List Text
        | 0, _ => []
        | fuel + 1, t =>
          let word := t.takeWhile (!isBlank ·)
          match t.drop word.length with
          | [] => [word]
          | rest => word :: match rest.dropWhile isBlank with
            | [] => [[]]
            | next => words fuel next
      match line.dropWhile isBlank with
      | [] => []
      | t => words t.length t

/-- A line that is joined with others: its text and its fields. -/
abbrev JoinLine := Text × List Text

/-- How lines are joined. -/
structure Joint where
  /-- The separator of fields, if it is not blanks. -/
  separator : Option Char
  /-- The numbers of fields before the one that has to be the same, in either file. -/
  keys : Nat × Nat
  /-- What is written in place of an empty field. -/
  filler : Text
  /-- The fields that are written, each of a file or of both. -/
  form : Option (List (Nat × Nat))
  /-- As many fields as the first line of either file has are written. -/
  counts : Option (Nat × Nat)
  /-- Do small and great letters count as the same? -/
  fold : Bool

namespace Joint

/-- A field of a line. -/
def field (j : Joint) (n : Nat) (line : Option JoinLine) : Text :=
  match line.bind (·.2[n]?) with
  | some [] => j.filler
  | none => j.filler
  | some t => t

/-- The field that has to be the same. -/
def key (j : Joint) (second : Bool) (line : JoinLine) : Text :=
  let t := line.2.getD (if second then j.keys.2 else j.keys.1) []
  if j.fold then t.map Char.toLower else t

/-- Two lines joined into one, of which one may be missing. -/
def row (j : Joint) (x y : Option JoinLine) : Text :=
  let common : Text := match x with
    | some _ => j.field j.keys.1 x
    | none => j.field j.keys.2 y
  let others (count : Option Nat) (key : Nat) (line : Option JoinLine) : List Text :=
    let n := count.getD ((line.map (·.2.length)).getD 0)
    ((List.range n).filter (· ≠ key)).map fun i => j.field i line
  let fields := match j.form with
    | some form => form.map fun (file, n) =>
      if file = 0 then common else if file = 1 then j.field n x else j.field n y
    | none => common :: others (j.counts.map (·.1)) j.keys.1 x ++ others (j.counts.map (·.2)) j.keys.2 y
  Text.join [j.separator.getD ' '] fields

end Joint

/-- Which lines without partners are written, and whether those with partners are. -/
structure JoinWish where
  /-- Those of the first file. -/
  first : Bool
  /-- Those of the second one. -/
  second : Bool
  /-- Those with partners. -/
  paired : Bool

/-- What is known while two files are joined. -/
structure Joining where
  /-- The first file. -/
  x : Taking JoinLine
  /-- The second one. -/
  y : Taking JoinLine
  /-- Has a line no partner? -/
  unpaired : Bool
  /-- What is said about lines that are out of order, the latest first. -/
  faults : List Text
  /-- What is written, the latest first. -/
  rows : List Text

/-- Go on to the next line of a file, and check whether it is in order. -/
def advanceTaking (check : OrderCheck) (name : Text) (key : JoinLine → Text) (unpaired : Bool)
    (t : Taking JoinLine) : Taking JoinLine × Option Text :=
  match t.left with
  | [] => ({ t with taken := [] }, none)
  | b :: left =>
    let wrong := (check = .always || (check = .whenUnpaired && unpaired)) && !t.warned
      && t.taken.head?.any fun a => key b < key a
    (⟨[b], left, t.count + 1, t.warned || wrong⟩,
      if wrong then some (nameOf name ++ ':' :: Text.ofNat (t.count + 1) ++ ": is not sorted: " ++ b.1) else none)

/-- Join lines as long as both files have some; the fuel bounds the number of lines. -/
def joinLines (j : Joint) (w : JoinWish) (check : OrderCheck) (names : Text × Text) : Nat → Joining → Joining
  | 0, s => s
  | fuel + 1, s =>
    let stepX (s : Joining) : Joining :=
      let (x, fault) := advanceTaking check names.1 (j.key false) s.unpaired s.x
      { s with
        x := x
        faults := fault.toList ++ s.faults }
    let stepY (s : Joining) : Joining :=
      let (y, fault) := advanceTaking check names.2 (j.key true) s.unpaired s.y
      { s with
        y := y
        faults := fault.toList ++ s.faults }
    -- all lines with the same key
    let rec gather (key : Text) (second : Bool) : Nat → Joining → List JoinLine × Joining
      | 0, s => ([], s)
      | fuel + 1, s =>
        match (if second then s.y else s.x).current? with
        | some line =>
          if j.key second line = key then
            let (more, s) := gather key second fuel (if second then stepY s else stepX s)
            (line :: more, s)
          else ([], s)
        | none => ([], s)
    if check = .always && s.faults ≠ [] then s
    else match s.x.current?, s.y.current? with
      | some a, some b =>
        let (m, n) := (j.key false a, j.key true b)
        if m < n then
          let s := stepX { s with rows := if w.first then j.row (some a) none :: s.rows else s.rows }
          joinLines j w check names fuel { s with unpaired := true }
        else if n < m then
          let s := stepY { s with rows := if w.second then j.row none (some b) :: s.rows else s.rows }
          joinLines j w check names fuel { s with unpaired := true }
        else
          let (xs, s) := gather m false (fuel + 1) s
          let (ys, s) := gather m true (fuel + 1) s
          if check = .always && s.faults ≠ [] then s
          else
            let rows := xs.flatMap fun a => ys.map fun b => j.row (some a) (some b)
            joinLines j w check names fuel { s with rows := if w.paired then rows.reverse ++ s.rows else s.rows }
      | some a, none =>
        let s := { s with rows := if w.first then j.row (some a) none :: s.rows else s.rows }
        joinLines j w check names fuel (stepX s)
      | none, some b =>
        let s := { s with rows := if w.second then j.row none (some b) :: s.rows else s.rows }
        joinLines j w check names fuel (stepY s)
      | none, none => s

/-- The fields that are written: each with the number of its file, where 0 stands for both. -/
def joinForm (t : Text) : Except Text (List (Nat × Nat)) :=
  ((Text.split ',' (t.map fun c => if isBlank c then ',' else c)).filter (· ≠ [])).mapM fun part =>
    match part with
    | ['0'] => .ok (0, 0)
    | '0' :: _ => .error ("invalid field specifier: " ++ inQuotes part)
    | c :: '.' :: digits =>
      if c ≠ '1' && c ≠ '2' then .error ("invalid file number in field spec: " ++ inQuotes part)
      else match Text.toNat? digits with
        | some 0 => .error ("invalid field number: " ++ inQuotes digits)
        | some n => .ok (c.toNat - '0'.toNat, n - 1)
        | none => .error ("invalid field number: " ++ inQuotes digits)
    | c :: _ =>
      if c ≠ '1' && c ≠ '2' then .error ("invalid file number in field spec: " ++ inQuotes part)
      else .error ("invalid field specifier: " ++ inQuotes part)
    | [] => .ok (0, 0)

/-- Join lines of two files that have a field in common. -/
def join : Routine := fun ts => do
  let a ← arguments [.valued 'a' "", .valued 'e' "", .plain 'i' "ignore-case", .valued 'j' "", .valued '1' "",
    .valued '2' "", .valued 'o' "", .valued 't' "", .valued 'v' "", .plain 'z' "zero-terminated",
    .wordOnly "check-order", .wordOnly "nocheck-order", .wordOnly "header"] true 1 ts
  let files ← (a.values "a" ++ a.values "v").mapM fun t =>
    if t = ['1'] || t = ['2'] then pure t else giveUp 1 ("invalid field number: " ++ inQuotes t)
  let key (own : String) : Act Nat := do
    let fields ← (a.values "j" ++ a.values own).mapM fun t => match Text.toNat? t with
      | some 0 => giveUp 1 ("invalid field number: " ++ inQuotes t)
      | some n => pure (n - 1)
      | none => giveUp 1 ("invalid field number: " ++ inQuotes t)
    match fields.find? fun n => some n ≠ fields.head? with
    | some n =>
      giveUp 1 ("incompatible join fields " ++ Text.ofNat (fields.headD 0) ++ ", " ++ Text.ofNat n)
    | none => return fields.headD 0
  let keys := (← key "1", ← key "2")
  let fillers := a.values "e"
  if fillers.any (some · ≠ fillers.head?) then giveUp 1 "conflicting empty-field replacement strings"
  let separators ← (a.values "t").mapM fun t => match t with
    | [] => pure '\n'
    | [c] => pure c
    | ['\\', '0'] => pure '\x00'
    | t => giveUp 1 ("multi-character tab " ++ inQuotes t)
  if separators.any (some · ≠ separators.head?) then giveUp 1 "incompatible tabs"
  let isAuto := a.values "o" = ["auto".toList]
  let forms ← (if isAuto then [] else a.values "o").mapM fun t => match joinForm t with
    | .ok form => pure form
    | .error e => giveUp 1 e
  let stop := if a.has "z" then '\x00' else '\n'
  let separator := separators.head?
  match a.operands with
  | [['-'], ['-']] => giveUp 1 "both files cannot be standard input"
  | _ => pure ()
  let (x, y) ← twoFiles 1 a.operands
  let names := (a.operands.headD [], a.operands.getD 1 [])
  let linesIn (t : Text) : List JoinLine :=
    (piecesEndingWith stop t).map fun l => (withoutEnd stop l, joinFields separator (withoutEnd stop l))
  let (xs, ys) := (linesIn x, linesIn y)
  let count (ls : List JoinLine) : Nat := (ls.head?.map (·.2.length)).getD 0
  let joint : Joint := ⟨separator, keys, fillers.headD [], if forms = [] then none else some forms.flatten,
    if isAuto then some (count xs, count ys) else none, a.has "i"⟩
  let wish : JoinWish := ⟨files.contains ['1'], files.contains ['2'], !a.has "v"⟩
  let titled := a.has "header" && (xs ≠ [] || ys ≠ [])
  let title := if titled then [joint.row xs.head? ys.head?] else []
  let opened (ls : List JoinLine) : Taking JoinLine :=
    let t := Taking.start (if titled then ls.drop 1 else ls)
    { t with count := if titled then t.count + 1 else t.count }
  let start : Joining := ⟨opened xs, opened ys, false, [], []⟩
  let check := orderCheckOf a
  let done := joinLines joint wish check names (xs.length + ys.length + 1) start
  say ((title ++ done.rows.reverse).flatMap (· ++ [stop]))
  done.faults.reverse.forM fun e => grumble e
  if done.faults ≠ [] then
    if check ≠ .always then grumble "input is not in sorted order"
    return 1
  return 0

/-! ### Order from pairs -/

/-- Names of which some come before others. -/
structure Precedence where
  /-- The names in order. -/
  names : Array Text
  /-- For each name the ones that come after it, the latest first. -/
  followers : Array (List Nat)
  /-- For each name how many come before it. -/
  before : Array Nat
  /-- The names that have been written. -/
  written : Array Bool

namespace Precedence

/-- What pairs of names say. -/
def ofPairs (words : List Text) (pairs : List (Text × Text)) : Precedence :=
  let names := (firstOfEach (· = ·) (words.mergeSort fun x y => !decide (y < x))).toArray
  let number (t : Text) : Nat := (names.findIdx? (· = t)).getD 0
  let numbered := (pairs.filter fun (x, y) => x ≠ y).map fun (x, y) => (number x, number y)
  { names := names
    followers := numbered.foldl (fun fs (x, y) => fs.modify x (y :: ·)) (Array.replicate names.size [])
    before := numbered.foldl (fun ns (_, y) => ns.modify y (· + 1)) (Array.replicate names.size 0)
    written := Array.replicate names.size false }

/-- The names that nothing comes before, in order. -/
def free (p : Precedence) : List Nat :=
  (List.range p.names.size).filter fun i => p.before.getD i 0 = 0 && !(p.written.getD i true)

/-- Write names that nothing comes before, and those that become free by that. -/
def writeFree : Nat → Precedence → List Nat → List Text × Precedence
  | 0, p, _ => ([], p)
  | _, p, [] => ([], p)
  | fuel + 1, p, i :: queue =>
    let step (s : Precedence × List Nat) (j : Nat) : Precedence × List Nat :=
      let n := s.1.before.getD j 0 - 1
      ({ s.1 with before := s.1.before.modify j fun _ => n }, if n = 0 then s.2 ++ [j] else s.2)
    let (next, queue) := (p.followers.getD i []).foldl step ({ p with written := p.written.modify i fun _ => true }, queue)
    let (ts, next) := writeFree fuel next queue
    (p.names.getD i [] :: ts, next)

/-- Look for a loop: the chain of names that lead to each other backwards, the latest first. -/
def findLoop (p : Precedence) : Nat → List Nat → List Nat → Option (List Nat × Nat)
  | 0, _, _ => none
  | fuel + 1, chain, [] => findLoop p fuel chain (List.range p.names.size)
  | fuel + 1, chain, k :: ks =>
    if p.before.getD k 0 = 0 then findLoop p fuel chain ks
    else match chain with
      | [] => findLoop p fuel [k] ks
      | latest :: _ =>
        if !(p.followers.getD k []).contains latest then findLoop p fuel chain ks
        -- the first name of the chain ends a loop only when it is met the second time
        else if chain.dropLast.contains k then some (chain, k)
        else findLoop p fuel (k :: chain) ks

/-- The names of a loop, and what is left when it is broken. -/
def breakLoop (p : Precedence) : List Text × Precedence :=
  match p.findLoop ((p.names.size + 1) * (p.names.size + 2)) [] (List.range p.names.size) with
  | none => ([], p)
  | some (chain, k) =>
    let latest := chain.headD 0
    let shown := chain.takeWhile (· ≠ k) ++ [k]
    (shown.map fun i => p.names.getD i [], { p with
      followers := p.followers.modify k (·.erase latest)
      before := p.before.modify latest (· - 1) })

/-- All names, so that each comes after those that come before it; and the loops that are broken for that. -/
def ordered : Nat → Precedence → List Text × List (List Text)
  | 0, _ => ([], [])
  | fuel + 1, p =>
    let (ts, p) := writeFree (p.names.size + 1) p p.free
    if p.written.all id then (ts, [])
    else
      let (loop, p) := p.breakLoop
      let (more, loops) := ordered fuel p
      (ts ++ more, loop :: loops)

end Precedence

/-- Write names in an order that pairs of them allow. -/
def tsort : Routine := fun ts => do
  let a ← arguments [] true 1 ts
  let path ← match a.operands with
    | [] => pure ['-']
    | [path] => pure path
    | _ :: extra :: _ => misused 1 ("extra operand " ++ inQuotes extra)
  match ← contentOf path with
  | .error e => giveUp 1 (nameOf path ++ (if e = "Is a directory".toList then ": read error: " else ": ") ++ e)
  | .ok t => do
    let words := (Text.split ' ' (t.map fun c => if c = '\n' || c = '\t' then ' ' else c)).filter (· ≠ [])
    let rec pairs : List Text → Option (List (Text × Text))
      | [] => some []
      | [_] => none
      | x :: y :: rest => (pairs rest).map ((x, y) :: ·)
    match pairs words with
    | none => giveUp 1 (nameOf path ++ ": input contains an odd number of tokens")
    | some ps => do
      let (names, loops) := (Precedence.ofPairs words ps).ordered (ps.length + 1)
      say (names.flatMap (· ++ ['\n']))
      loops.forM fun loop => do
        grumble (nameOf path ++ ": input contains a loop:")
        loop.forM fun t => grumble t
      return if loops = [] then 0 else 1

end Rollout.Program
