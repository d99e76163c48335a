import Rollout.Machine.Program.Input
import Rollout.Machine.Regex.Parser

/-!
Programs that show files: whole, from one end, in reverse, with numbers, or counted.
-/

namespace Rollout.Program

open Unix

/-! ### Whole files -/

/-- A character as it is shown when it cannot be printed. -/
def visible (c : Char) : Text :=
  let shown (n : Nat) : Text :=
    if n < 32 then ['^', Char.ofNat (n + 64)] else if n = 127 then ['^', '?'] else [Char.ofNat n]
  if c.toNat < 128 then shown c.toNat else 'M' :: '-' :: shown (c.toNat - 128)

/-- How lines are shown. -/
structure Look where
  /-- Are all lines numbered? -/
  numbers : Bool
  /-- Are lines numbered that are not empty? -/
  numbersNonblank : Bool
  /-- Is the end of a line shown? -/
  ends : Bool
  /-- Are tabs shown? -/
  tabs : Bool
  /-- Are other characters shown that cannot be printed? -/
  others : Bool
  /-- Is only one of several empty lines shown? -/
  squeezed : Bool

/-- A character of a line as it is shown. -/
def Look.char (l : Look) (c : Char) : Text :=
  if c = '\t' then (if l.tabs then ['^', 'I'] else [c])
  else if l.others && c ≠ '\n' then visible c
  else [c]

/-- Lines as they are shown, from a number on. -/
def Look.lines (l : Look) : Nat → Bool → List Text → List Text
  | _, _, [] => []
  | n, afterBlank, line :: rest =>
    let blank := line = ['\n']
    if l.squeezed && blank && afterBlank then l.lines n true rest
    else
      let numbered := if l.numbersNonblank then !blank else l.numbers
      let lead : Text := if numbered then padLeft 6 (Text.ofNat n) ++ ['\t'] else []
      let whole := withoutEnd '\n' line
      let returns := l.ends && !l.others && line.getLast? = some '\n' && whole.getLast? = some '\r'
      let body := (if returns then whole.dropLast else whole).flatMap l.char ++ if returns then ['^', 'M'] else []
      let ending : Text := if line.getLast? = some '\n' then (if l.ends then ['$', '\n'] else ['\n']) else []
      (lead ++ body ++ ending) :: l.lines (if numbered then n + 1 else n) blank rest

/-- Is what is read what is written to, and is something left of it? -/
def readsOutput (path : Text) : Act Bool := do
  let p ← get
  match p.descriptors.lookup 1 with
  | some (.file i) => match p.handles[i]? with
    | some output =>
      let size (node : Nat) : Nat := ((p.opened? output).bind fun t =>
        if t.about.node = node then t.data?.map List.length else none).getD 0
      if path ≠ ['-'] then
        return match p.find? path with
          | some (.file _ a) => a.node = output.node && 0 < size a.node
          | _ => false
      else return match p.descriptors.lookup 0 with
        | some (.file j) => match p.handles[j]? with
          | some input => input.node = output.node && input.offset < size input.node
          | none => false
        | _ => false
    | none => return false
  | _ => return false

/-- Say that a program could not close its input, if there is none. -/
def closeInput (paths : List Text) (status : Nat) : Act Nat := do
  if paths.contains ['-'] && ((← get).descriptors.lookup 0).isNone then do
    grumble ("closing standard input: " ++ badDescriptor)
    return 1
  else return status

/-- Write files one after another. -/
def cat : Routine := fun ts => do
  let flags := [Flag.plain 'A' "show-all", .plain 'b' "number-nonblank", .plain 'e' "", .plain 'E' "show-ends",
    .plain 'n' "number", .plain 's' "squeeze-blank", .plain 't' "", .plain 'T' "show-tabs", .plain 'u' "",
    .plain 'v' "show-nonprinting"]
  let a ← arguments flags true 1 ts
  let paths := orInput a.operands
  if a.options.all (·.1 = ['u']) then
    let status ← forEach (fun path => do
      if ← readsOutput path then do
        grumble (nameOf path ++ ": input file is output file")
        return 1
      match path, (← get).descriptors.lookup 0 with
      | ['-'], some (.reader i) => do
        relay i (((← get).streams[i]?.map fun s => s.pieces.length).getD 0 + 1)
        return 0
      | _, _ => match ← contentOf path with
        | .ok t => do
          write 1 t
          return 0
        | .error e => do
          grumble (nameOf path ++ ": " ++ e)
          return 1) paths
    closeInput paths status
  else do
    let copied ← paths.filterM fun path => do
      if ← readsOutput path then grumble (nameOf path ++ ": input file is output file")
      return !(← readsOutput path)
    let (files, worst) ← contents 1 copied
    let status := if copied.length < paths.length then 1 else worst
    let all := a.has "A"
    let look : Look :=
      { numbers := a.has "n"
        numbersNonblank := a.has "b"
        ends := all || a.has "e" || a.has "E"
        tabs := all || a.has "t" || a.has "T"
        others := all || a.has "e" || a.has "t" || a.has "v"
        squeezed := a.has "s" }
    say (look.lines 1 false (fullLines (joined files))).flatten
    closeInput paths status

/-! ### Reverse -/

/-- What separates records: a text, or what an expression matches. -/
inductive Separator
  | text (t : Text)
  | regex (c : Regex.Compiled)

/-- The length of the separator that starts after so many characters, before an end. -/
def Separator.lengthAt? (s : Separator) (t : Text) (start finish : Nat) : Option Nat :=
  match s with
  | .text u => if u.isPrefixOf (t.drop start) && start + u.length ≤ finish then some u.length else none
  | .regex c => ((Regex.matchesAt c.mode c.regex (Regex.spotAt (t.take finish) start)).head?).map (·.text.length)

/-- The separators of a text as pairs of a start and an end, the last first; they are looked for backwards. -/
def Separator.places (s : Separator) (t : Text) : Nat → Nat → List (Nat × Nat)
  | 0, _ => []
  | start + 1, finish => match s.lengthAt? t start finish with
    | some n => (start, start + n) :: s.places t start start
    | none => s.places t start finish

/-- The records of a text from the last to the first; a separator belongs to the record before it or behind it. -/
def reversedRecords (s : Separator) (before : Bool) (t : Text) : Text :=
  let places := match s with
    | .text [c] =>
      ((List.zipIdx t).filterMap fun (d, i) => if d = c then some (i, i + 1) else none).reverse
    | s => s.places t t.length t.length
  let cuts := places.map fun (start, finish) => if before then start else finish
  let rec pieces (past : Nat) (t : Text) : List Nat → List Text
    | [] => [t]
    | cut :: rest => (if cut = past && !before then [] else [t.drop cut]) ++ pieces cut (t.take cut) rest
  (pieces t.length t cuts).flatten

/-- Write the records of files from the last to the first. -/
def tac : Routine := fun ts => do
  let a ← arguments [.plain 'b' "before", .plain 'r' "regex", .valued 's' "separator"] true 1 ts
  let separator ← match a.value? "s", a.has "r" with
    | none, _ => pure (Separator.text ['\n'])
    | some [], true => giveUp 1 "separator cannot be empty"
    | some t, true => match Regex.compile Regex.basic false true t with
      | .ok c => pure (.regex c)
      | .error e => giveUp 1 e.message
    | some [], false => pure (.text ['\x00'])
    | some t, false => pure (.text t)
  forEach (fun path => do
    match ← contentOf path with
    | .ok t => do
      say (reversedRecords separator (a.has "b") t)
      return 0
    | .error e => do
      grumble (if e = "Is a directory".toList then nameOf path ++ ": read error: Invalid argument"
        else if path = ['-'] then e
        else "failed to open " ++ inShellQuotes path ++ " for reading: " ++ e)
      return 1) (orInput a.operands)

/-- Write the characters of each line from the last to the first; what is no character of any encoding ends it. -/
def rev : Routine := fun ts => do
  let a ← arguments [.plain '0' "zero"] true 1 ts
  forEach (fun path => do
    match ← contentOf path with
    | .ok t => do
      let stop := if a.has "0" then '\x00' else '\n'
      let isBad (l : Text) : Bool := l.any fun c => 127 < c.toNat
      let lines := piecesEndingWith stop t
      let good := lines.takeWhile (!isBad ·)
      say (good.flatMap fun l => (withoutEnd stop l).reverse ++ (if l.getLast? = some stop then [stop] else []))
      if good.length = lines.length then return 0
      else do
        let shown : Text := if path = ['-'] then "stdin" else path
        grumble (shown ++ ": " ++ Text.ofNat good.length ++ ": Invalid or incomplete multibyte or wide character")
        return 1
    | .error e => do
      if e = "Is a directory".toList then grumble (path ++ ": 0: " ++ e) else grumble ("cannot open " ++ path ++ ": " ++ e)
      return 1) (orInput a.operands)

/-- Write the standard input to the standard output and to files. -/
def tee : Routine := fun ts => do
  let a ← arguments [.plain 'a' "append", .plain 'i' "ignore-interrupts", .plain 'p' "",
    ⟨none, some "output-error".toList, .optional⟩] true 1 ts
  for mode in a.values "output-error" do
    if mode ≠ [] then
      let _ ← choose 1 "--output-error" [["warn"], ["warn-nopipe"], ["exit"], ["exit-nopipe"]] mode
  let t ← readAll
  let status ← forEach (fun path => do
    match ← openForWriting (a.has "a") path with
    | .ok d => do
      match ← writeTo t d with
      | none => return 0
      | some e => do
        grumble (nameOf path ++ ": " ++ e)
        return 1
    | .error e => do
      grumble (nameOf path ++ ": " ++ e)
      return 1) a.operands
  write 1 t
  return status

/-! ### Ends of files -/

/-- A number of lines or bytes that an option asks for, with a mark in front. -/
def countOf (a : Arguments) : Act (Bool × Option Char × Nat) := do
  match a.options.reverse.find? fun o => o.1 = ['n'] || o.1 = ['c'] with
  | none => return (false, none, 10)
  | some (key, v) =>
    let bytes := key = ['c']
    let (mark, digits) : Option Char × Text := match v with
      | '-' :: ds => (some '-', ds)
      | '+' :: ds => (some '+', ds)
      | ds => (none, ds)
    let n ← countFrom (if bytes then "number of bytes" else "number of lines") digits
    return (bytes, mark, n)

/-- The first argument of `head` in its old form, a number behind a dash with letters, made options. -/
def withLeadingNumber : List Text → Act (List Text)
  | ('-' :: c :: cs) :: rest => do
    if !c.isDigit then return ('-' :: c :: cs) :: rest
    let ds := (c :: cs).takeWhile Char.isDigit
    let letters := cs.drop (ds.length - 1)
    match letters.find? fun l => !"cbkmlqvz".toList.contains l with
    | some l => misused 1 ("invalid trailing option -- " ++ [l])
    | none =>
      let units := (letters.reverse.find? "cbkml".toList.contains)
      let (key, unit) : Text × Text := match units with
        | none => (['-', 'n'], [])
        | some 'l' => (['-', 'n'], [])
        | some 'c' => (['-', 'c'], [])
        | some u => (['-', 'c'], [u])
      let others := (letters.filter "qvz".toList.contains).map fun l => ['-', l]
      return key :: (ds ++ unit) :: others ++ rest
  | ts => return ts

/-- The first argument of `tail` in its old form, if there is at most one file behind it, made options. -/
def withTrailingNumber (ts : List Text) : List Text :=
  let isPath (t : Text) : Bool := match t with
    | '-' :: _ :: _ => false
    | _ => true
  let isOld := match ts with
    | [_] => true
    | [_, path] => isPath path || path = ['-', '-']
    | [_, ['-', '-'], _] => true
    | _ => false
  let old (mark : Text) (t : Text) : Option (List Text) :=
    let ds := t.takeWhile Char.isDigit
    let (key, scale, rest) : Text × Nat × Text := match t.drop ds.length with
      | 'b' :: rest => (['-', 'c'], 512, rest)
      | 'c' :: rest => (['-', 'c'], 1, rest)
      | 'l' :: rest => (['-', 'n'], 1, rest)
      | rest => (['-', 'n'], 1, rest)
    let follows := rest = ['f']
    if rest ≠ [] && !follows then none
    else
      let n := ((Text.toNat? ds).getD 10) * scale
      some (key :: (mark ++ Text.ofNat n) :: if follows then [['-', 'f']] else [])
  match isOld, ts with
  | true, ('+' :: t) :: rest => ((old ['+'] t).map (· ++ rest)).getD ts
  | true, ('-' :: t) :: rest => if t = [] || t = ['c'] || t.head? = some '-' then ts else ((old [] t).map (· ++ rest)).getD ts
  | _, ts => ts

/-- Write a part of each file, under its name if there are several. -/
def showParts (a : Arguments) (part : Text → Text) (finish : Text → Text) : Act Nat := do
  let paths := orInput a.operands
  let titled := a.last? ["q", "v"] = some ['v'] || (paths.length > 1 && !a.has "q")
  let first := paths.head?
  let rec run (isFirst : Bool) : List Text → Act Nat
    | [] => return 0
    | path :: rest => do
      let shown : Text := if path = ['-'] then "standard input" else path
      let title : Text := (if isFirst then [] else ['\n']) ++ "==> " ++ shown ++ " <==\n"
      match ← contentOf path with
      | .ok t => do
        if titled then say title
        say (finish (part t))
        let worst ← run false rest
        return worst
      | .error e => do
        if e = "Is a directory".toList then do
          if titled then say title
          flush
          grumble ("error reading " ++ inShellQuotes path ++ ": " ++ e)
        else grumble ("cannot open " ++ inShellQuotes path ++ " for reading: " ++ e)
        let worst ← run (isFirst && e ≠ "Is a directory".toList) rest
        return max 1 worst
  run first.isSome paths

/-- The options of programs that show an end of files. -/
def endFlags : List Flag :=
  [.valued 'c' "bytes", .valued 'n' "lines", .plain 'q' "quiet", .plain 'v' "verbose", .plain 'z' "zero-terminated",
    .wordOnly "silent"]

/-- The digits as options, which nothing but the old forms may have. -/
def digitFlags : List Flag := Flag.letters "0123456789"

/-- End because of a digit among options. -/
def refuseDigits (a : Arguments) (refuse : Char → Act Unit) : Act Unit :=
  match a.options.find? fun o => o.1.length = 1 && o.1.all Char.isDigit with
  | some (c :: _, _) => refuse c
  | _ => return

/-- Write the first lines or bytes of files. -/
def head : Routine := fun ts => do
  let a ← arguments (digitFlags ++ endFlags) true 1 (← withLeadingNumber ts)
  refuseDigits a fun c => misused 1 ("invalid trailing option -- " ++ [c])
  let (bytes, mark, n) ← countOf a
  let stop := if a.has "z" then '\x00' else '\n'
  showParts a (fun t =>
    if bytes then (if mark = some '-' then t.take (t.length - n) else t.take n)
    else
      let ls := piecesEndingWith stop t
      (if mark = some '-' then ls.take (ls.length - n) else ls.take n).flatten) id

/-- How long a program waits that never ends, in microseconds. -/
def forever : Nat := 1000000000000

/-- Write the last lines or bytes of files, and perhaps wait for more. -/
def tail : Routine := fun ts => do
  let a ← arguments (([⟨some 'f', some "follow".toList, .none⟩, .plain 'F' "", .valuedWord "pid",
    .valued 's' "sleep-interval", .wordOnly "retry", .valuedWord "max-unchanged-stats"] : List Flag) ++ digitFlags ++ endFlags) true 1
    (withTrailingNumber (ts.map fun t => if "--follow=".toList.isPrefixOf t then "--follow" else t))
  refuseDigits a fun c => giveUp 1 ("option used in invalid context -- " ++ [c])
  match a.value? "pid" with
  | some t => if (Text.toNat? t).isNone then giveUp 1 ("invalid PID: " ++ inQuotes t)
  | none => pure ()
  match a.value? "s" with
  | some t => if !t.all (fun c => c.isDigit || c = '.') || t = [] then giveUp 1 ("invalid number of seconds: " ++ inQuotes t)
  | none => pure ()
  let (bytes, mark, n) ← countOf a
  let stop := if a.has "z" then '\x00' else '\n'
  let status ← showParts a (fun t =>
    if bytes then (if mark = some '+' then t.drop (n - 1) else t.drop (t.length - n))
    else
      let ls := piecesEndingWith stop t
      (if mark = some '+' then ls.drop (n - 1) else ls.drop (ls.length - n)).flatten) id
  if a.has "f" || a.has "F" then
    if status ≠ 0 && !a.has "F" then giveUp 1 "no files remaining"
    flush
    Unix.pass forever
  return status

/-! ### Counting -/

/-- Is the character a blank between words? -/
def isWordBlank (c : Char) : Bool := c = ' ' || ('\t' ≤ c && c ≤ '\r')

/-- The number of words; what cannot be printed makes no word. -/
def wordCount : Bool → Text → Nat
  | _, [] => 0
  | inside, c :: cs =>
    if isWordBlank c then wordCount false cs
    else if Quotation.isPrinted c then (if inside then 0 else 1) + wordCount true cs
    else wordCount inside cs

/-- The length of the longest line as it is shown, after the columns that have been passed. -/
def longestLine : Nat → Nat → Text → Nat
  | longest, column, [] => max longest column
  | longest, column, c :: cs =>
    if c = '\n' || c = '\r' || c = '\x0c' then longestLine (max longest column) 0 cs
    else if c = '\t' then longestLine longest (column + 8 - column % 8) cs
    else longestLine longest (if Quotation.isPrinted c then column + 1 else column) cs

/-- The numbers that are wanted of a text: lines, words, characters, bytes, and the longest line. -/
def countsOf (a : Arguments) (t : Text) : List Nat :=
  let wanted := (["l", "w", "m", "c", "L"].any a.has)
  [((if wanted then a.has "l" else true), fun (_ : Unit) => t.count '\n'),
    ((if wanted then a.has "w" else true), fun _ => wordCount false t),
    (a.has "m", fun _ => t.length),
    ((if wanted then a.has "c" else true), fun _ => t.length),
    (a.has "L", fun _ => longestLine 0 0 t)].filterMap fun (on, f) => if on then some (f ()) else none

/-- The least width of a number when these files are counted, of which the sizes of regular ones are known. -/
def countWidth (sizes : List (Option Nat)) : Nat :=
  let total := sizes.foldl (fun n s => n + s.getD 0) 0
  max (Text.ofNat total).length (if sizes.all Option.isSome then 1 else 7)

/-- The size of the file that a path leads to, if it is one. -/
def fileSize? (path : Text) : Act (Option Nat) := do
  let p ← get
  if path = ['-'] then
    return match p.descriptors.lookup 0 with
      | some (.file i) => ((p.handles[i]?).bind p.opened?).map fun t => (t.data?.getD []).length
      | _ => none
  else return match p.find? path with
    | some (.file data _) => some data.length
    | _ => none

/-- Count lines, words and bytes. -/
def wc : Routine := fun ts => do
  let a ← arguments [.plain 'c' "bytes", .plain 'm' "chars", .plain 'l' "lines", .plain 'w' "words",
    .plain 'L' "max-line-length", .valuedWord "files0-from"] true 1 ts
  let named : Option (List (Nat × Text)) ← match a.value? "files0-from" with
    | none => pure none
    | some list => some <$> namedFiles 1 list a.operands
  let faults := match a.value? "files0-from", named with
    | some list, some ns => ns.map (nameFault? list)
    | _, _ => []
  let paths : List Text := match named with
    | some ns => ns.map Prod.snd
    | none => orInput a.operands
  let isListed := match a.value? "files0-from" with
    | some ['-'] => true
    | _ => false
  let columns := (countsOf a []).length
  let existing ← (paths.filterM fun path => do return path = ['-'] || ((← get).find? path).isSome)
  let width ← if (paths.length = 1 && columns = 1) || isListed then pure 1 else do
    pure (countWidth (← existing.mapM fileSize?))
  let row (ns : List Nat) (name : Text) : Text :=
    Text.join [' '] (ns.map fun n => padLeft width (Text.ofNat n)) ++ (if name = [] then [] else ' ' :: name) ++ ['\n']
  let add (xs ys : List Nat) : List Nat :=
    let sums := xs.zipWith (· + ·) ys
    if a.has "L" then sums.dropLast ++ [max (xs.getLast?.getD 0) (ys.getLast?.getD 0)] else sums
  let rec run (totals : List Nat) : List (Text × Option Text) → Act (List Nat × Nat)
    | [] => return (totals, 0)
    | (path, fault) :: rest => do
      let name := if named.isNone && a.operands = [] then [] else path
      match fault with
      | some e => do
        grumble e
        let (totals, _) ← run totals rest
        return (totals, 1)
      | none => match ← contentOf path with
        | .ok t => do
          let ns := countsOf a t
          say (row ns name)
          run (if totals = [] then ns else add totals ns) rest
        | .error e => do
          grumble ((if path = ['-'] then inQuotes "standard input" else nameOf path) ++ ": " ++ e)
          if e = "Is a directory".toList then say (row (countsOf a []) name)
          let (totals, _) ← run totals rest
          return (totals, 1)
  let (totals, status) ← run [] (paths.zipIdx.map fun (path, i) => (path, (faults.getD i none)))
  if paths.length > 1 then
    say (row (if totals = [] then List.replicate columns 0 else totals) "total")
  return status

/-! ### Numbers of lines -/

/-- Which lines are numbered. -/
inductive Numbering
  /-- All, and of empty lines in a row only each one with such a number. -/
  | all
  /-- Those that are not empty. -/
  | filled
  /-- None. -/
  | none
  /-- Those in which something matches an expression. -/
  | matching (c : Regex.Compiled)

/-- The numbering that an option asks for. -/
def numberingOf (what : String) (value : Option Text) (default : Numbering) : Act Numbering := do
  match value with
  | none => return default
  | some ('a' :: _) => return .all
  | some ('t' :: _) => return .filled
  | some ('n' :: _) => return .none
  | some ('p' :: t) => match Regex.compile Regex.basic false false t with
    | .ok c => return .matching c
    | .error e => giveUp 1 e.message
  | some t => misused 1 ("invalid " ++ what.toList ++ " numbering style: " ++ inQuotes t)

/-- How lines are numbered. -/
structure LineNumbers where
  /-- Which lines of the header, the body and the footer of a page are numbered. -/
  kinds : Numbering × Numbering × Numbering
  /-- The lines that start a header, a body and a footer. -/
  marks : Option (Text × Text × Text)
  /-- Of how many empty lines in a row one is numbered, if all are. -/
  joined : Nat
  /-- The first number. -/
  start : Int
  /-- The distance of numbers. -/
  step : Int
  /-- Does each part of a page start with the first number? -/
  restarts : Bool
  /-- How a number is shown. -/
  number : Int → Text
  /-- What is shown in place of a number. -/
  gap : Text

/-- Lines with numbers; the part of the page counts, the next number, and the number of empty lines in a row. -/
def LineNumbers.text (l : LineNumbers) : Numbering → Int → Nat → List Text → Text
  | _, _, _, [] => []
  | kind, n, blanks, line :: rest =>
    let part : Option Numbering := match l.marks with
      | some (header, body, footer) =>
        if line = header then some l.kinds.1
        else if line = body then some l.kinds.2.1
        else if line = footer then some l.kinds.2.2
        else Option.none
      | Option.none => Option.none
    match part with
    | some kind => '\n' :: text l kind (if l.restarts then l.start else n) blanks rest
    | Option.none =>
      let (numbered, blanks) := match kind with
        | .all =>
          if l.joined < 2 || line ≠ [] || blanks = l.joined then (true, 1) else (false, blanks + 1)
        | .filled => (line ≠ [], blanks)
        | .none => (false, blanks)
        | .matching c => ((c.search line 0).isSome, blanks)
      (if numbered then l.number n else l.gap) ++ line ++ '\n'
        :: text l kind (if numbered then n + l.step else n) blanks rest

/-- Number the lines of files. -/
def nl : Routine := fun ts => do
  let a ← arguments [.valued 'b' "body-numbering", .valued 'd' "section-delimiter", .valued 'f' "footer-numbering",
    .valued 'h' "header-numbering", .valued 'i' "line-increment", .valued 'l' "join-blank-lines",
    .valued 'n' "number-format", .plain 'p' "no-renumber", .valued 's' "number-separator",
    .valued 'v' "starting-line-number", .valued 'w' "number-width"] true 1 ts
  let number (key what : String) (default : Int) (least : Option Int) : Act Int := do
    match a.value? key with
    | none => return default
    | some t =>
      let (negative, digits) : Bool × Text := match t with
        | '-' :: ds => (true, ds)
        | '+' :: ds => (false, ds)
        | ds => (false, ds)
      match Text.toNat? digits with
      | some n =>
        let n : Int := if negative then -n else n
        if least.any (n < ·) then
          giveUp 1 ("invalid " ++ what.toList ++ ": " ++ inQuotes t ++ ": Numerical result out of range")
        else return n
      | none => giveUp 1 ("invalid " ++ what.toList ++ ": " ++ inQuotes t)
  let header ← numberingOf "header" (a.value? "h") .none
  let body ← numberingOf "body" (a.value? "b") .filled
  let footer ← numberingOf "footer" (a.value? "f") .none
  let start ← number "v" "starting line number" 1 none
  let step ← number "i" "line number increment" 1 none
  let joined ← number "l" "line number of blank lines" 1 (some 1)
  let width := (← number "w" "line number field width" 6 (some 1)).toNat
  let separator := (a.value? "s").getD ['\t']
  let shown : Int → Text ← match (a.value? "n").map String.ofList with
    | some "ln" => pure (fun n => padRight width (Text.ofInt n))
    | some "rz" => pure fun n =>
      let sign : Text := if n < 0 then ['-'] else []
      let digits := Text.ofNat n.natAbs
      sign ++ List.replicate (width - sign.length - digits.length) '0' ++ digits
    | some "rn" => pure (fun n => padLeft width (Text.ofInt n))
    | none => pure (fun n => padLeft width (Text.ofInt n))
    | some t => misused 1 ("invalid line numbering format: " ++ inQuotes t.toList)
  let delimiter := match a.value? "d" with
    | none => ['\\', ':']
    | some [c] => [c, ':']
    | some t => t
  let (files, status) ← contents 1 (orInput a.operands)
  let numbers : LineNumbers :=
    { kinds := (header, body, footer)
      marks := if delimiter = [] then none else some (delimiter ++ delimiter ++ delimiter, delimiter ++ delimiter, delimiter)
      joined := joined.toNat
      start := start
      step := step
      restarts := !a.has "p"
      number := fun n => shown n ++ separator
      gap := List.replicate (width + separator.length) ' ' }
  say (numbers.text body start 1 (linesOf (joined' files)))
  return status
where
  /-- All that files hold, one after another, where each ends a line. -/
  joined' (files : List (Text × Text)) : Text :=
    files.flatMap fun f => if f.2 = [] || f.2.getLast? = some '\n' then f.2 else f.2 ++ ['\n']

end Rollout.Program
