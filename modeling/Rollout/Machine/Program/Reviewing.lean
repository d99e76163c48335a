import Rollout.Machine.Calendar.Format
import Rollout.Machine.Program.Comparing
import Rollout.Machine.Program.Review.Layout

/-!
Comparing files line by line, and directories file by file, where the differences are shown as what has to be changed.
-/

namespace Rollout.Program

open Unix

/-- How files are compared line by line, and what is said. -/
structure Review where
  /-- What does not count. -/
  tolerance : Tolerance
  /-- How differences are shown. -/
  layout : Layout
  /-- How lines are written. -/
  inscription : Inscription
  /-- Which lines stand behind the places of groups. -/
  heads : List Regex.Compiled
  /-- Is only said that files differ? -/
  brief : Bool
  /-- Is it said that files are the same? -/
  tells : Bool
  /-- Are all files made of text? -/
  isText : Bool
  /-- Are directories below the given ones compared, too? -/
  deep : Bool
  /-- Are files that are missing empty? -/
  fills : Bool
  /-- What the files are called. -/
  labels : List Text
  /-- The names of files that are left out. -/
  left : List Shell.Pattern
  /-- The name before which none are compared in directories. -/
  first : Option Text
  /-- The options, as they were given. -/
  given : List Text

/-- How much of a file is looked at to find out whether it is text. -/
def sampleSize : Nat := 4096

namespace Review

/-- What the files of a pair are called. -/
def name (r : Review) (i : Nat) (path : Text) : Text := (r.labels[i]?).getD path

/-- When the file that a path leads to was changed; a file that is missing was at the start of the calendar. -/
def timeOf (p : Process) (path : Text) : Calendar.Reading :=
  let moment := if path = ['-'] then p.now else ((p.find? path).map fun t => t.about.changed).getD 0
  .ofMoment (zoneOf p) moment

/-- The lines above the differences of two files. -/
def header (r : Review) (p : Process) (first second : Text) : Text :=
  let line (mark format : String) (i : Nat) (path : Text) : Text :=
    let shown : Text := match r.labels[i]? with
      | some l => l
      | none => nameOf path ++ '\t' :: Calendar.format (timeOf p path) format.toList
    r.inscription.paint Inscription.nameColor (mark.toList ++ ' ' :: shown) ++ ['\n']
  let long := "%Y-%m-%d %H:%M:%S.%N %z"
  let short := "%a %b %e %T %Y"
  match r.layout with
  | .context _ => line "***" short 0 first ++ line "---" short 1 second
  | .unified _ => line "---" long 0 first ++ line "+++" long 1 second
  | _ => []

/-- Compare two texts; gives the status. Inside of directories the differences stand below the command that would
show them. -/
def texts (r : Review) (inside : Bool) (first second : Text) (a b : Text) : Act Nat := do
  let isBinary (t : Text) : Bool := !r.isText && (t.take sampleSize).contains '\x00'
  let names : Text := r.name 0 first ++ " and " ++ r.name 1 second
  let old := fileLines a
  let new := fileLines b
  let p : Pair := ⟨old.toArray, new.toArray⟩
  let showAll (changes : List Difference.Change) : Act Unit := do
    if inside then sayLine (Text.join [' '] ("diff".toList :: (r.given ++ [first, second]).map nameOf))
    say (r.header (← get) first second ++ p.shown r.layout r.inscription r.heads r.tolerance changes)
  let same (changes : List Difference.Change) : Act Nat := do
    if r.layout.showsSame && !r.brief then showAll changes
    if r.tells then sayLine ("Files " ++ names ++ " are identical")
    return 0
  if a = b && !(isBinary a && r.layout.showsSame) then same []
  else if isBinary a || isBinary b then do
    if a = b then return 0
    sayLine ((if r.brief then "Files " else "Binary files ").toList ++ names ++ " differ")
    return 1
  else
    let numbers := numbered ((old ++ new).map r.tolerance.key)
    let changes := Difference.changes (numbers.extract 0 old.length) (numbers.extract old.length numbers.size)
      r.layout.around
    let lacking := if r.layout.needsEndings && !r.brief then
        ([(0, first, old), (1, second, new)].filter fun f => f.2.2.getLast?.any (!·.ended)).map fun f => r.name f.1 f.2.1
      else []
    lacking.forM fun name => grumble (name ++ ": No newline at end of file\n")
    let status ← if changes.all (p.isTrivial r.tolerance) then same changes
      else do
        if r.brief then sayLine ("Files " ++ names ++ " differ") else showAll changes
        pure 1
    return if lacking.isEmpty then status else 2

/-- What kind of file something is. -/
def kind : FileTree → Text
  | .dir .. => "directory"
  | .file [] _ => "regular empty file"
  | .file .. => "regular file"
  | .link .. => "symbolic link"
  | .device .pipe _ => "fifo"
  | .device .. => "character special file"

/-- The names in a directory that are not left out. -/
def namesIn (r : Review) (p : Process) (path : Text) : List Text :=
  match p.find? path with
  | some (.dir entries _) => (entries.map (·.1)).filter fun n => !r.left.any (·.covers n)
  | _ => []

mutual

/-- Compare what two paths lead to; gives the status. -/
def paths (r : Review) (inside : Bool) : Nat → Text → Text → Act Nat
  | 0, _, _ => return 2
  | fuel + 1, first, second => do
    let p ← get
    let isMissing (path : Text) : Bool := path ≠ ['-'] && (p.find? path).isNone
    let isDir (path : Text) : Bool := path ≠ ['-'] && p.isDir path
    let filled := r.fills && isMissing first != isMissing second
    if isDir first && isDir second then
      if let .template _ := r.layout then giveUp 2 "-D option not supported with directories"
      if inside && !r.deep then do
        sayLine ("Common subdirectories: " ++ first ++ " and " ++ second)
        return 0
      else
        let mine := r.namesIn p first
        let theirs := r.namesIn p second
        let names := (mine ++ theirs.filter (!mine.contains ·)).mergeSort fun a b => !decide (b < a)
        let names := if inside then names else names.filter fun n => r.first.all fun f => !decide (n < f)
        r.entries fuel mine theirs first second names
    else if isDir first != isDir second then
      if inside then do
        let describe (path : Text) : Text := path ++ " is a " ++ kind ((p.find? path).getD default)
        if isMissing first || isMissing second then return 1
        sayLine ("File " ++ describe first ++ " while file " ++ describe second)
        return 1
      else if isMissing first || isMissing second then do
        grumble ((if isMissing first then first else second) ++ ": " ++ describeFault .missing)
        return 2
      else if isDir first then paths r false fuel (pathInside first (lastName second)) second
      else paths r false fuel first (pathInside second (lastName first))
    else do
      let (a, b) ← bothContents first second
      let read (path : Text) (e : Except Text Text) : Act (Option Text) := match e with
        | .ok t => return some t
        | .error e => do
          if filled && isMissing path then return some []
          grumble (path ++ ": " ++ e)
          return none
      let old ← read first a
      let new ← read second b
      match old, new with
      | some t, some u => r.texts inside first second t u
      | _, _ => return 2

/-- Compare what two directories have under some names; gives the worst status. -/
def entries (r : Review) : Nat → List Text → List Text → Text → Text → List Text → Act Nat
  | 0, _, _, _, _, _ => return 2
  | _, _, _, _, _, [] => return 0
  | fuel + 1, mine, theirs, first, second, n :: ns => do
    let only (path : Text) : Act Nat := do
      sayLine ("Only in " ++ path ++ ": " ++ n)
      return 1
    let status ← if !r.fills && !theirs.contains n then only first
      else if !r.fills && !mine.contains n then only second
      else paths r true fuel (pathInside first n) (pathInside second n)
    return max status (← entries r fuel mine theirs first second ns)

end

end Review

/-- The arguments without the operands. -/
def givenOptions : List Text → List Text → List Text
  | [], _ => []
  | t :: ts, o :: os => if t = o then givenOptions ts os else t :: givenOptions ts (o :: os)
  | ts, [] => ts

/-- How deep directories are compared, and how many names are looked at. -/
def maxReview : Nat := 100000

/-- The words of the options that stand for templates, with what they set. -/
def templateWords : List (String × (Text → Template → Template)) :=
  [("old-line-format", fun t m => { m with oldLine := t }),
    ("new-line-format", fun t m => { m with newLine := t }),
    ("unchanged-line-format", fun t m => { m with commonLine := t }),
    ("line-format", fun t m => { m with
      oldLine := t
      newLine := t
      commonLine := t }),
    ("old-group-format", fun t m => { m with oldGroup := t }),
    ("new-group-format", fun t m => { m with newGroup := t }),
    ("unchanged-group-format", fun t m => { m with commonGroup := t }),
    ("changed-group-format", fun t m => { m with changedGroup := t })]

/-- The options of `diff`. -/
def reviewFlags : List Flag :=
  ([.plain 'a' "text", .plain 'b' "ignore-space-change", .plain 'B' "ignore-blank-lines",
    .plain 'c' "", .valued 'C' "", ⟨none, some "context".toList, .optional⟩, .plain 'd' "minimal",
    .valued 'D' "ifdef", .plain 'e' "ed", .plain 'E' "ignore-tab-expansion", .plain 'f' "forward-ed",
    .valued 'F' "show-function-line", .plain 'h' "", .plain 'H' "speed-large-files", .plain 'i' "ignore-case",
    .valued 'I' "ignore-matching-lines", .plain 'l' "paginate", .valued 'L' "label", .plain 'n' "rcs",
    .plain 'N' "new-file", .plain 'p' "show-c-function", .plain 'P' "unidirectional-new-file", .plain 'q' "brief",
    .plain 'r' "recursive", .plain 's' "report-identical-files", .valued 'S' "starting-file",
    .plain 't' "expand-tabs", .plain 'T' "initial-tab", .plain 'u' "", .valued 'U' "",
    ⟨none, some "unified".toList, .optional⟩, .plain 'w' "ignore-all-space", .valued 'W' "width",
    .valued 'x' "exclude", .valued 'X' "exclude-from", .plain 'y' "side-by-side", .plain 'Z' "ignore-trailing-space",
    .wordOnly "normal", .wordOnly "strip-trailing-cr", .wordOnly "suppress-blank-empty",
    .wordOnly "suppress-common-lines", .wordOnly "left-column", .valuedWord "tabsize", .valuedWord "from-file",
    .valuedWord "to-file", .valuedWord "horizon-lines", .wordOnly "no-dereference",
    ⟨none, some "color".toList, .optional⟩, .wordOnly "no-ignore-file-name-case",
    .wordOnly "ignore-file-name-case", .wordOnly "inhibit-hunk-merge", .wordOnly "binary"] : List Flag)
    ++ templateWords.map (fun w => .valuedWord w.1) ++ Flag.letters "0123456789"

/-- The styles of output and the options that ask for them. -/
def layoutName (key : Text) : Option String :=
  match String.ofList key with
  | "c" => some "context"
  | "C" => some "context"
  | "context" => some "context"
  | "u" => some "unified"
  | "U" => some "unified"
  | "unified" => some "unified"
  | "e" => some "editor"
  | "f" => some "forward"
  | "n" => some "counted"
  | "normal" => some "normal"
  | "y" => some "sides"
  | "D" => some "template"
  | key => if (templateWords.lookup key).isSome then some "template" else none

/-- The templates that options ask for. -/
def templateOf (a : Arguments) : Template :=
  let given (key : String) : Option Text := a.value? key
  match given "D" with
  | some name =>
    let m := Template.conditional name
    templateWords.foldl (fun m w => match given w.1 with
      | some t => w.2 t m
      | none => m) m
  | none =>
    let line (key : String) : Text := ((given key).or (given "line-format")).getD "%l\n"
    let changed := given "changed-group-format"
    let oldGroup := ((given "old-group-format").or changed).getD "%<"
    let newGroup := ((given "new-group-format").or changed).getD "%>"
    ⟨(given "unchanged-group-format").getD "%=", oldGroup, newGroup, changed.getD (oldGroup ++ newGroup),
      line "unchanged-line-format", line "old-line-format", line "new-line-format"⟩

/-- The number that an option has; what is no number is refused. -/
def reviewNumber (what : String) (least : Nat) (t : Text) : Act Nat := do
  match Text.toNat? t with
  | some n => if n < least then refuseUse ("invalid " ++ what.toList ++ ' ' :: inQuotes t) else return n
  | none => refuseUse ("invalid " ++ what.toList ++ ' ' :: inQuotes t)

/-- The pattern that an option has. -/
def reviewPattern (t : Text) : Act Regex.Compiled :=
  match Regex.compile Regex.basic false false t with
  | .ok r => return r
  | .error e => giveUp 2 (t ++ ": " ++ e.message)

/-- The names in a list of names that are left out. -/
def excludedIn (path : Text) : Act (List Text) := do
  match ← contentOf path with
  | .ok t => return (linesOf t).filter (· ≠ [])
  | .error e => giveUp 2 (path ++ ": " ++ e)

/-- How files are compared as options ask for it. -/
def reviewOf (a : Arguments) (given : List Text) : Act Review := do
  let styles := (a.options.filterMap fun o => layoutName o.1).eraseDups
  if 1 < styles.length then refuseUse "conflicting output style options"
  let around (keys : List String) : Act Nat := do
    let sizes ← (a.options.filter fun o => (keys.map String.toList).contains o.1 && o.2 ≠ []).mapM fun o =>
      reviewNumber "context length" 0 o.2
    let bare := (a.options.filter fun o => o.1.all Char.isDigit).flatMap (·.1)
    return (sizes.foldl max 0 |> fun n => if sizes.isEmpty then (Text.toNat? bare).getD 3 else n)
  let tabSize ← match a.value? "tabsize" with
    | some t => reviewNumber "tabsize" 1 t
    | none => pure 8
  let widths ← (a.values "W").mapM (reviewNumber "width" 1)
  if 1 < widths.eraseDups.length then giveUp 2 "conflicting width options"
  (a.values "horizon-lines").forM fun t => do
    let _ ← reviewNumber "horizon length" 0 t
  (a.values "color").forM fun t =>
    if t = [] || (["never", "always", "auto"].map String.toList).contains t then pure ()
    else refuseUse ("invalid color " ++ inQuotes t)
  let layout ← match styles.head? with
    | some "context" => pure (Layout.context (← around ["C", "context"]))
    | some "unified" => pure (Layout.unified (← around ["U", "unified"]))
    | some "editor" => pure .editor
    | some "forward" => pure .forward
    | some "counted" => pure .counted
    | some "sides" =>
      pure (.sides ⟨widths.headD 130, tabSize, a.has "t", a.has "left-column", a.has "suppress-common-lines"⟩)
    | some "template" => pure (.template (templateOf a))
    | some _ => pure .normal
    | none => if a.has "p" then do pure (Layout.context (← around [])) else pure .normal
  let heads ← (a.values "F").mapM reviewPattern
  let named ← if a.has "p" then do
      let r ← reviewPattern "^[[:alpha:]$_]"
      pure [r]
    else pure []
  let patterns ← (a.values "I").mapM reviewPattern
  let blanks := a.options.foldl (fun (b : Blanks) o => match String.ofList o.1 with
    | "b" => b.join .amounts
    | "w" => b.join .ignored
    | "E" => b.join (.loose true false)
    | "Z" => b.join (.loose false true)
    | _ => b) .counted
  let listed ← (a.values "X").mapM excludedIn
  return {
    tolerance := ⟨a.has "i", blanks, a.has "strip-trailing-cr", a.has "B", patterns, tabSize⟩
    layout := layout
    inscription := {
      startsWithTab := a.has "T"
      barest := a.has "suppress-blank-empty"
      tabSize := if a.has "t" then some tabSize else none
      colored := a.value? "color" = some "always".toList }
    heads := heads ++ named
    brief := a.has "q"
    tells := a.has "s"
    isText := a.has "a"
    deep := a.has "r"
    fills := a.has "N"
    labels := a.values "L"
    left := (a.values "x" ++ listed.flatten).map namePattern
    first := a.value? "S"
    given := given }

/-- Compare two files line by line. -/
def diff : Routine := fun ts => do
  let a ← comparedArguments reviewFlags ts
  let r ← reviewOf a (givenOptions ts a.operands)
  if 2 < (a.values "L").length then giveUp 2 "too many file label options"
  match a.value? "from-file", a.value? "to-file", a.operands with
  | some _, some _, _ => giveUp 2 "--from-file and --to-file both specified"
  | some f, none, fs => forEach (fun g => r.paths false maxReview f g) fs
  | none, some g, fs => forEach (fun f => r.paths false maxReview f g) fs
  | none, none, [f, g] => r.paths false maxReview f g
  | none, none, _ :: _ :: extra :: _ => refuseUse ("extra operand " ++ inQuotes extra)
  | none, none, operands => do
    let last := ts.getLast?.getD (← get).name
    refuseUse ("missing operand after " ++ inQuotes (operands.headD last))

end Rollout.Program
