import Rollout.Machine.Calendar.Format
import Rollout.Machine.Program.Removing
import Rollout.Machine.Program.Scale
import Rollout.Machine.Version

/-!
What is in directories: names in order, one on a line or in columns, perhaps with what is known of each.
-/

namespace Rollout.Program

open Unix

/-! ### Entries -/

/-- Something that is listed. -/
structure Entry where
  /-- Its name. -/
  name : Text
  /-- Where it is. -/
  place : List Text
  /-- What it is. -/
  tree : FileTree
  /-- What a link leads to, if it is one that leads anywhere. -/
  target : Option FileTree
  /-- Is it a link that should be followed but leads nowhere? -/
  isLost : Bool

/-- The size of what is listed. -/
def sizeOfTree : FileTree → Nat
  | .file data _ => data.length
  | .dir .. => 4096
  | .link target _ => target.length
  | .device .. => 0

/-- The number of blocks of 1024 bytes that something takes. -/
def blocksOf : FileTree → Nat
  | .file data _ => (data.length + 4095) / 4096 * 4
  | .dir .. => 4
  | _ => 0

/-- The number of names that something among files has. -/
def nameCount (root : FileTree) : FileTree → Nat
  | .dir entries _ => 2 + (entries.filter fun e => e.2.isDir).length
  | t => if t.about.shared then max 1 (root.countNode t.about.node) else 1

/-- The numbers of the driver and the unit of a device. -/
def deviceNumbers : Device → Nat × Nat
  | .null => (1, 3)
  | .zero => (1, 5)
  | .full => (1, 7)
  | .random => (1, 8)
  | _ => (0, 0)

/-! ### Wishes -/

/-- The form in which entries are listed. -/
inductive ListingForm
  /-- One on a line, with what is known of it. -/
  | long
  /-- One on a line. -/
  | single
  /-- In columns, one below the other. -/
  | columns
  /-- In columns, one beside the other. -/
  | across
  /-- Between commas. -/
  | commas
  deriving DecidableEq

/-- The order in which entries are listed. -/
inductive ListingOrder
  | byName | asFound | byTime | bySize | byEnding | byVersion | byWidth
  deriving DecidableEq

/-- Which marks stand behind names. -/
inductive ListingMarks
  | none | slashes | kinds | all
  deriving DecidableEq

/-- How files are listed. -/
structure Listing where
  /-- The form. -/
  form : ListingForm
  /-- The order. -/
  order : ListingOrder
  /-- Is the order reversed? -/
  reversed : Bool
  /-- Do directories come first? -/
  dirsFirst : Bool
  /-- The marks behind names. -/
  marks : ListingMarks
  /-- Is the time shown and compared when something was read, instead of when it was changed? -/
  usesReading : Bool
  /-- How a time is shown. -/
  time : Int → Text
  /-- How a name is shown. -/
  name : Text → Text
  /-- How the number of bytes is shown. -/
  size : Scale
  /-- How the number of blocks is shown. -/
  blocks : Scale
  /-- Are numbers of files shown? -/
  numbers : Bool
  /-- Are blocks shown? -/
  showsBlocks : Bool
  /-- The columns about users: the owner, the group and the author. -/
  users : Bool × Bool × Bool
  /-- Are numbers shown in place of names of users? -/
  numeric : Bool
  /-- Are labels for security shown? -/
  labels : Bool
  /-- The greatest width of a line; 0 stands for none. -/
  width : Nat
  /-- The distance of tabulators; 0 stands for none. -/
  tabs : Nat
  /-- What ends a line. -/
  ending : Char
  /-- Are names shown that start with a dot: none, all but two, or all? -/
  hidden : Nat
  /-- Patterns of names that are not shown. -/
  ignored : List Text
  /-- Patterns of names that are not shown unless hidden ones are. -/
  usuallyIgnored : List Text
  /-- Are directories listed like files? -/
  flat : Bool
  /-- Is what is in directories listed, too, at any depth? -/
  recursive : Bool
  /-- Are links followed: none, those that are named and lead to directories, those that are named, or all? -/
  follows : Nat

/-! ### Order -/

/-- The ending of a name from its last dot on. -/
def endingOf (t : Text) : Text := if t.contains '.' then '.' :: ((Text.split '.' t).getLast?.getD []) else []

namespace Listing

/-- The time of something that is shown and compared. -/
def timeOf (l : Listing) (t : FileTree) : Int := if l.usesReading then t.about.used else t.about.changed

/-- Compare entries. -/
def compareEntries (l : Listing) (x y : Entry) : Ordering :=
  let byName : Ordering := if x.name < y.name then .lt else if y.name < x.name then .gt else .eq
  let first : Ordering := match l.order with
    | .byTime => compare (l.timeOf y.tree) (l.timeOf x.tree)
    | .bySize => compare (sizeOfTree y.tree) (sizeOfTree x.tree)
    | .byEnding =>
      let (a, b) := (endingOf x.name, endingOf y.name)
      if a < b then .lt else if b < a then .gt else .eq
    | .byVersion => Version.compare x.name y.name
    | .byWidth => compare x.name.length y.name.length
    | _ => .eq
  first.then byName

/-- Entries in the order that is wanted. -/
def arranged (l : Listing) (es : List Entry) : List Entry :=
  if l.order = .asFound then es
  else
    let sorted := es.mergeSort fun x y => l.compareEntries x y != .gt
    let ordered := if l.reversed then sorted.reverse else sorted
    let isDir (e : Entry) : Bool := e.tree.isDir || (e.target.map FileTree.isDir).getD false
    if l.dirsFirst then ordered.filter isDir ++ ordered.filter fun e => !isDir e else ordered

/-! ### Lines -/

/-- The mark behind the name of something. -/
def markOf (l : Listing) (t : FileTree) : Text :=
  match t, l.marks with
  | _, .none => []
  | .dir .., _ => ['/']
  | _, .slashes => []
  | .link .., _ => ['@']
  | .device .pipe _, _ => ['|']
  | .file _ about, .all => if about.mode &&& FileTree.runMode ≠ 0 then ['*'] else []
  | _, _ => []

/-- The columns of the long form of an entry: for each whether it is filled up on the left. -/
def cells (l : Listing) (root : FileTree) (e : Entry) : List (Bool × Text) :=
  let about := e.tree.about
  let unknown : Text := ['?']
  let known (t : Text) : Text := if e.isLost then unknown else t
  let (owner, group, author) := l.users
  let user := if l.numeric then Text.ofNat about.owner else userName about.owner
  let size : Text := match e.tree with
    | .device .pipe _ => ['0']
    | .device d _ => Text.ofNat (deviceNumbers d).1 ++ ", " ++ Text.ofNat (deviceNumbers d).2
    | t => l.size.text (sizeOfTree t)
  (if l.numbers then [(true, known (Text.ofNat about.node))] else [])
    ++ (if l.showsBlocks then [(true, known (l.blocks.text (1024 * blocksOf e.tree)))] else [])
    ++ [(false, if e.isLost then "l?????????".toList else kindLetter e.tree :: modeText (modeOf e.tree)),
      (true, known (Text.ofNat (nameCount root e.tree)))]
    ++ (if owner then [(false, known user)] else [])
    ++ (if group then [(false, known (if l.numeric then Text.ofNat about.group else groupName about.group))] else [])
    ++ (if author then [(false, known user)] else [])
    ++ (if l.labels then [(false, unknown)] else [])
    ++ [(true, known size), (e.isLost, known (l.time (l.timeOf e.tree)))]

/-- The name of an entry with its mark, and with the target of a link in the long form. -/
def markedName (l : Listing) (e : Entry) : Text :=
  match e.tree, l.form with
  | .link target _, .long =>
    if e.isLost then l.name e.name
    else l.name e.name ++ " -> " ++ l.name target ++ (e.target.map l.markOf).getD []
  | t, _ => l.name e.name ++ l.markOf t

/-- The widths of columns. -/
def widths (rows : List (List (Bool × Text))) : List Nat :=
  rows.foldl (fun ws row => if ws = [] then row.map fun c => c.2.length else
    (ws.zip row).map fun (w, c) => max w c.2.length) []

/-- The lines of the long form. -/
def longLines (l : Listing) (root : FileTree) (es : List Entry) : List Text :=
  let rows := es.map (l.cells root)
  let ws := widths rows
  (rows.zip es).map fun (row, e) =>
    ((ws.zip row).flatMap fun (w, left, t) => (if left then padLeft w t else padRight w t) ++ [' '])
      ++ l.markedName e

/-- The space from one place on a line to another. -/
def spaceBetween (tabs : Nat) : Nat → Nat → Nat → Text
  | 0, _, _ => []
  | fuel + 1, start, stop =>
    if stop ≤ start then []
    else if tabs ≠ 0 && (start + 1) / tabs < stop / tabs then
      '\t' :: spaceBetween tabs fuel (start + tabs - start % tabs) stop
    else ' ' :: spaceBetween tabs fuel (start + 1) stop

/-- A line of cells, each at the start of its column. -/
def cellLine (tabs : Nat) (ws : List Nat) (cells : List Text) : Text :=
  let rec go (place column : Nat) : List Nat → List Text → Text
    | w :: ws, c :: cs =>
      spaceBetween tabs (column + 1) place column ++ c ++ go (column + c.length) (column + w) ws cs
    | _, _ => []
  go 0 0 ws cells

/-- The cells in rows, going down or across. -/
def rowsFor (down : Bool) (columns : Nat) (cells : List Text) : List (List Text) :=
  let rows := (cells.length + columns - 1) / max columns 1
  (List.range rows).map fun r => (List.range columns).filterMap fun c =>
    cells[if down then c * rows + r else r * columns + c]?

/-- The least width of a column. -/
def leastColumn : Nat := 3

/-- The widths of the columns of cells in rows, of which all but the last have room behind them. -/
def columnWidths (columns : Nat) (rows : List (List Text)) : List Nat :=
  (List.range columns).map fun c =>
    let width := (rows.filterMap fun r => (r[c]?).map List.length).foldl max 0
    max leastColumn (if c + 1 = columns || width = 0 then width else width + 2)

/-- The cells in as many columns as a line has room for. -/
def inColumns (l : Listing) (down : Bool) (cells : List Text) : Text :=
  let most := min cells.length ((l.width + leastColumn - 1) / leastColumn)
  let fits (columns : Nat) : Bool := (columnWidths columns (rowsFor down columns cells)).foldl (· + ·) 0 < l.width
  let columns := (((List.range (most + 1)).reverse.filter (0 < ·)).find? fits).getD 1
  let rows := rowsFor down columns cells
  rows.flatMap fun r => cellLine l.tabs (columnWidths columns rows) r ++ [l.ending]

/-- What stands between a comma at a place on a line and a cell. -/
def gap (l : Listing) (place : Nat) (t : Text) : Text :=
  if place = 0 then [] else if l.width = 0 || place + t.length + 2 < l.width then [' '] else ['\n']

/-- Cells between commas. -/
def betweenCommas (l : Listing) : Nat → List Text → Text
  | _, [] => [l.ending]
  | place, [t] => l.gap place t ++ t ++ [l.ending]
  | place, t :: ts =>
    let gap := l.gap place t
    gap ++ t ++ ',' :: betweenCommas l (if gap = ['\n'] then t.length else place + gap.length + t.length) ts

/-- Entries in the form that is wanted. -/
def text (l : Listing) (root : FileTree) (es : List Entry) : Text :=
  let number (e : Entry) : Text := Text.ofNat e.tree.about.node
  let blocks (e : Entry) : Text := l.blocks.text (1024 * blocksOf e.tree)
  let width (f : Entry → Text) : Nat := if l.form = .commas then 0 else es.foldl (fun n e => max n (f e).length) 0
  let framed (e : Entry) : Text :=
    (if l.numbers then padLeft (width number) (number e) ++ [' '] else [])
      ++ (if l.showsBlocks then padLeft (width blocks) (blocks e) ++ [' '] else [])
      ++ (if l.labels then ['?', ' '] else []) ++ l.markedName e
  match l.form with
  | .long => (l.longLines root es).flatMap (· ++ [l.ending])
  | .single => es.flatMap fun e => framed e ++ [l.ending]
  | .columns => if l.width = 0 then Text.join "  " (es.map framed) ++ [l.ending] else l.inColumns true (es.map framed)
  | .across => if l.width = 0 then Text.join "  " (es.map framed) ++ [l.ending] else l.inColumns false (es.map framed)
  | .commas => if es = [] then [] else l.betweenCommas 0 (es.map framed)

/-! ### Directories -/

/-- Does one of the patterns cover a name? -/
def isCovered (patterns : List Text) (name : Text) : Bool := patterns.any fun p => (namePattern p).covers name

/-- Is an entry of a directory listed? -/
def isShown (l : Listing) (name : Text) : Bool :=
  (0 < l.hidden || (name.head? ≠ some '.' && !isCovered l.usuallyIgnored name)) && !isCovered l.ignored name

/-- An entry with a name at a place, where links may be followed. -/
def entryAt (p : Process) (follows : Bool) (name : Text) (place : List Text) (t : FileTree) : Entry :=
  match t with
  | .link target _ =>
    let next := (p.root.locate place.dropLast target).toOption
    let leads := (next.bind p.root.at?).bind p.behind
    match follows, leads with
    | true, some u => ⟨name, next.getD place, u, none, false⟩
    | true, none => ⟨name, place, t, none, true⟩
    | false, leads => ⟨name, place, t, leads, false⟩
  | t => ⟨name, place, (p.behind t).getD t, none, false⟩

/-- What is listed of a directory. -/
def entriesOf (l : Listing) (p : Process) (place : List Text) : List Entry :=
  match p.root.at? place with
  | some (.dir entries about) =>
    let named := (entries.filter fun e => l.isShown e.1).map fun (n, t) => entryAt p (l.follows = 3) n (place ++ [n]) t
    let dots := if l.hidden < 2 then [] else [Entry.mk ['.'] place (.dir entries about) none false,
      Entry.mk ['.', '.'] place.dropLast ((p.root.at? place.dropLast).getD .emptyDir) none false]
    (dots.filter fun e => !isCovered l.ignored e.name) ++ named
  | _ => []

/-- How deep directories are listed. -/
def maxDepth : Nat := 1000

/-- List a directory, and perhaps those below it; gives the status. -/
def directory (l : Listing) (titled : Bool) : Nat → Bool → Text → List Text → Act Nat
  | 0, _, _, _ => tooLong
  | fuel + 1, isFirst, path, place => do
    let p ← get
    let es := l.arranged (l.entriesOf p place)
    let lost := if l.form = .long || l.showsBlocks || l.order = .byTime || l.order = .bySize then es.filter (·.isLost)
      else []
    lost.forM fun e =>
      let shown := if path = ['.'] then e.name else below path e.name
      grumble ("cannot access " ++ inShellQuotes shown ++ ": " ++ describeFault .missing)
    if titled || l.recursive then say ((if isFirst then [] else ['\n']) ++ l.name path ++ ":\n")
    if l.form = .long || l.showsBlocks then
      let total := (es.map fun e => if e.isLost then 0 else 1024 * blocksOf e.tree).foldl (· + ·) 0
      say ("total " ++ l.blocks.text total ++ [l.ending])
    say (l.text p.root es)
    let inner := es.filter fun e => l.recursive && e.tree.isDir && e.name ≠ ['.'] && e.name ≠ ['.', '.']
    let status ← forEach (fun e => directory l true fuel false (below path e.name) e.place) inner
    return max status (if lost = [] then 0 else 1)

end Listing

/-! ### Options -/

/-- The options of `ls`. -/
def lsFlags : List Flag :=
  [.plain 'a' "all", .plain 'A' "almost-all", .plain 'b' "escape", .plain 'B' "ignore-backups", .plain 'c' "",
    .plain 'C' "", .plain 'd' "directory", .plain 'D' "dired", .plain 'f' "",
    ⟨none, some "classify".toList, .optional⟩, .plain 'F' "", .plain 'g' "", .plain 'G' "no-group",
    .plain 'h' "human-readable", .plain 'H' "dereference-command-line", .valued 'I' "ignore", .plain 'i' "inode",
    .plain 'k' "kibibytes", .plain 'l' "", .plain 'L' "dereference", .plain 'm' "", .plain 'n' "numeric-uid-gid",
    .plain 'N' "literal", .plain 'o' "", .plain 'p' "", .plain 'q' "hide-control-chars", .plain 'Q' "quote-name",
    .plain 'r' "reverse", .plain 'R' "recursive", .plain 's' "size", .plain 'S' "", .plain 't' "",
    .valued 'T' "tabsize", .plain 'u' "", .plain 'U' "", .plain 'v' "", .valued 'w' "width", .plain 'x' "",
    .plain 'X' "", .plain 'Z' "context", .plain '1' "", .valuedWord "sort", .valuedWord "time",
    .valuedWord "time-style", .valuedWord "hide", .valuedWord "quoting-style", .wordOnly "full-time",
    .wordOnly "zero", .wordOnly "group-directories-first", .wordOnly "file-type", .wordOnly "author", .wordOnly "si",
    .wordOnly "show-control-chars", ⟨none, some "color".toList, .optional⟩, .valuedWord "block-size",
    .valuedWord "format", .valuedWord "indicator-style", ⟨none, some "hyperlink".toList, .optional⟩,
    .wordOnly "dereference-command-line-symlink-to-dir"]

/-- The form that an option asks for. -/
def formOf (now : Option ListingForm) (key value : Text) : Act (Option ListingForm) := do
  match String.ofList key with
  | "l" | "g" | "o" | "n" | "full-time" => return some .long
  | "1" => return if now = some .long then now else some .single
  | "C" => return some .columns
  | "x" => return some .across
  | "m" => return some .commas
  | "zero" => return if now = some .long then now else some .single
  | "f" => return if now = some .long then none else now
  | "format" =>
    return [some ListingForm.long, some .commas, some .across, some .columns, some .single].getD
      (← chooseGroup 1 "--format"
        [["verbose", "long"], ["commas"], ["horizontal", "across"], ["vertical"], ["single-column"]] value) none
  | _ => return now

/-- The order that an option asks for. -/
def orderOf (now : Option ListingOrder) (key value : Text) : Act (Option ListingOrder) := do
  match String.ofList key with
  | "t" => return some .byTime
  | "S" => return some .bySize
  | "X" => return some .byEnding
  | "U" => return some .asFound
  | "f" => return some .asFound
  | "v" => return some .byVersion
  | "sort" =>
    return [some ListingOrder.asFound, some .byTime, some .bySize, some .byEnding, some .byVersion,
      some .byWidth].getD (← chooseGroup 1 "--sort" [["none"], ["time"], ["size"], ["extension"], ["version"], ["width"]]
        value) none
  | _ => return now

/-- The marks that an option asks for. -/
def marksOf (now : ListingMarks) (key value : Text) : Act ListingMarks := do
  match String.ofList key with
  | "F" => return .all
  | "classify" => do
    if value = [] then return .all
    let when' ← chooseGroup 1 "--classify" [["always", "yes", "force"], ["never", "no", "none"], ["auto", "tty", "if-tty"]]
      value
    return if when' = 0 then .all else .none
  | "p" => return .slashes
  | "file-type" => return .kinds
  | "indicator-style" =>
    return [ListingMarks.none, .slashes, .kinds, .all].getD
      (← chooseGroup 1 "--indicator-style" [["none"], ["slash"], ["file-type"], ["classify"]] value) .none
  | _ => return now

/-- How names are shown: as they are, between double quotes, with escapes, with marks, or as a shell needs them. -/
def nameStyle (style : String) : Text → Text :=
  match style with
  | "c" => fun t => '"' :: Quotation.backslashed '"' t ++ ['"']
  | "c-maybe" => fun t =>
    let shown := Quotation.backslashed '"' t
    if shown = t then t else '"' :: shown ++ ['"']
  | "escape" => fun t => t.flatMap fun c =>
    if c = ' ' || c = '\\' then ['\\', c] else if Quotation.isPrinted c then [c] else '\\' :: Quotation.escape c
  | "marks" => fun t => t.map fun c => if Quotation.isPrinted c then c else '?'
  | "locale" => inQuotes
  | "clocale" => fun t => '"' :: Quotation.backslashed '"' t ++ ['"']
  | "shell" => fun t =>
    if !Quotation.isNeeded t then t
    else if t.all Quotation.isPrinted then inShellQuotes t
    else '\'' :: (t.flatMap fun c => if c = '\'' then "'\\''".toList else [c]) ++ ['\'']
  | "shell-escape" => nameOf
  | "shell-always" => inShellQuotes
  | "shell-escape-always" => inShellQuotes
  | _ => id

/-- How names are shown that an option asks for. -/
def styleOf (now : String) (key value : Text) : Act String := do
  match String.ofList key with
  | "b" => return "escape"
  | "Q" => return "c"
  | "N" => return "literal"
  | "q" => return if now = "literal" then "marks" else now
  | "zero" => return "literal"
  | "quoting-style" =>
    choose 1 "--quoting-style" [["literal"], ["shell"], ["shell-always"], ["shell-escape"], ["shell-escape-always"],
      ["c"], ["c-maybe"], ["escape"], ["locale"], ["clocale"]] value
  | _ => return now

/-- How long ago something was at most that counts as recent: half a year, in nanoseconds. -/
def recently : Int := 15778476 * Calendar.second

/-- How times are shown in a style. -/
def timeStyle (p : Process) (style : Text) : Act (Int → Text) := do
  let zone := zoneOf p
  let two (old recent : Text) : Int → Text := fun moment =>
    let isRecent := p.now - recently < moment && moment ≤ p.now
    Calendar.format (.ofMoment zone moment) (if isRecent then recent else old)
  let same (t : Text) : Int → Text := two t t
  match style with
  | '+' :: format => match Text.split '\n' format with
    | old :: recent :: _ => return two old recent
    | _ => return same format
  | style => do
    let style := if "posix-".toList.isPrefixOf style then style.drop 6 else style
    match String.ofList style with
    | "full-iso" => return same "%Y-%m-%d %H:%M:%S.%N %z"
    | "long-iso" => return same "%Y-%m-%d %H:%M"
    | "iso" => return two "%Y-%m-%d " "%m-%d %H:%M"
    | "locale" => return two "%b %e  %Y" "%b %e %H:%M"
    | _ => do
      grumble ("invalid argument " ++ inQuotes style ++ " for 'time style'")
      complain "Valid arguments are:"
      ["[posix-]full-iso", "[posix-]long-iso", "[posix-]iso", "[posix-]locale",
        "+FORMAT (e.g., +%H:%M) for a 'date'-style format"].forM fun t => complain ("  - " ++ t.toList)
      seeHelp 2

/-- How files are listed as options say. -/
def listingOf (usual : ListingForm × String) (a : Arguments) : Act Listing := do
  let p ← get
  let number (key : String) (what : Text) (default : Nat) : Act Nat := do
    match a.value? key with
    | none => return default
    | some t => match Text.toNat? t with
      | some n => return n
      | none => giveUp 2 ("invalid " ++ what ++ ": " ++ inQuotes t)
  let width ← number "w" "line width" 80
  let tabs ← number "T" "tab size" 8
  let given ← a.options.foldlM (fun now (key, value) => formOf now key value) none
  let form := given.getD usual.1
  let order ← a.options.foldlM (fun now (key, value) => orderOf now key value) none
  let marks ← a.options.foldlM (fun now (key, value) => marksOf now key value) ListingMarks.none
  let style ← a.options.foldlM (fun now (key, value) => styleOf now key value) usual.2
  let times ← a.options.filterMapM fun (key, value) => do
    match String.ofList key with
    | "u" => return some 0
    | "c" => return some 1
    | "time" => some <$> chooseGroup 1 "--time" [["atime", "access", "use"], ["ctime", "status"],
        ["mtime", "modification"], ["birth", "creation"]] value
    | _ => return none
  for t in a.values "color" do
    if t ≠ [] then
      let _ ← choose 1 "--color" [["always", "yes", "force"], ["never", "no", "none"], ["auto", "tty", "if-tty"]] t
  let scale ← match a.value? "block-size" with
    | none => pure none
    | some t => match Scale.read? t with
      | some s => pure (some s)
      | none => giveUp 2 ("invalid --block-size argument " ++ inQuotes t)
  let human : Option Scale := match a.last? ["h", "si", "k", "block-size"] with
    | some t => (match String.ofList t with
      | "h" => some (.readable 1024)
      | "si" => some (.readable 1000)
      | "k" => none
      | _ => scale)
    | none => none
  let time : Int → Text ←
    if form ≠ .long then pure (fun _ => [])
    else timeStyle p (if a.last? ["time-style", "full-time"] = some "full-time".toList then "full-iso"
      else (a.value? "time-style").getD ((p.env.get? "TIME_STYLE").getD "locale"))
  let implied : ListingOrder :=
    if form ≠ .long && (times.getLast?.any fun n => n ≠ 2) then .byTime else .byName
  return {
    form := form
    order := order.getD implied
    reversed := a.has "r"
    dirsFirst := a.has "group-directories-first"
    marks := marks
    usesReading := times.getLast? = some 0
    time := time
    name := nameStyle style
    size := human.getD (.units 1 [])
    blocks := human.getD (.units 1024 [])
    numbers := a.has "i"
    showsBlocks := a.has "s" && a.last? ["s", "f"] ≠ some ['f']
    users := (!a.has "g", !(a.has "o" || a.has "G"), a.has "author")
    numeric := a.has "n"
    labels := a.has "Z"
    width := width
    tabs := tabs
    ending := if a.has "zero" then '\x00' else '\n'
    hidden := match a.last? ["a", "A", "f"] with
      | none => 0
      | some ['A'] => 1
      | some _ => 2
    ignored := a.values "I" ++ (if a.has "B" then ["*~", ".*~"] else []).map String.toList
    usuallyIgnored := a.values "hide"
    flat := a.has "d"
    recursive := a.has "R"
    follows := if a.has "L" then 3 else if a.has "H" then 2
      else if a.has "dereference-command-line-symlink-to-dir" then 1
      else if a.has "d" || marks = .all || form = .long then 0 else 1 }

/-- List files, and what is in directories, in a form and a style of names that options may change. -/
def listFiles (usual : ListingForm × String) : Routine := fun ts => do
  let a ← arguments lsFlags true 2 ts
  let l ← listingOf usual a
  let p ← get
  -- a current directory that has been removed holds nothing
  let isGone := !((p.root.at? p.cwd).map (·.isDir)).getD false
  if isGone && (a.operands = [] || a.operands = [['.']]) then return 0
  let paths := if a.operands = [] then [['.']] else a.operands
  let found ← paths.mapM fun path => do
    let refuse (e : Text) : Act (Option Entry) := do
      grumble ("cannot access " ++ inShellQuotes path ++ ": " ++ e)
      return none
    match p.entry path with
    | .error e => refuse e
    | .ok (place, t) =>
      let followed := Listing.entryAt p true path place t
      let own := Listing.entryAt p false path place t
      if l.follows < 2 then return some (if l.follows = 1 && !l.flat && followed.tree.isDir then followed else own)
      else if !followed.isLost then return some followed
      else match p.look path with
        | .error e => refuse e
        | .ok _ => return some followed
  let listed := l.arranged (found.filterMap id)
  let isInside (e : Entry) : Bool := e.tree.isDir && !l.flat
  let files := listed.filter fun e => !isInside e
  if files ≠ [] then say (l.text p.root files)
  let dirs := (listed.filter isInside).zipIdx
  let status ← forEach (fun (e, n) =>
    l.directory (1 < paths.length) Listing.maxDepth (files = [] && n = 0) e.name e.place) dirs
  return max status (if found.all Option.isSome then 0 else 2)

/-- List files, and what is in directories. -/
def ls : Routine := listFiles (.single, "literal")

/-- List files in columns. -/
def dir : Routine := listFiles (.columns, "escape")

/-- List files with what is known of them. -/
def vdir : Routine := listFiles (.long, "escape")

end Rollout.Program
