import Rollout.Machine.Shell.Builtin.Declaring

/-!
Commands that read: lines into variables, and options from arguments.
-/

namespace Rollout.Shell.Builtin

/-! ### Lines -/

/-- A character of a line, and whether it stood behind a backslash. -/
abbrev Letter := Char × Bool

/-- The characters of a line without the backslashes in front of them, and whether a backslash is left at the
end. -/
def lettersOf : Text → List Letter × Bool
  | [] => ([], false)
  | ['\\'] => ([], true)
  | '\\' :: c :: cs =>
    let (ls, left) := lettersOf cs
    ((c, true) :: ls, left)
  | c :: cs =>
    let (ls, left) := lettersOf cs
    ((c, false) :: ls, left)

/-- A line from a descriptor up to a character, and whether that was there. A backslash takes the meaning of the
character after it away, unless the line is raw. -/
def readLine (descriptor : Nat) (raw : Bool) (stop : Char) : Nat → Action (List Letter × Bool)
  | 0 => return ([], false)
  | fuel + 1 => do
    let (t, ended) ← Unix.readUntil descriptor stop
    let t := t.filter (· ≠ '\x00')
    if raw then return (t.map (·, false), ended)
    else
      let (ls, left) := lettersOf t
      if left && ended then do
        let (more, ended) ← readLine descriptor raw stop fuel
        return (ls ++ more, ended)
      else return (ls, ended)

/-- The greatest number of lines that are read as one. -/
def maxLines : Nat := 10000

/-- Is it a separator? -/
def separates (separators : Text) (l : Letter) : Bool := !l.2 && separators.contains l.1

/-- Is it a separator that does not count by itself? -/
def isBlank (separators : Text) (l : Letter) : Bool := separates separators l && isBlankSeparator l.1

/-- The characters without blanks at their end. -/
def withoutBlanks (separators : Text) (ls : List Letter) : List Letter :=
  (ls.reverse.dropWhile (isBlank separators)).reverse

/-- The value that the last variable gets: a separator after a single field is not part of it. -/
def lastValue (separators : Text) (ls : List Letter) : Text :=
  let all := withoutBlanks separators ls
  let single := match all.reverse with
    | l :: rest =>
      let field := withoutBlanks separators rest.reverse
      if separates separators l && !field.any (separates separators) then field else all
    | [] => all
  single.map (·.1)

/-- What follows a field and the separator behind it. -/
def afterSeparator (separators : Text) (ls : List Letter) : List Letter :=
  let rest := ls.dropWhile (isBlank separators)
  match rest with
  | l :: more => if separates separators l then more.dropWhile (isBlank separators) else rest
  | [] => []

/-- Share a line among variables; the last one gets all that is left. -/
def shareOut (separators : Text) : List Text → List Letter → List (Text × Text)
  | [], _ => []
  | [name], ls => [(name, lastValue separators (ls.dropWhile (isBlank separators)))]
  | name :: names, ls =>
    let start := ls.dropWhile (isBlank separators)
    let value := start.takeWhile fun l => !separates separators l
    (name, value.map (·.1)) :: shareOut separators names (afterSeparator separators (start.drop value.length))

/-- The fields of a line. -/
def fieldsOf (separators : Text) : Nat → List Letter → List Text
  | 0, _ => []
  | fuel + 1, ls => match ls.dropWhile (isBlank separators) with
    | [] => []
    | start =>
      let value := start.takeWhile fun l => !separates separators l
      value.map (·.1) :: fieldsOf separators fuel (afterSeparator separators (start.drop value.length))

/-- Give variables their values. -/
def assignEach : List (Text × Text) → Action Unit
  | [] => pure ()
  | (name, value) :: rest => do
    assignTo name value
    assignEach rest

/-- What is wrong with a number among the options of reading. -/
def wrongNumber? (value? : Char → Option Text) : Option Text :=
  let isTime (t : Text) : Bool := t ≠ [] && t.all fun c => c.isDigit || c = '.'
  let wrong (c : Char) (fits : Text → Bool) (what : String) : Option Text :=
    ((value? c).filter (!fits ·)).map fun t => t ++ ':' :: ' ' :: what.toList
  let isNumber (t : Text) : Bool := (Text.toNat? t).isSome
  ((wrong 't' isTime "invalid timeout specification").or (wrong 'n' isNumber "invalid number")).or
    ((wrong 'N' isNumber "invalid number").or (wrong 'u' isNumber "invalid file descriptor specification"))

/-- The time in microseconds that a text tells in seconds. -/
def microseconds (t : Text) : Nat :=
  let whole := t.takeWhile (· ≠ '.')
  let part := (t.drop (whole.length + 1)).take 6
  (Text.toNat? whole).getD 0 * 1000000 + (Text.toNat? (part ++ List.replicate (6 - part.length) '0')).getD 0

/-- Read characters and give variables their values, unless that takes too long. -/
def readInto (os : List (Char × Text)) (names : List Text) (descriptor : Nat) : Action Nat := do
  let s ← get
  let value? (c : Char) : Option Text := (os.reverse.find? (·.1 = c)).map (·.2)
  let count := ((value? 'N').or (value? 'n')).bind Text.toNat?
  let stop := match value? 'd' with
    | some (c :: _) => c
    | some [] => '\x00'
    | none => '\n'
  let (ls, ended) ← match count with
    | some n => do
      let t ← Unix.readSome descriptor n
      let line := if has os 'N' then t else t.takeWhile (· ≠ stop)
      pure (line.map (·, false), line.length < t.length || t.length = n)
    | none => readLine descriptor (has os 'r') stop maxLines
  let limit := if s.dialect = .rich then (value? 't').map microseconds else none
  match limit with
  | some n =>
    if s.waited + n < (← get).waited then
      set s
      Unix.pass n
      names.forM fun name => assignTo name []
      return 142
  | none => pure ()
  let separators := s.separators
  match value? 'a', names with
  | some name, _ => do
    let values := fieldsOf separators (ls.length + 1) ls
    assignContent name (.list ((List.range values.length).zip values))
  | none, [] => assign "REPLY" (ls.map (·.1))
  | none, names =>
    if has os 'N' then assignEach ((names.take 1).map fun n => (n, ls.map (·.1)))
    else assignEach (shareOut separators names ls)
  return if ended then 0 else 1

/-- Read a line into variables. -/
def read : Routine := fun ts => do
  let s ← get
  let rich := s.dialect = .rich
  let (os, names) ← match s.dialect with
    | .plain => options "r" "p" ts
    | .rich => options "ers" "adinNptu" ts
  let value? (c : Char) : Option Text := (os.reverse.find? (·.1 = c)).map (·.2)
  if !rich && names = [] then abort "arg count"
  match names.find? fun t => !Shell.isName (elementOf t).1 with
  | some t => match s.dialect with
    | .plain => abort (t ++ ": bad variable name")
    | .rich => do
      protest ('`' :: t ++ "': not a valid identifier")
      return 1
  | none => match if rich then wrongNumber? value? else none with
    | some message => do
      protest message
      return 1
    | none =>
      let descriptor := ((value? 'u').bind Text.toNat?).getD 0
      if rich && (value? 't').any fun t => microseconds t = 0 then return 0
      else if rich && (s.descriptors.lookup descriptor).isNone then do
        protest (Text.ofNat descriptor ++ ": invalid file descriptor: Bad file descriptor")
        return 1
      else readInto os names descriptor

/-- How lines are read into an array. -/
structure Mapping where
  /-- The descriptor that they are read from. -/
  descriptor : Nat
  /-- The character that ends them. -/
  stop : Char
  /-- Is that character left out? -/
  chops : Bool
  /-- How many are read, or 0 for all. -/
  count : Nat
  /-- What is run on the way, and after how many lines each time. -/
  call : Option (Text × Nat)

/-- Read lines into an array from an index on, after a number of lines. -/
def mapLines (run : Text → Action Unit) (m : Mapping) (name : Text) : Nat → Nat → Nat → Action Unit
  | 0, _, _ => return
  | fuel + 1, index, line => do
    let (t, ended) ← Unix.readUntil m.descriptor m.stop
    if t ≠ [] || ended then
      let value := if ended && !m.chops then t ++ [m.stop] else t
      match m.call with
      | some (command, every) =>
        if line % every = 0 then run (command ++ ' ' :: Text.ofNat index ++ ' ' :: Quoting.single value)
      | none => pure ()
      assignElement name (.inr index) value
      if m.count = 0 || line < m.count then mapLines run m name fuel (index + 1) (line + 1)

/-- How many lines are read into an array. -/
def maxMapped : Nat := 100000

/-- How many lines are read between two commands that are run on the way. -/
def usualQuantum : Nat := 5000

/-- Read lines into an array; texts are run as commands on the way. -/
def mapfile (run : Text → Action Unit) : Routine := fun ts => do
  let (os, names) ← options "t" "dnOsuCc" ts
  let name := names.head?.getD "MAPFILE"
  let value? (c : Char) : Option Text := (os.reverse.find? (·.1 = c)).map (·.2)
  let number (c : Char) : Nat := ((value? c).bind Text.toNat?).getD 0
  let wrong := (["n", "O", "s", "u", "c"] : List Text).find? fun o => (value? (o.headD 'n')).any fun t => (Text.toNat? t).isNone
  let s ← get
  match wrong with
  | some o => do
    let t := (value? (o.headD 'n')).getD []
    protest (t ++ match String.ofList o with
      | "n" => ": invalid line count".toList
      | "O" => ": invalid array origin"
      | "s" => ": invalid line count"
      | "u" => ": invalid file descriptor specification"
      | _ => ": invalid callback quantum")
    return 1
  | none =>
    if !Shell.isName name then do
      protest ('`' :: name ++ "': not a valid identifier")
      return 1
    else if (s.descriptors.lookup (number 'u')).isNone then do
      protest (Text.ofNat (number 'u') ++ ": invalid file descriptor: Bad file descriptor")
      return 1
    else match (s.holder? name).map Variable.content with
      | some (.table _) => do
        protest (name ++ ": not an indexed array")
        return 1
      | c => do
        let stop := match value? 'd' with
          | some (c :: _) => c
          | some [] => '\x00'
          | none => '\n'
        let quantum := if number 'c' = 0 then usualQuantum else number 'c'
        let m : Mapping := ⟨number 'u', stop, has os 't', number 'n', (value? 'C').map (·, quantum)⟩
        let kept := match has os 'O', c with
          | true, some (.list es) => es
          | true, some (.text t) => [(0, t)]
          | _, _ => []
        assignContent name (.list kept)
        (List.range (number 's')).forM fun _ => do let _ ← Unix.readUntil m.descriptor stop
        mapLines run m name maxMapped (number 'O') 1
        return 0

/-! ### Options -/

/-- What an option string says about a letter: nothing, or whether the option takes a value. -/
def optionKind? (c : Char) : Text → Option Bool
  | [] => none
  | d :: ':' :: cs => if d = c then some true else optionKind? c cs
  | d :: cs => if d = c then some false else optionKind? c cs

/-- Where reading options from arguments has come to: the arguments that are left, and the number of characters
of the one before them that have been read. -/
structure Reached where
  /-- The number of arguments that have been read, the current one included. -/
  count : Nat
  /-- The number of characters of the current argument that have been read, or none if it is read. -/
  taken : Nat

/-- Read the next option from arguments. -/
def nextOption (args : List Text) (r : Reached) : Option Char × Reached :=
  let current := if r.taken = 0 then [] else (args[r.count - 1]?.getD []).drop r.taken
  match current with
  | c :: _ => (some c, { r with taken := r.taken + 1 })
  | [] => match args[r.count]? with
    | some ['-', '-'] => (none, ⟨r.count + 1, 0⟩)
    | some ('-' :: c :: _) => (some c, ⟨r.count + 1, 2⟩)
    | _ => (none, ⟨r.count, 0⟩)

/-- Read the next option of the arguments into a variable. -/
def getopts : Routine := fun ts => do
  let s ← get
  match ts with
  | known :: name :: rest => do
    let args := if rest = [] then s.arguments else rest
    let silent := known.head? = some ':'
    let index := ((s.value? "OPTIND").bind Text.toNat?).getD 1
    let done := if s.dialect = .plain then s.passed else if s.taken ≠ 0 then index else index - 1
    let (found, r) := nextOption args ⟨done, s.taken⟩
    let word := args[r.count - 1]?.getD []
    let atEnd := word.length ≤ r.taken
    let quiet := silent || (s.value? "OPTERR") = some ['0']
    let grumble (plain rich : Text) : Action Unit := do
      if !quiet then mutter (match s.dialect with
        | .plain => plain
        | .rich => s.name ++ ": " ++ rich)
    let (letter, value, r) : Char × Option Text × Reached ← match found with
      | none => pure ('?', none, r)
      | some c => match if c = ':' then none else optionKind? c known with
        | none => do
          grumble ("Illegal option -" ++ [c]) ("illegal option -- " ++ [c])
          pure ('?', if silent then some [c] else none, r)
        | some false => pure (c, if s.dialect = .plain then some [] else none, r)
        | some true =>
          if !atEnd then pure (c, some (word.drop r.taken), ⟨r.count, 0⟩)
          else match args[r.count]? with
            | some v => pure (c, some v, ⟨r.count + 1, 0⟩)
            | none => do
              grumble ("No arg for -" ++ c :: " option".toList) ("option requires an argument -- " ++ [c])
              pure (if silent then ':' else '?', if silent then some [c] else none, ⟨r.count, 0⟩)
    let open? := 0 < r.taken && r.taken < word.length
    let next := if s.dialect = .rich && open? then r.count else r.count + 1
    match value with
    | some v => assign "OPTARG" v
    | none => if found.isSome then modify fun s => { s with toState := s.without "OPTARG" } else pure ()
    assign "OPTIND" (Text.ofNat next)
    modify fun s => { s with
      taken := if open? then r.taken else 0
      passed := next - 1 }
    if !Shell.isName name then
      match s.dialect with
      | .plain => abort (name ++ ": bad variable name")
      | .rich => do
        protest ('`' :: name ++ "': not a valid identifier")
        return 1
    else do
      assign name [letter]
      return if found.isNone then 1 else 0
  | _ => match s.dialect with
    | .plain => abort "Usage: getopts optstring var [arg...]"
    | .rich => do
      showUsage
      return 2

end Rollout.Shell.Builtin
