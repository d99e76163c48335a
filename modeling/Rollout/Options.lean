import Rollout.Text.Basic

/-!
The options of the command line. A setting takes a value, attached to it or in the next argument; a switch
takes none. A value in the next argument counts only when the option after it, or the end, is reached.
-/

namespace Rollout

/-- What the command line asks for. -/
structure Options where
  /-- The path of the Upfile. -/
  upfile : Text
  /-- The path of the inventory. -/
  inventory : Text
  /-- The command to run. -/
  command : Option Text
  /-- The tags to run it on. -/
  tags : Option Text
  /-- The size of groups, zero for no limit. -/
  serial : Nat
  /-- The directory that is deployed. -/
  directory : Text
  /-- Ask before each group. -/
  prompt : Bool
  /-- Log everything. -/
  verbose : Bool
  /-- List the commands instead of running one. -/
  list : Bool
  deriving DecidableEq

namespace Options

/-- Options that take a value. -/
inductive Setting | upfile | inventory | command | tags | serial | directory
  deriving DecidableEq

/-- Options that take none. -/
inductive Switch | prompt | verbose | list | help | version
  deriving DecidableEq

/-- Why there are no options; help and version are asked for instead of options. -/
inductive OptionError | unknownArgument | missingValue | invalidNumber | repeated | needlessValue | help | version
  deriving DecidableEq

/-- An option of either kind. -/
inductive Name
  | setting (s : Setting)
  | switch (s : Switch)

/-- The option of a letter. -/
def ofLetter? : Char → Option Name
  | 'f' => some (.setting .upfile)
  | 'i' => some (.setting .inventory)
  | 'c' => some (.setting .command)
  | 't' => some (.setting .tags)
  | 'n' => some (.setting .serial)
  | 'd' => some (.setting .directory)
  | 'p' => some (.switch .prompt)
  | 'v' => some (.switch .verbose)
  | 'l' => some (.switch .list)
  | 'h' => some (.switch .help)
  | 'V' => some (.switch .version)
  | _ => none

/-- The options by their long names. -/
def longNames : List (Text × Name) :=
  [("upfile".toList, .setting .upfile), ("inventory".toList, .setting .inventory),
    ("command".toList, .setting .command), ("tags".toList, .setting .tags),
    ("serial".toList, .setting .serial), ("directory".toList, .setting .directory),
    ("prompt".toList, .switch .prompt), ("verbose".toList, .switch .verbose),
    ("list".toList, .switch .list), ("help".toList, .switch .help), ("version".toList, .switch .version)]

/-! ### Values -/

/-- The number of a group size: digits, perhaps behind a plus sign, below 2^64. -/
def serial? (t : Text) : Option Nat :=
  let digits := match t with
    | '+' :: rest => rest
    | _ => t
  (Text.toNat? digits).filter (· < 18446744073709551616)

/-- The options with what was given so far; `given` are the settings among them. -/
structure Given where
  /-- The options. -/
  options : Options
  /-- The settings that were given. -/
  settings : List Setting
  /-- The switches that were given. -/
  switches : List Switch

/-- Nothing was given. -/
def nothingGiven : Given :=
  ⟨⟨"Upfile", "inventory.json", none, none, 1, ".", false, false, false⟩, [], []⟩

/-- Take the value of a setting, or note that it is missing. Paths must not be empty. -/
def takeValue (g : Given) (s : Setting) : Option Text → Except OptionError Given
  | none => .error .missingValue
  | some v =>
    if s ∈ g.settings then .error .repeated
    else
      let o := g.options
      let given (o : Options) : Except OptionError Given := .ok { g with options := o, settings := s :: g.settings }
      match s with
      | .upfile => given { o with upfile := v }
      | .inventory => if v = [] then .error .missingValue else given { o with inventory := v }
      | .command => given { o with command := some v }
      | .tags => given { o with tags := some v }
      | .serial => match serial? v with
        | some n => given { o with serial := n }
        | none => .error .invalidNumber
      | .directory => if v = [] then .error .missingValue else given { o with directory := v }

/-- Turn a switch on. -/
def turnOn (g : Given) (s : Switch) : Except OptionError Given :=
  if s ∈ g.switches then .error .repeated
  else
    let o := g.options
    let given (o : Options) : Except OptionError Given := .ok { g with options := o, switches := s :: g.switches }
    match s with
    | .prompt => given { o with prompt := true }
    | .verbose => given { o with verbose := true }
    | .list => given { o with list := true }
    | .help => .error .help
    | .version => .error .version

/-! ### Arguments -/

/-- The reader of arguments: what was given so far, and the setting whose value may stand in the next
argument, or stood in the last one. -/
structure Reader where
  /-- What was given. -/
  given : Given
  /-- The last setting without an attached value, and its value once it was read. -/
  pending : Option (Setting × Option Text)

namespace Reader

/-- Take the value of the pending setting. -/
def settle (r : Reader) : Except OptionError Given :=
  match r.pending with
  | none => .ok r.given
  | some (s, v) => takeValue r.given s v

/-- Read an option with the value attached to it. -/
def withValue (r : Reader) (s : Setting) (v : Text) : Except OptionError Reader := do
  return ⟨← takeValue (← r.settle) s (some v), none⟩

/-- Read an option without an attached value. -/
def alone (r : Reader) : Name → Except OptionError Reader
  | .setting s => do return ⟨← r.settle, some (s, none)⟩
  | .switch s => do return ⟨← turnOn (← r.settle) s, none⟩

/-- Read the letters of an argument: switches, and perhaps a setting, which has the rest for its value. -/
def letters : Reader → Text → Except OptionError Reader
  | r, [] => .ok r
  | r, c :: cs =>
    match ofLetter? c with
    | none => .error .unknownArgument
    | some (.setting s) =>
      match cs with
      | [] => r.alone (.setting s)
      | '=' :: v => r.withValue s v
      | v => r.withValue s v
    | some (.switch s) => do letters (← r.alone (.switch s)) cs

/-- Read a long option. -/
def long (r : Reader) (t : Text) : Except OptionError Reader :=
  let name := t.takeWhile (· ≠ '=')
  match longNames.lookup name, t.dropWhile (· ≠ '=') with
  | none, _ => .error .unknownArgument
  | some option, [] => r.alone option
  | some (.setting s), _ :: v => r.withValue s v
  | some (.switch _), _ :: _ => .error .needlessValue

/-- Read an argument that is no option: the value that the pending setting waits for. -/
def plain (r : Reader) (t : Text) : Except OptionError Reader :=
  match r.pending with
  | some (s, none) => .ok { r with pending := some (s, some t) }
  | _ => .error .unknownArgument

/-- Read the arguments. Nothing may follow the argument that ends the options. -/
def all : Reader → List Text → Except OptionError Reader
  | r, [] => .ok r
  | r, t :: ts =>
    match t with
    | ['-', '-'] => if ts = [] then .ok r else .error .unknownArgument
    | '-' :: '-' :: name => do all (← r.long name) ts
    | '-' :: c :: cs => do all (← r.letters (c :: cs)) ts
    | t => do all (← r.plain t) ts

end Reader

/-- The options that the arguments give. -/
def parse (args : List Text) : Except OptionError Options := do
  let r ← (Reader.all ⟨nothingGiven, none⟩ args)
  return (← r.settle).options

end Options

end Rollout
