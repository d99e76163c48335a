import Rollout.Machine.Program.Perl.Token
import Rollout.Text.Utf8

/-!
The words and the operators of scripts: which functions take a list or only one argument, how tightly operators bind, and
what a place where a script may go on in two ways looks like.
-/

namespace Rollout.Program.Perl

/-! ### Names of functions -/

/-- Functions without arguments. -/
def plainFunctions : List String :=
  ["time", "times", "wait", "wantarray", "getppid", "fork", "break", "getpwent", "getgrent"]

/-- Functions with at most one argument. -/
def unaryFunctions : List String :=
  ["defined", "ref", "scalar", "lc", "uc", "lcfirst", "ucfirst", "length", "chr", "ord", "int", "abs", "sqrt", "sin",
    "cos", "exp", "log", "hex", "oct", "rand", "srand", "quotemeta", "chdir", "rmdir", "readlink", "stat", "lstat",
    "exists", "delete", "each", "keys", "values", "shift", "pop", "caller", "undef", "study", "pos", "lock", "exit",
    "umask", "sleep", "localtime", "gmtime", "alarm", "require", "fc", "chroot", "readline", "close", "fileno", "eof",
    "closedir", "readdir", "rewinddir", "tell", "chomp", "chop", "getc", "evalbytes", "getpwnam", "getpwuid",
    "getgrgid", "getgrnam"]

/-- Functions whose arguments are a list. -/
def listFunctions : List String :=
  ["push", "unshift", "splice", "join", "split", "sprintf", "reverse", "unlink", "die", "warn", "open", "pack", "unpack",
    "index", "rindex", "substr", "system", "exec", "kill", "mkdir", "opendir", "rename", "chmod", "chown", "utime",
    "binmode", "seek", "read", "sysread", "syswrite", "select", "atan2", "bless", "symlink", "link", "vec", "crypt",
    "sysopen", "truncate", "flock", "printf", "tie", "untie", "tied", "waitpid", "formline", "sysseek", "pipe",
    "getpriority", "local", "dump", "syscall", "setpgrp"]

/-- Functions whose first argument may be the name of a file. -/
def handleFunctions : List String :=
  ["open", "close", "eof", "binmode", "fileno", "seek", "tell", "read", "sysread", "syswrite", "opendir", "readdir",
    "closedir", "rewinddir", "truncate", "flock", "select", "getc", "readline", "sysopen", "sysseek", "stat", "lstat"]

/-- Names of files that are always there. -/
def standardHandles : List String := ["STDIN", "STDOUT", "STDERR", "ARGV", "DATA"]

/-- Words that are operators or stand behind statements. -/
def operatorWords : List String :=
  ["x", "lt", "gt", "le", "ge", "eq", "ne", "cmp", "and", "or", "xor", "not", "if", "unless", "while", "until", "for",
    "foreach", "isa"]

/-- Is the word among others? -/
def among (names : List String) (w : Text) : Bool := names.contains (String.ofList w)

/-- Is it the name of a function that every script knows? -/
def isFunction (w : Text) : Bool := among plainFunctions w || among unaryFunctions w || among listFunctions w

/-- Words with a meaning of their own. -/
def specialWords : List String :=
  ["my", "our", "local", "state", "print", "say", "printf", "sort", "map", "grep", "do", "eval", "sub", "return", "q", "qq",
    "qw", "m", "s", "tr", "y", "qr", "qx", "next", "last", "redo", "goto", "if", "unless", "while", "until", "for", "foreach",
    "package", "use", "no", "BEGIN", "END", "glob"]

/-! ### Operators -/

/-- What two operands are joined by. -/
inductive Joint
  | operation (op : Binary)
  | both
  | either
  | defined
  | span
  | bind (wanted : Bool)

/-- The operator at the start of a text, how long it is, and how tightly it binds. -/
def jointAt (t : Text) : Option (Joint × Nat × Nat) :=
  let word := (wordAt t.length t).1
  let isTimes := word.head? = some 'x' && (word.drop 1).all Char.isDigit
  if t.head?.any startsWord then
    if isTimes then
      if (t.drop 1).head? = some '=' && (t.drop 2).head? ≠ some '=' && (t.drop 2).head? ≠ some '~' then none
      else some (.operation .repeated, 1, 13)
    else match String.ofList word with
      | "lt" => some (.operation .textLess, 2, 9)
      | "gt" => some (.operation .textGreater, 2, 9)
      | "le" => some (.operation .textLessEq, 2, 9)
      | "ge" => some (.operation .textGreaterEq, 2, 9)
      | "eq" => some (.operation .textEqual, 2, 8)
      | "ne" => some (.operation .textUnequal, 2, 8)
      | "cmp" => some (.operation .textOrder, 3, 8)
      | _ => none
  else match t with
    | '<' :: '=' :: '>' :: _ => some (.operation .order, 3, 8)
    | '=' :: '=' :: _ => some (.operation .equal, 2, 8)
    | '!' :: '=' :: _ => some (.operation .unequal, 2, 8)
    | '=' :: '~' :: _ => some (.bind true, 2, 14)
    | '!' :: '~' :: _ => some (.bind false, 2, 14)
    | '<' :: '=' :: _ => some (.operation .lessEq, 2, 9)
    | '>' :: '=' :: _ => some (.operation .greaterEq, 2, 9)
    | '&' :: '&' :: '=' :: _ => none
    | '|' :: '|' :: '=' :: _ => none
    | '/' :: '/' :: '=' :: _ => none
    | '&' :: '&' :: _ => some (.both, 2, 5)
    | '|' :: '|' :: _ => some (.either, 2, 4)
    | '/' :: '/' :: _ => some (.defined, 2, 4)
    | '.' :: '.' :: '.' :: _ => some (.span, 3, 3)
    | '.' :: '.' :: _ => some (.span, 2, 3)
    | '<' :: '<' :: '=' :: _ => none
    | '>' :: '>' :: '=' :: _ => none
    | '<' :: '<' :: _ => some (.operation .shiftLeft, 2, 11)
    | '>' :: '>' :: _ => some (.operation .shiftRight, 2, 11)
    | '*' :: '*' :: _ => none
    | '+' :: '+' :: _ => none
    | '-' :: '-' :: _ => none
    | '-' :: '>' :: _ => none
    | c :: '=' :: _ =>
      if c = '<' || c = '>' then none else none
    | '+' :: _ => some (.operation .add, 1, 12)
    | '-' :: _ => some (.operation .sub, 1, 12)
    | '.' :: _ => some (.operation .concat, 1, 12)
    | '*' :: _ => some (.operation .mul, 1, 13)
    | '/' :: _ => some (.operation .div, 1, 13)
    | '%' :: _ => some (.operation .mod, 1, 13)
    | '&' :: _ => some (.operation .bitAnd, 1, 7)
    | '|' :: _ => some (.operation .bitOr, 1, 6)
    | '^' :: _ => some (.operation .bitXor, 1, 6)
    | '<' :: _ => some (.operation .less, 1, 9)
    | '>' :: _ => some (.operation .greater, 1, 9)
    | _ => none

/-- The assignment at the start of a text, and how long it is. -/
def updateAt (t : Text) : Option (Option Update × Nat) :=
  let op (b : Binary) (n : Nat) : Option (Option Update × Nat) := some (some (.operation b), n)
  match t with
  | '=' :: '=' :: _ => none
  | '=' :: '~' :: _ => none
  | '=' :: '>' :: _ => none
  | '=' :: _ => some (none, 1)
  | '*' :: '*' :: '=' :: _ => op .pow 3
  | '|' :: '|' :: '=' :: _ => some (some .orElse, 3)
  | '&' :: '&' :: '=' :: _ => some (some .andAlso, 3)
  | '/' :: '/' :: '=' :: _ => some (some .orDefined, 3)
  | '<' :: '<' :: '=' :: _ => op .shiftLeft 3
  | '>' :: '>' :: '=' :: _ => op .shiftRight 3
  | '+' :: '=' :: _ => op .add 2
  | '-' :: '=' :: _ => op .sub 2
  | '*' :: '=' :: _ => op .mul 2
  | '/' :: '=' :: _ => op .div 2
  | '.' :: '=' :: _ => op .concat 2
  | '%' :: '=' :: _ => op .mod 2
  | '&' :: '=' :: _ => op .bitAnd 2
  | '|' :: '=' :: _ => op .bitOr 2
  | '^' :: '=' :: _ => op .bitXor 2
  | 'x' :: '=' :: c :: _ => if c = '=' || c = '~' || c = '>' then none else op .repeated 2
  | _ => none

/-- Two operands joined, at a place in the script. -/
def Joint.join (j : Joint) (spot : Nat) (a b : Expr) : Expr :=
  match j with
  | operation .repeated => match a with
    | .list _ => .repeatedList a b
    | a => .binary .repeated a b
  | operation op => .binary op a b
  | both => .and a b
  | either => .or a b
  | defined => .orDefined a b
  | span => .range spot a b
  | bind wanted => match b with
    | .matching none p letters _ => .matching (some a) p letters wanted
    | .replacing none p new letters => .replacing (some a) p new letters
    | .translating none old new letters => .translating (some a) old new letters
    | b => .matching (some a) b [] wanted

/-! ### Parts of texts -/

/-- A text and what follows it in a list of pieces. -/
def withText (t : Text) (es : List Expr) : List Expr := if t.isEmpty then es else .value (.text t) :: es

/-- Pieces as one expression. -/
def ofPieces : List Expr → Expr
  | [] => .value (.text [])
  | [.value (.text t)] => .value (.text t)
  | es => .joined es

/-- The character for a letter behind a backslash, with how many characters it takes. -/
def escapedAt (t : Text) : Text × Text :=
  let byte (n : Nat) : Text := if n < 256 then [Char.ofNat n] else (Utf8.encode [Char.ofNat n]).map fun b => Char.ofNat b.toNat
  match t with
  | 'n' :: rest => (['\n'], rest)
  | 't' :: rest => (['\t'], rest)
  | 'r' :: rest => (['\r'], rest)
  | 'f' :: rest => (['\x0c'], rest)
  | 'b' :: rest => (['\x08'], rest)
  | 'a' :: rest => (['\x07'], rest)
  | 'e' :: rest => (['\x1b'], rest)
  | 'x' :: '\x7b' :: rest =>
    let ds := rest.takeWhile (· ≠ '\x7d')
    (byte (Escape.digitsValue 16 (ds.filter Rounded.isHex)), rest.drop (ds.length + 1))
  | 'x' :: rest =>
    let ds := (rest.take 2).takeWhile Rounded.isHex
    (byte (Escape.digitsValue 16 ds), rest.drop ds.length)
  | 'N' :: '\x7b' :: 'U' :: '+' :: rest =>
    let ds := rest.takeWhile (· ≠ '\x7d')
    (byte (Escape.digitsValue 16 (ds.filter Rounded.isHex)), rest.drop (ds.length + 1))
  | 'c' :: c :: rest => ([Char.ofNat (c.toUpper.toNat ^^^ 64)], rest)
  | c :: rest =>
    if '0' ≤ c && c ≤ '7' then
      let ds := ((c :: rest).take 3).takeWhile fun d => '0' ≤ d && d ≤ '7'
      (byte (Escape.digitsValue 8 ds % 256), (c :: rest).drop ds.length)
    else ([c], rest)
  | [] => (['\\'], [])

/-- Does a bracket behind a variable in an expression to be matched hold an index? -/
def isIndexAhead (t : Text) : Bool :=
  let inner := (t.drop 1).takeWhile (· ≠ ']')
  let body := if inner.head? = some '-' then inner.drop 1 else inner
  match body with
  | '$' :: name => !name.isEmpty && name.all isWordChar
  | ds => !ds.isEmpty && ds.all Char.isDigit

/-- Does a brace behind a variable in an expression to be matched hold how often something stands? -/
def isCountAhead (t : Text) : Bool :=
  let inner := (t.drop 1).takeWhile (· ≠ '\x7d')
  inner.head?.any Char.isDigit && inner.all fun c => c.isDigit || c = ','

/-- What a sign in front of a name leads to. -/
inductive Target
  | named (n : Text)
  | through (e : Expr)

/-- The variable, or what the reference leads to. -/
def Target.as (s : Sigil) : Target → Expr
  | named n => .variable ⟨s, n⟩
  | through e => .deref s e

/-- Does a brace at the start of a statement open a hash? -/
def hashAhead (t : Text) : Bool :=
  let rest := (t.drop 1).dropWhile isBlank
  let comma (t : Text) : Bool :=
    let t := t.dropWhile isBlank
    t.head? = some ',' || "=>".toList.isPrefixOf t
  match rest with
  | '\x7d' :: _ => false
  | '%' :: c :: _ => startsWord c || c = '$' || c = '\x7b'
  | '$' :: rest => comma (wordAt rest.length rest).2
  | '"' :: rest => ((delimitedAt '"' '"' 0 rest).map fun (_, after) => comma after).getD false
  | '\'' :: rest => ((delimitedAt '\'' '\'' 0 rest).map fun (_, after) => comma after).getD false
  | rest =>
    let (w, after) := wordAt rest.length rest
    !w.isEmpty && comma after

/-- Can a term start with what is left, behind a function with one argument? -/
def startsTerm (name : Text) (t : Text) : Bool :=
  let takesHash := among ["keys", "values", "each", "scalar", "defined", "exists", "delete", "undef", "ref", "return"] name
  let takesArray := among ["shift", "pop"] name
  match t with
  | '$' :: _ => true
  | '@' :: _ => true
  | '\\' :: _ => true
  | '"' :: _ => true
  | '\'' :: _ => true
  | '\x60' :: _ => true
  | '(' :: _ => true
  | '[' :: _ => !takesArray
  | '!' :: c :: _ => c ≠ '=' && c ≠ '~'
  | '~' :: _ => true
  | '-' :: c :: _ => !takesArray && c ≠ '=' && c ≠ '>' && !isBlank c
  | '+' :: c :: _ => !takesArray && c ≠ '=' && !isBlank c
  | '%' :: c :: _ => takesHash && (startsWord c || c = '$' || c = '\x7b' || c = '+' || c = ':')
  | '&' :: c :: _ => takesHash && (startsWord c || c = '$' || c = '\x7b')
  | '<' :: c :: _ => c = '$' || c = 'S' || c = '>'
  | '.' :: c :: _ => c.isDigit
  | '/' :: _ => name = "split".toList
  | c :: _ =>
    if c.isDigit then true
    else if startsWord c then
      let w := (wordAt t.length t).1
      !among operatorWords w && w ≠ "x".toList
    else false
  | [] => false

/-- Does a list end where a text starts? -/
def endsList (t : Text) : Bool :=
  match t with
  | [] => true
  | c :: _ =>
    ")];:\x7d".toList.contains c
      || (startsWord c && among ["or", "and", "if", "unless", "while", "until", "for", "foreach", "xor"] (wordAt t.length t).1)

/-- Does an operand follow a variable behind a blank, so that the variable is a file? -/
def operandFollows (t : Text) : Bool :=
  match t with
  | c :: rest =>
    isBlank c &&
      match rest.dropWhile isBlank with
      | d :: more =>
        if startsWord d then !among operatorWords (wordAt (more.length + 1) (d :: more)).1
        else d.isDigit || "\"'$@\\".toList.contains d || ("<<".toList.isPrefixOf (d :: more) && (more.drop 1).head? ≠ some ' ')
      | [] => false
  | [] => false

/-- Values that are written one after another. -/
def textsOf (es : List Expr) : List Text :=
  es.flatMap fun e => match e with
    | .value (.text t) => [t]
    | .list es => es.filterMap fun e => match e with
      | .value (.text t) => some t
      | _ => none
    | _ => []

/-- Functions of modules that take a block first. -/
def blockFunctions : List String :=
  ["first", "any", "all", "none", "notall", "reduce", "reductions", "sum_by", "max_by", "min_by", "sort_by", "uniq_by", "pairmap",
    "pairgrep"]

/-- Functions of modules that a script knows without being asked for them. -/
def moduleFunctions (m : Text) : List Text :=
  match String.ofList m with
  | "POSIX" => ["floor", "ceil", "fmod", "pow", "strftime", "strtol", "INT_MAX", "INT_MIN", "DBL_MAX", "round", "trunc",
      "isatty", "toupper", "tolower"].map String.toList
  | "Data::Dumper" => ["Dumper".toList]
  | "Cwd" => ["cwd".toList, "getcwd".toList]
  | "File::Basename" => ["basename", "dirname", "fileparse"].map String.toList
  | "Carp" => ["croak", "carp", "confess"].map String.toList
  | "MIME::Base64" => ["encode_base64", "decode_base64"].map String.toList
  | _ => []

/-- The numbers that a module offers as functions without arguments. -/
def constantNames : List String := ["INT_MAX", "INT_MIN", "DBL_MAX", "UINT_MAX", "LONG_MAX", "LONG_MIN", "EXIT_SUCCESS", "EXIT_FAILURE"]

/-- Statements that give parameters the arguments. -/
def parameters (line : Nat) (t : Text) : List Statement :=
  let names := ((Text.split ',' t).map fun p => (p.dropWhile isBlank)).filter fun p => p.any isWordChar
  let variableOf (p : Text) : Option Variable :=
    let name := (p.drop 1).takeWhile isWordChar
    match p.head? with
    | some '$' => some ⟨.scalar, name⟩
    | some '@' => some ⟨.array, name⟩
    | some '%' => some ⟨.hash, name⟩
    | _ => none
  let vs := names.filterMap variableOf
  let defaults := names.zipIdx.filterMap fun (p, i) =>
    let value := ((p.dropWhile (· ≠ '=')).drop 1).dropWhile isBlank
    match variableOf p with
    | some v =>
      if value.isEmpty then none
      else
        let e : Expr := if value.head?.any Char.isDigit || value.head? = some '-' then .value (numberIn value).toValue
          else .value (.text (value.filter fun c => c ≠ '"' && c ≠ '\''))
        let few : Expr := .binary .lessEq (.function "scalar" [.variable ⟨.array, "_"⟩]) (.value (.ofNat i))
        some (Statement.expression line (.and few (.assign none (.variable v) e)))
    | none => none
  if vs.isEmpty then []
  else .expression line (.assign none (.declare .own vs true) (.variable ⟨.array, "_"⟩)) :: defaults

/-- A new variable. -/
def newVariable : Parser Variable := do
  skip
  match (← get).rest with
  | c :: rest =>
    let sigil? : Option Sigil := match c with
      | '$' => some .scalar
      | '@' => some .array
      | '%' => some .hash
      | _ => none
    match sigil? with
    | some sigil => do
      let (w, after) := wordAt rest.length rest
      if w.isEmpty then wrong
      goOn after
      return ⟨sigil, w⟩
    | none => do
      if ← acceptWord "undef" then return ⟨.scalar, []⟩ else wrong
  | [] => wrong

/-- New variables up to the closing parenthesis. -/
def newVariables : Nat → Parser (List Variable)
  | 0 => wrong
  | fuel + 1 => do
    if ← accept ")" then return []
    let v ← newVariable
    let _ ← accept ","
    return v :: (← newVariables fuel)

end Rollout.Program.Perl
