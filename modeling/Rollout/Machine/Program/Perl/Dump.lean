import Rollout.Machine.Program.Perl.Machine

/-!
Values as texts that show all they hold, line by line, in the form in which a script would hold them.
-/

namespace Rollout.Program.Perl

/-- How values are shown. -/
structure DumpStyle where
  /-- How the lines are moved in: not at all, by steps, or under what opens them. -/
  indent : Nat
  /-- Are the keys sorted? -/
  sorted : Bool
  /-- Is only the value shown, without a name? -/
  terse : Bool
  /-- Are double quotes used? -/
  double : Bool
  /-- What stands between a key and its value. -/
  pair : Text
  /-- How deep values are shown, if not all of them. -/
  depth : Nat

/-- A text between single quotes. -/
def singleQuoted (t : Text) : Text :=
  '\'' :: (t.flatMap fun c => if c = '\'' || c = '\\' then ['\\', c] else [c]) ++ ['\'']

/-- A text between double quotes. -/
def doubleQuoted (t : Text) : Text :=
  let shown (c : Char) : Text := match c with
    | '\n' => ['\\', 'n']
    | '\t' => ['\\', 't']
    | '\r' => ['\\', 'r']
    | '\x07' => ['\\', 'a']
    | '\x08' => ['\\', 'b']
    | '\x0c' => ['\\', 'f']
    | '\x1b' => ['\\', 'e']
    | c =>
      if "\"\\$@".toList.contains c then ['\\', c]
      else if c < ' ' || '\x7f' ≤ c then '\\' :: Nat.toDigits 8 c.toNat
      else [c]
  '"' :: t.flatMap shown ++ ['"']

/-- Is a text shown as a number? -/
def isShortNumber (t : Text) : Bool :=
  let ds := if t.head? = some '-' then t.drop 1 else t
  t = ['0'] || (!ds.isEmpty && ds.length ≤ 9 && ds.all Char.isDigit && ds.head? ≠ some '0')

/-- A text as it is shown. -/
def DumpStyle.textShown (s : DumpStyle) (t : Text) : Text :=
  if isShortNumber t then t else if s.double then doubleQuoted t else singleQuoted t

/-- A key as it is shown. -/
def DumpStyle.keyShown (s : DumpStyle) (t : Text) : Text := if s.double then doubleQuoted t else singleQuoted t

/-- A new line that is moved in. -/
def DumpStyle.lineStart (s : DumpStyle) (column : Nat) : Text :=
  if s.indent = 0 then [] else '\n' :: List.replicate column ' '

/-- Parts between brackets, each on a line of its own. -/
def DumpStyle.between (s : DumpStyle) (opens closes : Char) (column inner : Nat) (parts : List Text) : Text :=
  if parts.isEmpty then [opens, closes]
  else
    opens :: Text.join [','] (parts.map fun p => s.lineStart inner ++ p) ++ s.lineStart column ++ [closes]

/-- A value as it is shown from a column on. -/
def DumpStyle.valueShown (s : DumpStyle) : Nat → Nat → Nat → Value → Doing Text
  | 0, _, _, _ => return "'...'".toList
  | fuel + 1, level, column, v => do
    let class? ← match v with
      | .reference .. => classOf? v
      | _ => pure none
    let column := if class?.isSome && s.indent = 2 then column + 7 else column
    let inner := column + 2
    let isTooDeep := s.depth ≠ 0 && s.depth ≤ level
    let shown ← match v with
      | .absent => pure "undef".toList
      | .reference .array i =>
        if isTooDeep then pure (singleQuoted (← textOf v))
        else do
          let parts ← (← elementsOf i).mapM (s.valueShown fuel (level + 1) inner)
          pure (s.between '[' ']' column inner parts)
      | .reference .hash i =>
        if isTooDeep then pure (singleQuoted (← textOf v))
        else do
          let pairs ← pairsOf i
          let pairs := if s.sorted then pairs.mergeSort fun a b => decide (a.1 ≤ b.1) else pairs
          let parts ← pairs.mapM fun (k, v) => do
            let lead := s.keyShown k ++ s.pair
            let t ← s.valueShown fuel (level + 1) (if s.indent = 2 then inner + lead.length else inner) v
            pure (lead ++ t)
          pure (s.between '\x7b' '\x7d' column inner parts)
      | .reference .scalar i => do
        let t ← s.valueShown fuel (level + 1) (if s.indent = 2 then column + 2 else column) (← valueAt i)
        pure ('\\' :: t)
      | .reference .code _ => pure "sub \x7b \"DUMMY\" \x7d".toList
      | .reference .handle i => do
        let name := ((← get).ports[i]?.map (·.name)).getD []
        pure ("\\*" ++ (if name.head? = some '$' then "\x7b'::" ++ name ++ "'\x7d".toList else "::".toList ++ name))
      | .pattern t letters => pure ("qr/" ++ t ++ '/' :: letters)
      | .int n => pure (s.textShown (Text.ofInt n))
      | .text t => pure (s.textShown t)
      | v => pure (singleQuoted v.toText)
    return match class? with
      | some c => "bless( " ++ shown ++ ", " ++ singleQuoted c ++ " )"
      | none => shown

/-- How values are shown when nothing else is asked for, and what variables of the script ask for. -/
def dumpStyle : Doing DumpStyle := do
  let setting (name : String) (usual : Nat) : Doing Nat := do
    match ← global? .scalar ("Data::Dumper::" ++ name.toList) with
    | some i => return (← valueAt i).whole.toNat
    | none => return usual
  let pair ← global? .scalar "Data::Dumper::Pair".toList
  return {
    indent := ← setting "Indent" 2
    sorted := (← setting "Sortkeys" 0) ≠ 0
    terse := (← setting "Terse" 0) ≠ 0
    double := (← setting "Useqq" 0) ≠ 0
    pair := ← (match pair with
      | some i => do textOf (← valueAt i)
      | none => pure " => ".toList)
    depth := ← setting "Maxdepth" 0 }

/-- Values as they are shown one after another. -/
def dumped (vs : List Value) : Doing Text := do
  let s ← dumpStyle
  let parts ← vs.zipIdx.mapM fun ((v, i) : Value × Nat) => do
    let lead : Text := if s.terse then [] else "$VAR" ++ Text.ofNat (i + 1) ++ " = "
    let t ← s.valueShown 50 0 (if s.indent = 2 then lead.length else 0) v
    let ending : Text := if s.indent = 0 then [] else ['\n']
    pure (lead ++ t ++ (if s.terse then ending else ';' :: ending))
  return parts.flatten

end Rollout.Program.Perl
