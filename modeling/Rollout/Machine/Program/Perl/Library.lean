import Rollout.Machine.Digest
import Rollout.Machine.Program.Encoding
import Rollout.Machine.Program.Perl.Dump
import Rollout.Machine.Program.Perl.Function

/-!
Functions of modules that a script may ask for, as far as they do not call other functions.
-/

namespace Rollout.Program.Perl

open Unix

/-- The modules that can be asked for. -/
def knownModules : List String :=
  ["strict", "warnings", "utf8", "feature", "vars", "lib", "integer", "bytes", "constant", "parent", "base", "POSIX", "List::Util",
    "Scalar::Util", "Data::Dumper", "Cwd", "File::Basename", "Carp", "MIME::Base64", "Time::HiRes", "Time::Local", "IO::Handle",
    "IO::File", "Exporter", "overload", "Digest::MD5", "Digest::SHA", "File::Path", "File::Copy", "File::Spec", "Storable",
    "Symbol", "Fcntl", "Errno", "English", "open", "encoding", "mro", "sort", "locale", "subs", "diagnostics", "autodie",
    "experimental", "less", "re", "bigint", "version", "File::Temp", "File::Find", "Text::Wrap", "Sys::Hostname", "FindBin",
    "Getopt::Long", "Getopt::Std", "Encode", "Benchmark", "Tie::Hash", "Term::ANSIColor", "Text::ParseWords", "Env", "Config",
    "Time::Piece", "JSON::PP", "Math::Trig", "Unicode::Normalize", "Hash::Util", "threads", "if", "v5"]

/-- The values of a list without those that came before. -/
def distinctTexts : List Text → List Value → List Value
  | _, [] => []
  | seen, v :: vs =>
    let t := v.toText
    if seen.contains t then distinctTexts seen vs else v :: distinctTexts (t :: seen) vs

/-- Values in no order: each place is exchanged with one in front of it. -/
def shuffled : Nat → List Value → Doing (List Value)
  | 0, vs => return vs
  | _, [] => return []
  | fuel + 1, vs => do
    let x ← drawReal
    let i := (x * doubleOf (vs.length : Nat)).floor.toUInt64.toNat
    match vs[i]? with
    | some v => return v :: (← shuffled fuel (vs.eraseIdx i))
    | none => return vs

/-- A new array of values. -/
def arrayOf (vs : List Value) : Doing Value := do return .reference .array (← newList (← newCells vs).toArray)

/-- Values in pairs. -/
def inPairs : List Value → List (Value × Value)
  | a :: b :: vs => (a, b) :: inPairs vs
  | [a] => [(a, .absent)]
  | [] => []

/-- A copy of a value with all that it leads to. -/
def deepCopy : Nat → Value → Doing Value
  | 0, v => return v
  | fuel + 1, v => do
    let keepClass (new : Value) : Doing Value := do
      match ← classOf? v, new with
      | some c, .reference r i => do
        modify fun m => { m with classes := m.classes.insert (classKey r i) c }
        return new
      | _, _ => return new
    match v with
    | .reference .array i => do
      let vs ← (← elementsOf i).mapM (deepCopy fuel)
      keepClass (← arrayOf vs)
    | .reference .hash i => do
      let h ← newHash
      for (k, v) in ← pairsOf i do
        setField h k (← deepCopy fuel v)
      keepClass (.reference .hash h)
    | .reference .scalar i => do
      keepClass (.reference .scalar (← newCell (← deepCopy fuel (← valueAt i))))
    | v => return v

/-- The greatest or the least of numbers. -/
def extremeOf (better : Float → Float → Bool) : List Value → Value
  | [] => .absent
  | v :: vs => vs.foldl (fun a b => if better b.toReal a.toReal then b.toNumber.toValue else a) v.toNumber.toValue

/-- The greatest or the least of texts. -/
def extremeText (better : Text → Text → Bool) : List Value → Value
  | [] => .absent
  | v :: vs => vs.foldl (fun a b => if better b.toText a.toText then b else a) v

/-- Numbers joined by an operation. -/
def foldNumbers (op : Binary) (start : Value) (vs : List Value) : Value :=
  vs.foldl (fun a b => ((op.apply a b).toOption).getD a) start

/-- A path in its directory, its name, and its ending. -/
def pathParts (path : Text) (endings : List Text) : List Value :=
  let name := (path.reverse.takeWhile (· ≠ '/')).reverse
  let directory := path.take (path.length - name.length)
  let ending := (endings.find? fun e => e.isSuffixOf name && e ≠ []).getD []
  [.text (name.take (name.length - ending.length)), .text (if directory.isEmpty then ['.', '/'] else directory), .text ending]

/-- A function of a module, by its name, if it is known. -/
def libraryFunction? (name : Text) (want : Want) (vs : List Value) : Option (Doing (List Value)) :=
  let v := vs.headD .absent
  let w := vs.getD 1 .absent
  let one (v : Value) : Option (Doing (List Value)) := some (pure [v])
  let listed (vs : List Value) : Option (Doing (List Value)) := some (pure (if want = .many then vs else [.ofNat vs.length]))
  let doing (x : Doing Value) : Option (Doing (List Value)) := some ((fun v => [v]) <$> x)
  let real (x : Float) : Option (Doing (List Value)) := one (Number.ofReal x).toValue
  match String.ofList name with
  | "sum" => one (if vs.isEmpty then .absent else foldNumbers .add (.int 0) vs)
  | "sum0" => one (foldNumbers .add (.int 0) vs)
  | "product" => one (foldNumbers .mul (.int 1) vs)
  | "max" => one (extremeOf (· > ·) vs)
  | "min" => one (extremeOf (· < ·) vs)
  | "maxstr" => one (extremeText (fun a b => decide (b < a)) vs)
  | "minstr" => one (extremeText (fun a b => decide (a < b)) vs)
  | "uniq" => listed (distinctTexts [] vs)
  | "uniqnum" => listed (distinctTexts [] (vs.map fun v => v.toNumber.settled.toValue))
  | "uniqstr" => listed (distinctTexts [] vs)
  | "uniqint" => listed (distinctTexts [] (vs.map fun v => .int v.whole))
  | "shuffle" => some (shuffled vs.length vs)
  | "pairkeys" => listed ((inPairs vs).map (·.1))
  | "pairvalues" => listed ((inPairs vs).map (·.2))
  | "pairs" => some ((inPairs vs).mapM fun ((a, b) : Value × Value) => arrayOf [a, b])
  | "head" =>
    let n := v.whole
    listed (if 0 ≤ n then (vs.drop 1).take n.toNat else (vs.drop 1).take (vs.length - 1 - n.natAbs))
  | "tail" =>
    let n := v.whole
    listed (if 0 ≤ n then (vs.drop 1).drop (vs.length - 1 - n.toNat) else (vs.drop 1).drop n.natAbs)
  | "blessed" => doing (do
      match v, ← classOf? v with
      | .reference .., some c => return .text c
      | .pattern .., some c => return .text c
      | _, _ => return .absent)
  | "reftype" => one (match v with
    | .reference r _ => .text (Value.referentName r)
    | .pattern .. => .text "REGEXP"
    | _ => .absent)
  | "refaddr" => one (match v with
    | .reference .. => v.toNumber.toValue
    | _ => .absent)
  | "looks_like_number" => one (.truth (match v with
    | .text t => looksNumeric t
    | .int _ => true
    | .real _ => true
    | .both .. => true
    | _ => false))
  | "dualvar" => one (.both v.whole w.toText)
  | "weaken" => some (pure [])
  | "readonly" => one (.truth false)
  | "floor" => real v.toReal.floor
  | "ceil" => real v.toReal.ceil
  | "round" => real v.toReal.round
  | "trunc" => real (if v.toReal < 0 then v.toReal.ceil else v.toReal.floor)
  | "fmod" => one (Number.ofReal (Rounded.remainder (.ofFloat v.toReal) (.ofFloat w.toReal)).toFloat).toValue
  | "pow" => real (v.toReal.pow w.toReal)
  | "toupper" => one (.text (v.toText.map Char.toUpper))
  | "tolower" => one (.text (v.toText.map Char.toLower))
  | "isatty" => one (.truth false)
  | "strtol" => one (.int (numberIn v.toText).whole)
  | "INT_MAX" => one (.int 2147483647)
  | "INT_MIN" => one (.int (-2147483648))
  | "UINT_MAX" => one (.int 4294967295)
  | "LONG_MAX" => one (.int 9223372036854775807)
  | "LONG_MIN" => one (.int (-9223372036854775808))
  | "DBL_MAX" => one (.real 1.7976931348623157e308)
  | "EXIT_SUCCESS" => one (.int 0)
  | "EXIT_FAILURE" => one (.int 1)
  | "strftime" => doing (do
      let zone := zoneOf (← Doing.process)
      return .text (Calendar.format (readingOf zone (vs.drop 1)) (← textOf v)))
  | "mktime" => doing (do return .int ((readingOf (zoneOf (← Doing.process)) vs).moment / Calendar.second))
  | "timelocal" => doing (do
      let zone := zoneOf (← Doing.process)
      return .int ((readingOf zone (fullYear vs)).moment / Calendar.second))
  | "timegm" => one (.int ((readingOf .universal (fullYear vs)).moment / Calendar.second))
  | "Dumper" => doing (do return .text (← dumped vs))
  | "cwd" => doing (do return .text (pathOf (← Doing.process).cwd))
  | "getcwd" => doing (do return .text (pathOf (← Doing.process).cwd))
  | "abs_path" => doing (do
      let p ← Doing.process
      return match p.root.locate p.cwd (if vs.isEmpty then ['.'] else v.toText) with
        | .ok place => .text (pathOf place)
        | .error _ => .absent)
  | "basename" =>
    let name := baseName v.toText
    one (.text (((vs.drop 1).map Value.toText).foldl (fun name e => withoutEnding e name) name))
  | "dirname" => one (.text (dirName v.toText))
  | "fileparse" => some (pure (pathParts v.toText ((vs.drop 1).map Value.toText)))
  | "encode_base64" =>
    let t := Alphabet.sixtyFour.encode v.toText
    let ending : Text := match vs[1]? with
      | some w => w.toText
      | none => ['\n']
    one (.text ((chunks 76 (t.length + 1) t).flatMap (· ++ ending)))
  | "decode_base64" => one (.text (Alphabet.sixtyFour.decode (v.toText.filter fun c => c = '=' || Alphabet.sixtyFour.covers c)).1)
  | "md5_hex" => one (.text (Digest.hex (Digest.md5 (vs.flatMap Value.toText))))
  | "sha1_hex" => one (.text (Digest.hex (Digest.sha1 (vs.flatMap Value.toText))))
  | "sha256_hex" => one (.text (Digest.hex (Digest.sha256 (vs.flatMap Value.toText))))
  | "sha512_hex" => one (.text (Digest.hex (Digest.sha512 (vs.flatMap Value.toText))))
  | "dclone" => doing (deepCopy 100 v)
  | "usleep" => some (do
      (Unix.pass v.whole.toNat : Act Unit)
      return [v])
  | "hostname" => doing (do
      match ← (readPath "/etc/hostname" : Act _) with
      | .ok t => return .text (t.takeWhile (· ≠ '\n'))
      | .error _ => return .text "localhost")
  | "make_path" => some (do
      let paths := (vs.filter fun v => match v with
        | .reference .. => false
        | _ => true).map Value.toText
      let made ← paths.mapM fun path => do
        let names := Text.split '/' path
        let steps := (List.range names.length).map fun i => Text.join ['/'] (names.take (i + 1))
        let done ← (steps.filter (· ≠ [])).mapM fun t => succeeded (makeDirectoryAt t 0o777)
        pure (done.filter id).length
      return [.ofNat (made.foldl (· + ·) 0)])
  | "mkpath" => none
  | _ => none
where
  /-- The parts of a date, of which the year may be that of the calendar. -/
  fullYear (vs : List Value) : List Value :=
    vs.zipIdx.map fun (v, i) => if i = 5 && 1000 ≤ v.whole then .int (v.whole - 1900) else v
  /-- A text in parts of the same length. -/
  chunks (size : Nat) : Nat → Text → List Text
    | 0, _ => []
    | fuel + 1, t => if t.isEmpty then [] else t.take size :: chunks size fuel (t.drop size)

end Rollout.Program.Perl
