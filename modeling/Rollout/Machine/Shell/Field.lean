import Rollout.Machine.Shell.Pattern
import Rollout.Machine.Shell.State

/-!
Fields: what the expansion of words results in. Expanded words are cut where separators stand in values that
were inserted outside of quotes, and fields that are patterns give way to the paths that they cover.
-/

namespace Rollout.Shell

/-- A part of an expanded word. -/
inductive Atom
  /-- A character; it may be quoted, and it may come from a value. -/
  | char (c : Char) (quoted fresh : Bool)
  /-- A place where a field is even if there are no characters. -/
  | mark
  /-- A place between fields; where nothing is cut, a text stands there. -/
  | cut (t : Text)

namespace Atom

/-- Characters of a word. -/
def ofText (t : Text) (quoted : Bool) : List Atom :=
  if quoted then .mark :: t.map (.char · true false) else t.map (.char · false false)

/-- Characters of a value. -/
def ofValue (t : Text) (quoted : Bool) : List Atom :=
  if quoted then .mark :: t.map (.char · true false) else t.map (.char · false true)

/-- Values, each a field of its own, or with a text between them. -/
def ofValues (joint : Text) (quoted : Bool) : List Text → List Atom
  | [] => []
  | [t] => ofValue t quoted
  | t :: ts => ofValue t quoted ++ .cut joint :: ofValues joint quoted ts

/-- The atom with its character seen as part of a value. -/
def asValue : Atom → Atom
  | .char c false _ => .char c false true
  | a => a

/-- The characters, where nothing is cut. -/
def marked : List Atom → List Pattern.Marked
  | [] => []
  | .char c quoted _ :: as => (c, quoted) :: marked as
  | .mark :: as => marked as
  | .cut t :: as => t.map (·, true) ++ marked as

/-- The text. -/
def text (as : List Atom) : Text := (marked as).map (·.1)

end Atom

/-! ### Cutting -/

/-- Is the separator one that does not count by itself? -/
def isBlankSeparator (c : Char) : Bool := c = ' ' || c = '\t' || c = '\n'

/-- The fields of atoms, after the characters of a field in reverse; a separator right after blank ones belongs
to these. -/
def fieldsAfter (separators : Text) : Option (List Pattern.Marked) → Bool → List Atom →
    List (List Pattern.Marked)
  | current, _, [] => (current.map List.reverse).toList
  | current, _, .mark :: as => fieldsAfter separators (some (current.getD [])) false as
  | current, _, .cut _ :: as => (current.map List.reverse).toList ++ fieldsAfter separators none false as
  | current, afterBlank, .char c quoted fresh :: as =>
    if fresh && separators.contains c then
      if isBlankSeparator c then
        match current with
        | none => fieldsAfter separators none afterBlank as
        | some f => f.reverse :: fieldsAfter separators none true as
      else if afterBlank then fieldsAfter separators none false as
      else (current.getD []).reverse :: fieldsAfter separators none false as
    else fieldsAfter separators (some ((c, quoted) :: current.getD [])) false as

/-- The fields of atoms. -/
def fields (separators : Text) (as : List Atom) : List (List Pattern.Marked) :=
  fieldsAfter separators none false as

/-! ### Paths -/

/-- The pieces of marked characters between slashes. -/
def componentsOf : List Pattern.Marked → List (List Pattern.Marked)
  | [] => [[]]
  | c :: cs =>
    if c.1 = '/' then [] :: componentsOf cs
    else match componentsOf cs with
      | [] => [[c]]
      | p :: ps => (c :: p) :: ps

/-- How paths are found. -/
structure Globbing where
  /-- The dialect. -/
  dialect : Dialect
  /-- Do patterns know groups of alternatives? -/
  groups : Bool
  /-- Are names that start with a dot found like others? -/
  dots : Bool
  /-- Do two stars stand for any number of directories? -/
  deep : Bool
  /-- Are small and great letters alike? -/
  folds : Bool

/-- The order of bytes. -/
def isBefore (a b : Text) : Bool := !decide (b < a)

/-- The names in the directory that a pattern covers; names that start with a dot are hidden. -/
def namesCovered (g : Globbing) (root : FileTree) (place : List Text) (pattern : List Pattern.Marked) : List Text :=
  match root.at? place with
  | some (.dir entries _) =>
    let shown (n : Text) : Bool := n.head? ≠ some '.' || g.dots || (pattern.head?.map (·.1)) = some '.'
    let special : List Text := match g.dialect with
      | .plain => [['.'], ['.', '.']]
      | .rich => []
    let like (c : Char) : Char := if g.folds then c.toLower else c
    let compiled := Pattern.ofMarked g.dialect g.groups (pattern.map fun (c, q) => (like c, q))
    let covered := (special ++ entries.map (·.1)).filter fun n => shown n && compiled.covers (n.map like)
    covered.mergeSort isBefore
  | _ => []

/-- The directories below a place, with the texts that lead to them. -/
def directoriesBelow (root : FileTree) (dots : Bool) : Nat → List Text → Text → List (List Text × Text)
  | 0, _, _ => []
  | fuel + 1, place, shown => match root.at? place with
    | some (.dir entries _) =>
      let names := (entries.filter fun e => e.2.isDir && (dots || e.1.head? ≠ some '.')).map (·.1)
      (place, shown) :: (names.mergeSort isBefore).flatMap fun n =>
        directoriesBelow root dots fuel (place ++ [n]) (shown ++ n ++ ['/'])
    | _ => []

/-- The paths that components cover from a place on, each after what leads to the place. -/
def pathsFrom (g : Globbing) (root : FileTree) : List Text → Text → List (List Pattern.Marked) → List Text
  | _, shown, [] => [shown]
  | place, shown, c :: cs =>
    let ending : Text := if cs = [] then [] else ['/']
    if c = [] then
      if cs = [] && !((root.at? place).map FileTree.isDir).getD false then [] else pathsFrom g root place (shown ++ ending) cs
    else if g.deep && c.map (·.1) = ['*', '*'] && c.all (!·.2) then
      match cs with
      | [] => (directoriesBelow root g.dots FileTree.maxName place shown).flatMap fun (next, t) =>
        (if next ≠ place then [t.dropLast] else if shown = [] then [] else [shown])
          ++ (namesCovered g root next [('*', false)]).filterMap fun n =>
            if ((root.at? (next ++ [n])).map FileTree.isDir).getD false then none else some (t ++ n)
      | cs => ((directoriesBelow root g.dots FileTree.maxName place shown).flatMap fun (next, t) =>
        pathsFrom g root next t cs).filter (· ≠ [])
    else
      let names := if Pattern.isSpecial g.groups c then namesCovered g root place c else [c.map (·.1)]
      names.flatMap fun n =>
        if cs = [] then
          if (root.at? (place ++ [n])).isSome || (root.resolve place n).isSome then [shown ++ n] else []
        else match root.resolve place n with
          | some next => pathsFrom g root next (shown ++ n ++ ending) cs
          | none => []

/-- How the shell finds paths. -/
def State.globbing (s : State) : Globbing where
  dialect := s.dialect
  groups := s.has "extglob"
  dots := s.has "dotglob" || (s.dialect = .rich && (s.value? "GLOBIGNORE").any (· ≠ []))
  deep := s.has "globstar"
  folds := s.has "nocaseglob"

/-- Is it a path that patterns do not stand for, whatever they cover? -/
def State.ignoresPath (s : State) (path : Text) : Bool :=
  match s.dialect, s.value? "GLOBIGNORE" with
  | .rich, some (c :: cs) => (Text.split ':' (c :: cs)).any fun p =>
    (Pattern.ofMarked .rich (s.has "extglob") (p.map (·, false))).covers path
  | _, _ => false

/-- The texts that a field stands for: the paths it covers, or itself; none if it has to cover some and does not. -/
def Interpreter.paths? (s : Interpreter) (field : List Pattern.Marked) : Option (List Text) :=
  let itself := field.map (·.1)
  if !s.has "noglob" && Pattern.isSpecial (s.has "extglob") field then
    let start := if itself.head? = some '/' then [] else s.cwd
    match (pathsFrom s.globbing s.root start [] (componentsOf field)).filter (!s.ignoresPath ·) with
    | [] => if s.has "failglob" then none else some (if s.has "nullglob" then [] else [itself])
    | ps => some (if s.has "globstar" then ps.mergeSort isBefore else ps)
  else some [itself]

/-! ### Parameters -/

/-- The separators of fields. -/
def State.separators (s : State) : Text := (s.value? "IFS").getD " \t\n"

/-- The text between arguments that are joined. -/
def State.joint (s : State) : Text :=
  match s.value? "IFS" with
  | some t => t.take 1
  | none => [' ']

/-- What a parameter stands for. -/
inductive Held
  /-- Nothing. -/
  | none
  /-- A text. -/
  | one (t : Text)
  /-- Texts, which may be joined. -/
  | many (ts : List Text) (joined : Bool)

/-- Letters of options, in the order in which they are shown. -/
def optionLetters (d : Dialect) : List (Char × Text) :=
  (match d with
    | .plain => [('u', "nounset"), ('p', "privileged"), ('b', "notify"), ('a', "allexport"), ('C', "noclobber"),
      ('E', "emacs"), ('V', "vi"), ('v', "verbose"), ('x', "xtrace"), ('s', "stdin"), ('n', "noexec"),
      ('m', "monitor"), ('i', "interactive"), ('I', "ignoreeof"), ('f', "noglob"), ('e', "errexit")]
    | .rich => [('a', "allexport"), ('b', "notify"), ('e', "errexit"), ('f', "noglob"), ('h', "hashall"),
      ('k', "keyword"), ('m', "monitor"), ('n', "noexec"), ('p', "privileged"), ('t', "onecmd"), ('u', "nounset"),
      ('v', "verbose"), ('x', "xtrace"), ('B', "braceexpand"), ('C', "noclobber"), ('E', "errtrace"),
      ('H', "histexpand"), ('P', "physical"), ('T', "functrace"), ('c', "command-string"), ('s', "stdin")]).map
    fun ((c, name) : Char × String) => (c, name.toList)

/-- The value of a parameter with a special name. -/
def State.special? (s : State) (name : Text) : Option (Option Text) :=
  match name with
  | ['#'] => some (some (Text.ofNat s.arguments.length))
  | ['?'] => some (some (Text.ofNat s.status))
  | ['$'] => some (some (Text.ofNat s.mainNumber))
  | ['!'] => some (s.lastJob.map Text.ofNat)
  | ['-'] => some (some (((optionLetters s.dialect).filter fun o => s.options.contains o.2).map (·.1)))
  | _ => none

/-- The options that a variable of the rich dialect shows. -/
def shownOptions : List Text :=
  ["allexport", "braceexpand", "errexit", "errtrace", "functrace", "hashall", "interactive-comments", "monitor",
    "noclobber", "noglob", "nounset", "pipefail", "posix", "verbose", "xtrace"].map String.toList

/-- The number that comes after another one where numbers are drawn at random. -/
def nextSeed (n : Nat) : Nat :=
  let n := if n = 0 then 123459876 else n
  let t : Int := 16807 * (n % 127773 : Nat) - 2836 * (n / 127773 : Nat)
  (if t < 0 then t + 2147483647 else t).toNat

/-- The next number at random, which differs from the last one, and what the one after it comes from. -/
def drawFrom (last : Nat) : Nat → Nat → Nat × Nat
  | 0, seed => (last, seed)
  | fuel + 1, seed =>
    let seed := nextSeed seed
    let n := ((seed >>> 16) ^^^ (seed &&& 65535)) &&& 32767
    if n = last then drawFrom last fuel seed else (n, seed)

/-- The next number at random, and what the one after it comes from. -/
def State.draw (s : State) : Nat × Nat := drawFrom s.drawnLast 8 s.seed

/-- The state after a number at random has been drawn. -/
def State.drawn (s : State) : State :=
  { s with
    seed := s.draw.2
    drawnLast := s.draw.1 }

/-- Options of the rich dialect that have a command of their own. -/
def moreOptions : List Text :=
  ["autocd", "assoc_expand_once", "cdable_vars", "cdspell", "checkhash", "checkjobs", "checkwinsize", "cmdhist",
    "compat31", "compat32", "compat40", "compat41", "compat42", "compat43", "compat44", "complete_fullquote",
    "direxpand", "dirspell", "dotglob", "execfail", "expand_aliases", "extdebug", "extglob", "extquote", "failglob",
    "force_fignore", "globasciiranges", "globskipdots", "globstar", "gnu_errfmt", "histappend", "histreedit",
    "histverify", "hostcomplete", "huponexit", "inherit_errexit", "interactive_comments", "lastpipe", "lithist",
    "localvar_inherit", "localvar_unset", "login_shell", "mailwarn", "no_empty_cmd_completion", "nocaseglob",
    "nocasematch", "noexpand_translation", "nullglob", "patsub_replacement", "progcomp", "progcomp_alias",
    "promptvars", "restricted_shell", "shift_verbose", "sourcepath", "varredir_close", "xpg_echo"].map String.toList

/-- The value of a variable that changes by itself. -/
def Interpreter.changing? (s : Interpreter) (name : Text) : Option Text :=
  let listed (names : List Text) : Text := Text.join [':'] (names.filter s.options.contains)
  match s.dialect, String.ofList name with
  | .rich, "LINENO" => some (Text.ofNat s.line)
  | .rich, "SECONDS" => some (Text.ofInt (s.startSeconds + (s.time / 1000000 : Nat)))
  | .rich, "RANDOM" => some (Text.ofNat s.draw.1)
  | .rich, "SRANDOM" => some (Text.ofNat (s.seed * 65599 % 4294967296))
  | .rich, "EPOCHSECONDS" => some (Text.ofInt (s.now / 1000000000))
  | .rich, "EPOCHREALTIME" =>
    let part := Text.ofInt (s.now / 1000 % 1000000)
    some (Text.ofInt (s.now / 1000000000) ++ '.' :: List.replicate (6 - part.length) '0' ++ part)
  | .rich, "BASHPID" => some (Text.ofNat s.number)
  | .rich, "BASH_SUBSHELL" => some (Text.ofNat s.nesting)
  | .rich, "BASH_ARGV0" => some s.name
  | .rich, "BASH_COMMAND" => some ((s.running.map Command.heading).getD [])
  | .rich, "BASH_EXECUTION_STRING" => s.text
  | .rich, "HISTCMD" => some ['0']
  | .rich, "SHELLOPTS" => some (listed shownOptions)
  | .rich, "BASHOPTS" => some (listed moreOptions)
  | .rich, "_" => some s.lastWord
  | _, _ => none

/-- The elements of an array that changes by itself. -/
def State.changingArray? (s : State) (name : Text) : Option (List Text) :=
  match s.dialect, String.ofList name with
  | .rich, "PIPESTATUS" => some (s.statuses.map Text.ofNat)
  | .rich, "FUNCNAME" => some (if s.frames.all (·.name = mainName) then [] else s.frames.map (·.name))
  | .rich, "BASH_SOURCE" => some (s.frames.map (·.origin))
  | .rich, "BASH_LINENO" => some (s.frames.map fun f => Text.ofNat f.line)
  | .rich, "DIRSTACK" => some (s.here :: s.stack)
  | _, _ => none

/-- What a parameter stands for; `$0` is a name. -/
def Interpreter.parameter (s : Interpreter) (name : Text) : Held :=
  match name with
  | ['@'] => .many s.arguments false
  | ['*'] => .many s.arguments true
  | name => match s.special? name with
    | some v => match v with
      | some t => .one t
      | none => .none
    | none => match Text.toNat? name with
      | some 0 => .one s.name
      | some n => match s.arguments[n - 1]? with
        | some t => .one t
        | none => .none
      | none => match s.changing? name with
        | some t => .one t
        | none => match ((s.changingArray? name).bind (·.head?)).or (s.value? name) with
          | some t => .one t
          | none => .none

/-- What all elements of a variable stand for. -/
def State.elements (s : State) (name : Text) (joined : Bool) : Held :=
  match s.changingArray? name with
  | some ts => .many ts joined
  | none => .many (((s.holder? name).map fun v => v.content.elements.map (·.2)).getD []) joined

/-- The text of what is held, if there is something. -/
def State.heldText (s : State) : Held → Option Text
  | .none => none
  | .one t => some t
  | .many [] _ => none
  | .many ts joined => some (Text.join (if joined || s.dialect = .plain then s.joint else [' ']) ts)

/-- What is held with every text changed. -/
def Held.map (f : Text → Text) : Held → Held
  | .none => .none
  | .one t => .one (f t)
  | .many ts joined => .many (ts.map f) joined

/-- What a parameter expands to. -/
def State.expansion (s : State) (quoted : Bool) : Held → List Atom
  | .none => Atom.ofValue [] quoted
  | .one t => Atom.ofValue t quoted
  | .many ts joined =>
    if joined && quoted then Atom.ofValue (Text.join s.joint ts) true
    else Atom.ofValues (if joined || s.dialect = .plain then s.joint else [' ']) quoted ts

end Rollout.Shell
