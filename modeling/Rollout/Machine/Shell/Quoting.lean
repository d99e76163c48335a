import Rollout.Machine.Unix.Format

/-!
Values as shells show them: between quotes from which they can be read back.
-/

namespace Rollout.Shell.Quoting

open Unix

/-- The value between quotes, each run of single quotes in it between double quotes. -/
def plain (t : Text) : Text :=
  let rec parts : Nat → Text → Text
    | 0, _ => []
    | fuel + 1, t =>
      let part := t.takeWhile (· ≠ '\'')
      let rest := t.drop part.length
      let marks := rest.takeWhile (· = '\'')
      let after := rest.drop marks.length
      '\'' :: part ++ '\'' :: (if marks = [] then [] else '"' :: marks ++ ['"'])
        ++ (if after = [] then [] else parts fuel after)
  parts (t.length + 1) t

/-- The value between single quotes, each single quote in it behind a backslash. -/
def single (t : Text) : Text := '\'' :: (t.flatMap fun c => if c = '\'' then "'\\''".toList else [c]) ++ ['\'']

/-- Is the character one that cannot be printed? -/
def isHidden (c : Char) : Bool := c < ' ' || '\x7f' ≤ c

/-- The value as messages show it. -/
def shown (t : Text) : Text := if t.any isHidden then Format.richQuoted t else t

/-- The value between double quotes. -/
def double (t : Text) : Text :=
  if t.any isHidden then Format.richQuoted t
  else '"' :: (t.flatMap fun c => if "\"\\$`".toList.contains c then ['\\', c] else [c]) ++ ['"']

/-- The value between single quotes, even if it does not need them. -/
def always (t : Text) : Text := if t.any isHidden then Format.richQuoted t else single t

/-- Does a value need quotes in the rich dialect? -/
def isNeeded (t : Text) : Bool := t.any "' \t\n\"\\|&;()<>!*?[]^$`\x7b\x7d".toList.contains
  || t.head? = some '#' || t.head? = some '~'

/-- The value, in quotes if it needs them. -/
def asNeeded (t : Text) : Text := if t.any isHidden then Format.richQuoted t else if isNeeded t then single t else t

/-- A word of a command that is shown before it is run. -/
def traced (t : Text) : Text :=
  if t = [] then ['\'', '\'']
  else if t.any fun c => isHidden c && c ≠ '\n' && c ≠ '\t' then Format.richQuoted t
  else if isNeeded t then single t
  else t

end Rollout.Shell.Quoting
