import Rollout.Machine.Program.Paths
import Rollout.Machine.Unix.Flag

/-!
The options of programs that keep files in archives. Letters may also stand together without a dash in front, their
values following one after another. Some options count only for the operands behind them.
-/

namespace Rollout.Program.Bundle

open Unix

/-! ### Flags -/

/-- Words that stand for letters. -/
def synonyms : List (String × String) :=
  [("concatenate", "A"), ("diff", "d"), ("get", "x"), ("preserve-permissions", "p"),
    ("same-permissions", "p"), ("same-order", "s"), ("gunzip", "z"), ("ungzip", "z"), ("uncompress", "Z"),
    ("after-date", "N"), ("confirmation", "w"), ("xform", "transform"), ("portability", "o"), ("old-archive", "o"),
    ("show-stored-names", "show-transformed-names")]

/-- Flags with a letter and a word. -/
def lettered : List Flag :=
  [.plain 'A' "catenate", .plain 'c' "create", .plain 'd' "compare", .plain 'r' "append", .plain 't' "list",
    .plain 'u' "update", .plain 'x' "extract", .plain 'G' "incremental", .valued 'g' "listed-incremental",
    .plain 'n' "seek", .plain 'S' "sparse", .plain 'k' "keep-old-files", .plain 'U' "unlink-first",
    .plain 'W' "verify", .plain 'O' "to-stdout", .plain 'm' "touch", .plain 'p' "", .plain 's' "preserve-order",
    .valued 'f' "file", .valued 'F' "info-script", .valued 'L' "tape-length", .plain 'M' "multi-volume",
    .valued 'b' "blocking-factor", .plain 'B' "read-full-records", .plain 'i' "ignore-zeros", .valued 'H' "format",
    .valued 'V' "label", .plain 'a' "auto-compress", .valued 'I' "use-compress-program", .plain 'j' "bzip2",
    .plain 'J' "xz", .plain 'z' "gzip", .plain 'Z' "compress", .plain 'h' "dereference",
    .valued 'K' "starting-file", .valued 'N' "newer", .plain 'P' "absolute-names", .valued 'T' "files-from",
    .valued 'X' "exclude-from", .valued 'C' "directory", .plain 'l' "check-links", .plain 'R' "block-number",
    .plain 'v' "verbose", .plain 'w' "interactive", .plain 'o' "", .plain '?' ""]

/-- Words without values. -/
def words : List String :=
  ["test-label", "check-device", "hole-detection", "ignore-failed-read", "no-check-device", "no-seek",
    "keep-directory-symlink", "keep-newer-files", "no-overwrite-dir", "overwrite", "overwrite-dir", "recursive-unlink",
    "remove-files", "skip-old-files", "ignore-command-error", "no-ignore-command-error", "clamp-mtime",
    "delay-directory-restore", "no-delay-directory-restore", "same-owner", "no-same-owner", "numeric-owner",
    "no-same-permissions", "acls", "no-acls", "selinux", "no-selinux", "xattrs", "no-xattrs", "force-local",
    "posix", "lzip", "lzma", "lzop", "no-auto-compress", "zstd", "hard-dereference", "one-file-system", "null",
    "no-null", "no-unquote", "unquote", "verbatim-files-from", "no-verbatim-files-from", "exclude-caches",
    "exclude-caches-all", "exclude-caches-under", "exclude-vcs", "exclude-vcs-ignores", "exclude-backups",
    "no-recursion", "recursion", "anchored", "ignore-case", "no-anchored", "no-ignore-case", "no-wildcards",
    "no-wildcards-match-slash", "wildcards", "wildcards-match-slash", "full-time", "show-defaults",
    "show-omitted-dirs", "show-snapshot-field-ranges", "show-transformed-names", "utc", "restrict", "delete", "usage"]

/-- Words with values. -/
def valuedWords : List String :=
  ["level", "sparse-version", "to-command", "group", "group-map", "mode", "mtime", "owner", "owner-map", "sort",
    "new-volume-script", "rmt-command", "rsh-command", "volno-file", "record-size", "pax-option", "newer-mtime",
    "suffix", "add-file", "exclude", "exclude-ignore", "exclude-ignore-recursive", "exclude-tag", "exclude-tag-all",
    "exclude-tag-under", "strip-components", "transform", "checkpoint-action", "index-file", "no-quote-chars",
    "quote-chars", "quoting-style", "warning"]

/-- Words that may have values. -/
def freeWords : List String := ["occurrence", "one-top-level", "atime-preserve", "backup", "checkpoint", "totals"]

/-- The flags. -/
def flags : List Flag :=
  lettered ++ words.map .wordOnly ++ valuedWords.map .valuedWord
    ++ (freeWords.map fun w => ⟨none, some w.toList, .optional⟩)
    ++ (synonyms.map fun (w, c) =>
      ⟨none, some w.toList, if c = "N" || c = "transform" then .needed else .none⟩)
    ++ Manual.words.map .wordOnly

/-- An option with its value, or an operand. -/
inductive Item
  | option (key value : Text)
  | operand (t : Text)

/-- The items among arguments. -/
def items : Nat → List Text → Except Text (List Item)
  | 0, _ => .ok []
  | fuel + 1, ts => do
    let a ← Arguments.read flags false (2 * (ts.flatten.length + ts.length) + 2) ts
    let own := a.options.map fun (key, value) =>
      let letter := synonyms.lookup (String.ofList key)
      Item.option ((letter.map String.toList).getD key) value
    match a.operands with
    | [] => return own
    | t :: rest =>
      if ts[ts.length - a.operands.length - 1]? = some "--" && a.operands.length < ts.length then
        return own ++ a.operands.map .operand
      else return own ++ .operand t :: (← items fuel rest)

/-- Letters without a dash as options, with their values; the letter that lacks one is the mistake. -/
def spread : Text → List Text → Except Char (List Text)
  | [], ts => .ok ts
  | c :: cs, ts =>
    if (lettered.find? (·.letter = some c)).any (·.value = .needed) then
      match ts with
      | [] => .error c
      | t :: ts => (spread cs ts).map fun rest => ['-', c] :: t :: rest
    else (spread cs ts).map fun rest => ['-', c] :: rest

/-! ### Ends -/

/-- A mistake after which the program ends at once. -/
def fatal {α : Type} (t : Text) : Act α := do
  grumble t
  grumble "Error is not recoverable: exiting now"
  throw (.exited 2)

/-- Say how to learn about the program, and end with a status. -/
def seeUsage {α : Type} (status : Nat) : Act α := do
  complain "Try 'tar --help' or 'tar --usage' for more information."
  throw (.exited status)

/-- A mistake in the options. -/
def misuse {α : Type} (t : Text) : Act α := do
  grumble t
  seeUsage 2

/-- The items that a program is given. -/
def itemsOf (ts : List Text) : Act (List Item) := do
  let ts ← match ts with
    | (c :: cs) :: rest =>
      if c = '-' then pure ts
      else match spread (c :: cs) rest with
        | .ok ts => pure ts
        | .error c => misuse ("Old option '" ++ c :: "' requires an argument.")
    | ts => pure ts
  match items (ts.length + 1) ts with
  | .ok items => return items
  | .error e => do
    grumble e
    seeUsage 64

/-! ### What is wanted -/

/-- What is done with an archive. -/
inductive Deed
  | concatenate | create | compare | append | list | update | extract | delete | tellLabel
  deriving DecidableEq

/-- The deed of an option. -/
def Deed.ofKey? (key : Text) : Option Deed :=
  match String.ofList key with
  | "A" => some concatenate
  | "c" => some create
  | "d" => some compare
  | "r" => some append
  | "t" => some list
  | "u" => some update
  | "x" => some extract
  | "delete" => some delete
  | "test-label" => some tellLabel
  | _ => none

/-- Is the archive changed by the deed? -/
def Deed.changes (d : Deed) : Bool := [concatenate, append, update, delete].contains d

/-- What becomes of a file that is there when one is extracted. -/
inductive Meeting
  /-- It is replaced. -/
  | replace
  /-- It is written over. -/
  | overwrite
  /-- It is removed first. -/
  | unlink
  /-- It stays, and that is a mistake. -/
  | keep
  /-- It stays. -/
  | skip
  /-- It stays if it is not older. -/
  | keepNewer
  deriving DecidableEq

/-- How texts are held against a pattern. -/
structure Manner where
  /-- Must the pattern cover a text from its start? -/
  anchored : Bool
  /-- Do characters of patterns have a meaning? -/
  wild : Bool
  /-- Do they cover slashes? -/
  overSlashes : Bool
  /-- Does case not count? -/
  folded : Bool

/-- A pattern of names. -/
structure NamePattern where
  /-- The pattern. -/
  text : Text
  /-- How texts are held against it. -/
  manner : Manner

end Rollout.Program.Bundle
