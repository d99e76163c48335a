import Rollout.Machine.Unix.Process

/-!
What programs tell about themselves: their versions, and how they are used.
-/

namespace Rollout.Unix.Manual

/-- Programs that belong together, with the name of the collection and its version. -/
structure Collection where
  /-- How the version is told behind the name of the program. -/
  version : Text
  /-- The programs. -/
  programs : List String

/-- The collection to which most programs belong. -/
def coreVersion : Text := "(GNU coreutils) 9.1"

/-- The other collections. -/
def collections : List Collection :=
  [⟨"(GNU diffutils) 3.8", ["cmp", "diff"]⟩, ⟨"(GNU findutils) 4.9.0", ["find", "xargs"]⟩,
    ⟨"(GNU grep) 3.8", ["grep", "egrep", "fgrep"]⟩, ⟨"(GNU sed) 4.9", ["sed"]⟩, ⟨"(GNU tar) 1.34", ["tar"]⟩,
    ⟨"(coreutils) 9.1", ["dd"]⟩, ⟨"from util-linux 2.38.1", ["getopt", "rev"]⟩, ⟨"1.12", ["gzip"]⟩,
    ⟨"(gzip) 1.12", ["gunzip", "zcat"]⟩, ⟨"3.23", ["hostname"]⟩]

/-- The line in which a program tells its version. -/
def versionLine (name : Text) : Text :=
  let collection := collections.find? fun c => c.programs.contains (String.ofList name)
  let shown : Text := if name = "egrep" || name = "fgrep" then "grep" else name
  shown ++ ' ' :: (collection.map (·.version)).getD coreVersion

/-- What stands behind the names of programs where they tell how they are used. -/
def usages : List (String × List String) :=
  [("[OPTION]... [FILE]...", ["b2sum", "cat", "cksum", "dir", "du", "expand", "fmt", "fold", "gunzip", "gzip", "head",
      "ls", "md5sum", "nl", "od", "paste", "pr", "rm", "sha1sum", "sha224sum", "sha256sum", "sha384sum", "sha512sum",
      "sort", "sum", "tac", "tail", "tee", "unexpand", "vdir", "wc", "zcat"]),
    ("[OPTION]... [FILE]", ["base32", "base64", "basenc", "dircolors", "shuf"]),
    ("[OPTION]...", ["arch", "nproc", "pwd", "tty", "uname", "whoami"]),
    ("[OPTION]", ["hostid", "logname"]),
    ("[OPTION]... [-T] SOURCE DEST", ["cp", "install", "mv"]),
    ("[OPTION]... FILE1 FILE2", ["comm", "join"]),
    ("[OPTION]... FILE...", ["readlink", "realpath", "stat", "touch"]),
    ("[OPTION]... DIRECTORY...", ["mkdir", "rmdir"]),
    ("[OPTION]... NAME...", ["mkfifo", "pathchk"]),
    ("NAME [SUFFIX]", ["basename"]),
    ("[OPTION]... GROUP FILE...", ["chgrp"]),
    ("[OPTION]... MODE[,MODE]... FILE...", ["chmod"]),
    ("[OPTION]... [OWNER][:[GROUP]] FILE...", ["chown"]),
    ("[OPTION]... FILE1 [FILE2 [SKIP1 [SKIP2]]]", ["cmp"]),
    ("[OPTION]... FILE PATTERN...", ["csplit"]),
    ("OPTION... [FILE]...", ["cut"]),
    ("[OPTION]... [+FORMAT]", ["date"]),
    ("[OPERAND]...", ["dd"]),
    ("[OPTION]... FILES", ["diff"]),
    ("[OPTION] NAME...", ["dirname"]),
    ("[SHORT-OPTION]... [STRING]...", ["echo"]),
    ("[OPTION]... [-] [NAME=VALUE]... [COMMAND [ARG]...]", ["env"]),
    ("EXPRESSION", ["expr"]),
    ("[NUMBER]...", ["factor"]),
    ("[ignored command line arguments]", ["false", "true"]),
    ("[-H] [-L] [-P] [-Olevel] [-D debugopts] [path...] [expression]", ["find"]),
    ("[OPTION]... PATTERNS [FILE]...", ["egrep", "fgrep", "grep"]),
    ("[OPTION]... [USERNAME]...", ["groups"]),
    ("[OPTION]... [USER]...", ["id"]),
    ("FILE1 FILE2", ["link"]),
    ("[OPTION]... [-T] TARGET LINK_NAME", ["ln"]),
    ("[OPTION]... NAME TYPE [MAJOR MINOR]", ["mknod"]),
    ("[OPTION]... [TEMPLATE]", ["mktemp"]),
    ("[OPTION] [COMMAND [ARG]...]", ["nice"]),
    ("COMMAND [ARG]...", ["nohup"]),
    ("[OPTION]... [NUMBER]...", ["numfmt"]),
    ("[OPTION]... [VARIABLE]...", ["printenv"]),
    ("FORMAT [ARGUMENT]...", ["printf"]),
    ("[options] [file ...]", ["rev"]),
    ("[OPTION]... \x7bscript-only-if-no-other-script\x7d [input-file]...", ["sed"]),
    ("[OPTION]... LAST", ["seq"]),
    ("NUMBER[SUFFIX]...", ["sleep"]),
    ("[OPTION]... [FILE [PREFIX]]", ["split"]),
    ("OPTION... COMMAND", ["stdbuf"]),
    ("[OPTION] [FILE]...", ["sync"]),
    ("[OPTION...] [FILE]...", ["tar"]),
    ("[OPTION] DURATION COMMAND [ARG]...", ["timeout"]),
    ("[OPTION]... STRING1 [STRING2]", ["tr"]),
    ("OPTION... FILE...", ["truncate"]),
    ("[OPTION] [FILE]", ["tsort"]),
    ("[OPTION]... [INPUT [OUTPUT]]", ["uniq"]),
    ("FILE", ["unlink"]),
    ("[OPTION]... [FILE]", ["users"]),
    ("[OPTION]... COMMAND [INITIAL-ARGS]...", ["xargs"]),
    ("[STRING]...", ["yes"])]

/-- The name of a program without the place where it is. -/
def ownName (name : Text) : Text := (name.reverse.takeWhile (· ≠ '/')).reverse

/-- The first line of what a program tells about how it is used, by the name under which it was started. -/
def usageLine (name : Text) : Text :=
  let operands := (usages.find? fun u => u.2.contains (String.ofList (ownName name))).map (·.1)
  if name = "[" then "Usage: test EXPRESSION" else "Usage: " ++ name ++ ' ' :: (operands.getD "[OPTION]...").toList

/-- The words of the options by which programs tell about themselves. -/
def words : List String := ["help", "version"]

/-- Tell what an option asks for about the program, and end. -/
def tell {α : Type} (word : Text) : Act α := do
  let name := (← get).name
  sayLine (if word = "help" then usageLine name else versionLine (ownName name))
  throw (.exited 0)

/-- Tell about the program if its only argument asks for that. -/
def tellAlone (ts : List Text) : Act Unit := do
  match ts with
  | ['-' :: '-' :: word] => if words.any fun w => w.toList = word then tell word
  | _ => return

end Rollout.Unix.Manual
