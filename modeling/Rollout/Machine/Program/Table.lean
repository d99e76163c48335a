import Rollout.Machine.Program.Archiving
import Rollout.Machine.Program.Blocks
import Rollout.Machine.Program.Columns
import Rollout.Machine.Program.Comparing
import Rollout.Machine.Program.Compressing
import Rollout.Machine.Program.Dates
import Rollout.Machine.Program.Describing
import Rollout.Machine.Program.Digests
import Rollout.Machine.Program.Display
import Rollout.Machine.Program.Dumping
import Rollout.Machine.Program.Edit.Run
import Rollout.Machine.Program.Encoding
import Rollout.Machine.Program.Facts
import Rollout.Machine.Program.Filling
import Rollout.Machine.Program.Finding
import Rollout.Machine.Program.Gathering
import Rollout.Machine.Program.Interpreting
import Rollout.Machine.Program.Listing
import Rollout.Machine.Program.Matching
import Rollout.Machine.Program.Mixing
import Rollout.Machine.Program.Numbers
import Rollout.Machine.Program.Pages
import Rollout.Machine.Program.Parts
import Rollout.Machine.Program.Paths
import Rollout.Machine.Program.Printing
import Rollout.Machine.Program.Reviewing
import Rollout.Machine.Program.Running
import Rollout.Machine.Program.Scanning
import Rollout.Machine.Program.Searching
import Rollout.Machine.Program.Sections
import Rollout.Machine.Program.Sorting
import Rollout.Machine.Program.Tabs
import Rollout.Machine.Program.Transfer
import Rollout.Machine.Program.Units
import Rollout.Machine.Program.Usage
import Rollout.Machine.Unix.Executable

/-!
The programs of the system by their names.
-/

namespace Rollout.Program

open Unix

/-- Succeed. -/
def succeed : Routine := fun ts => do
  Manual.tellAlone ts
  return 0

/-- Fail. -/
def fail : Routine := fun ts => do
  try Manual.tellAlone ts catch _ => flush
  return 1

/-- The programs that run no others. -/
def simple? (name : Text) : Option Routine :=
  match String.ofList name with
  | "[" => some bracket
  | "arch" => some (telling (some "x86_64".toList) 0)
  | "base32" => some base32
  | "base64" => some base64
  | "basenc" => some basenc
  | "basename" => some basename
  | "cat" => some cat
  | "chgrp" => some (changeOwners true)
  | "chmod" => some chmod
  | "chown" => some (changeOwners false)
  | "cksum" => some cksum
  | "cmp" => some cmp
  | "comm" => some comm
  | "cp" => some cp
  | "csplit" => some csplit
  | "cut" => some cut
  | "date" => some date
  | "dd" => some dd
  | "diff" => some diff
  | "dir" => some dir
  | "dirname" => some dirname
  | "du" => some du
  | "echo" => some echo
  | "egrep" => some (grep (some 'E'))
  | "expand" => some expand
  | "expr" => some expr
  | "factor" => some factor
  | "false" => some fail
  | "fgrep" => some (grep (some 'F'))
  | "fmt" => some fmt
  | "fold" => some fold
  | "grep" => some (grep none)
  | "groups" => some groupsOfUsers
  | "gunzip" => some (Compressing.program ["-d"])
  | "gzip" => some (Compressing.program [])
  | "head" => some head
  | "hostid" => some (telling (some "007f0100".toList) 0)
  | "hostname" => some (telling (some "localhost".toList) 1)
  | "id" => some identify
  | "install" => some install
  | "join" => some join
  | "link" => some link
  | "ln" => some ln
  | "logname" => some logname
  | "ls" => some ls
  | "mkdir" => some mkdir
  | "mkfifo" => some mkfifo
  | "mknod" => some mknod
  | "mktemp" => some mktemp
  | "mv" => some mv
  | "nl" => some nl
  | "nproc" => some nproc
  | "numfmt" => some numfmt
  | "od" => some od
  | "paste" => some paste
  | "pathchk" => some pathchk
  | "pr" => some pr
  | "printenv" => some printenv
  | "printf" => some printf
  | "pwd" => some pwd
  | "readlink" => some readlink
  | "realpath" => some realpath
  | "rev" => some rev
  | "rm" => some rm
  | "rmdir" => some rmdir
  | "sed" => some sed
  | "seq" => some seq
  | "shuf" => some shuf
  | "sleep" => some sleep
  | "sort" => some sort
  | "stat" => some stat
  | "sum" => some sum
  | "sync" => some succeed
  | "tac" => some tac
  | "tail" => some tail
  | "tee" => some tee
  | "test" => some test
  | "touch" => some touch
  | "tr" => some tr
  | "true" => some succeed
  | "truncate" => some truncate
  | "tsort" => some tsort
  | "tty" => some tty
  | "uname" => some uname
  | "unexpand" => some unexpand
  | "uniq" => some uniq
  | "unlink" => some unlink
  | "users" => some (telling none 1)
  | "vdir" => some vdir
  | "wc" => some wc
  | "which" => some which
  | "whoami" => some (telling (some "root".toList) 0)
  | "yes" => some yes
  | "zcat" => some (Compressing.program ["-cd"])
  | _ => (digestKind? name).map digestProgram

/-- What a program of the system does; some run others. -/
def find? (name : Text) : Option (Runner → Routine) :=
  match String.ofList name with
  | "awk" => some awk
  | "env" => some env
  | "find" => some find
  | "nice" => some nice
  | "mawk" => some awk
  | "nohup" => some nohup
  | "perl" => some perl
  | "split" => some split
  | "stdbuf" => some stdbuf
  | "tar" => some tar
  | "timeout" => some timeout
  | "xargs" => some xargs
  | _ => (simple? name).map fun routine _ => routine

end Rollout.Program
