import Rollout.Workspace

/-!
The files of the machine that lines run on: its programs, its devices, and what it says about its users.
-/

namespace Rollout.Workspace

/-- The programs that the system has. -/
def systemPrograms : List Text :=
  ["[", "arch", "awk", "b2sum", "base32", "base64", "basename", "basenc", "bash", "cat", "chgrp", "chmod",
    "chown", "cksum", "cmp", "comm", "cp", "csplit", "cut", "dash", "date", "dd", "diff", "dir", "dircolors",
    "dirname", "du", "echo", "egrep", "env", "expand", "expr", "factor", "false", "fgrep", "find", "fmt",
    "fold", "getopt", "grep", "groups", "gunzip", "gzip", "head", "hostid", "hostname", "id", "install", "join",
    "link", "ln", "logname", "ls", "mawk", "md5sum", "mkdir", "mkfifo", "mknod", "mktemp", "mv", "nice", "nl",
    "nohup", "nproc", "numfmt", "od", "paste", "pathchk", "perl", "pr", "printenv", "printf", "pwd", "rbash",
    "readlink", "realpath", "rev", "rm", "rmdir", "sed", "seq", "sh", "sha1sum", "sha224sum", "sha256sum",
    "sha384sum", "sha512sum", "shuf", "sleep", "sort", "split", "stat", "stdbuf", "sum", "sync", "tac", "tail",
    "tar", "tee", "test", "timeout", "touch", "tr", "true", "truncate", "tsort", "tty", "uname", "unexpand",
    "uniq", "unlink", "users", "vdir", "wc", "which", "whoami", "xargs", "yes", "zcat"].map String.toList

/-- Directories with these names. -/
def emptyDirs (names : List String) : List (Text × FileTree) :=
  names.map fun name => (name.toList, .emptyDir)

/-- Links with these names and targets. -/
def links (pairs : List (String × String)) : List (Text × FileTree) :=
  pairs.map fun (name, target) => (name.toList, .ofTarget target.toList)

/-- The devices. -/
def devices : List (Text × FileTree) :=
  [("null", Device.null), ("zero", .zero), ("full", .full), ("random", .random), ("urandom", .random)].map
    (fun (name, d) => (name.toList, FileTree.ofDevice d))
    ++ links [("fd", "/proc/self/fd"), ("stdin", "/proc/self/fd/0"), ("stdout", "/proc/self/fd/1"),
      ("stderr", "/proc/self/fd/2")]

/-- What a process finds about itself. -/
def processFiles : List (Text × FileTree) :=
  let numbered := (List.range 10).map fun n => (Text.ofNat n, FileTree.ofDevice (.descriptor n))
  ("fd".toList, directory numbered) :: textFiles [("stat", []), ("status", []), ("cmdline", [])]

/-- The users of the system with their numbers, groups, homes and shells. -/
def users : List (String × Nat × Nat × String × String) :=
  [("root", 0, 0, "/root", "/bin/bash"), ("daemon", 1, 1, "/usr/sbin", "/usr/sbin/nologin"),
    ("bin", 2, 2, "/bin", "/usr/sbin/nologin"), ("sys", 3, 3, "/dev", "/usr/sbin/nologin"),
    ("sync", 4, 65534, "/bin", "/bin/sync"), ("games", 5, 60, "/usr/games", "/usr/sbin/nologin"),
    ("man", 6, 12, "/var/cache/man", "/usr/sbin/nologin"), ("lp", 7, 7, "/var/spool/lpd", "/usr/sbin/nologin"),
    ("mail", 8, 8, "/var/mail", "/usr/sbin/nologin"), ("news", 9, 9, "/var/spool/news", "/usr/sbin/nologin"),
    ("uucp", 10, 10, "/var/spool/uucp", "/usr/sbin/nologin"), ("proxy", 13, 13, "/bin", "/usr/sbin/nologin"),
    ("www-data", 33, 33, "/var/www", "/usr/sbin/nologin"),
    ("backup", 34, 34, "/var/backups", "/usr/sbin/nologin"), ("list", 38, 38, "/var/list", "/usr/sbin/nologin"),
    ("irc", 39, 39, "/run/ircd", "/usr/sbin/nologin"), ("_apt", 42, 65534, "/nonexistent", "/usr/sbin/nologin"),
    ("nobody", 65534, 65534, "/nonexistent", "/usr/sbin/nologin")]

/-- The groups of the system with their numbers. -/
def groups : List (String × Nat) :=
  [("root", 0), ("daemon", 1), ("bin", 2), ("sys", 3), ("adm", 4), ("tty", 5), ("disk", 6), ("lp", 7), ("mail", 8),
    ("news", 9), ("uucp", 10), ("man", 12), ("proxy", 13), ("kmem", 15), ("dialout", 20), ("fax", 21), ("voice", 22),
    ("cdrom", 24), ("floppy", 25), ("tape", 26), ("sudo", 27), ("audio", 29), ("dip", 30), ("www-data", 33),
    ("backup", 34), ("operator", 37), ("list", 38), ("irc", 39), ("src", 40), ("shadow", 42), ("utmp", 43),
    ("video", 44), ("sasl", 45), ("plugdev", 46), ("staff", 50), ("games", 60), ("users", 100), ("nogroup", 65534)]

/-- The files about the system. -/
def settings : List (Text × FileTree) :=
  let number (n : Nat) : String := String.ofList (Text.ofNat n)
  textFiles
    [("passwd", users.map fun (name, user, group, home, shell) =>
        ":".intercalate [name, "x", number user, number group, name, home, shell]),
      ("group", groups.map fun (name, group) => ":".intercalate [name, "x", number group, ""]),
      ("hostname", ["localhost"]), ("hosts", ["127.0.0.1\tlocalhost"]),
      ("shells", ["# /etc/shells: valid login shells", "/bin/sh", "/usr/bin/sh", "/bin/bash", "/usr/bin/bash",
        "/bin/rbash", "/usr/bin/rbash", "/bin/dash", "/usr/bin/dash"]),
      ("debian_version", ["12.11"]),
      ("os-release", ["PRETTY_NAME=\"Debian GNU/Linux 12 (bookworm)\"", "NAME=\"Debian GNU/Linux\"",
        "VERSION_ID=\"12\"", "VERSION=\"12 (bookworm)\"", "VERSION_CODENAME=bookworm", "ID=debian"])]

/-- The place of the programs of the system. -/
def programPlace : List Text := ["usr", "bin"].map String.toList

/-- The permissions of a directory where everybody may make files that only their owners may remove. -/
def commonMode : Nat := 0o1777

/-- A system with its programs and its devices. -/
def system : FileTree :=
  let programs := directory (systemPrograms.map fun name => (name, .ofData [] true))
  let user := directory (("bin".toList, programs) :: emptyDirs ["games", "include", "lib", "local", "sbin", "share"])
  let own := directory [("self".toList, directory processFiles)]
  directory ([("dev".toList, directory devices), ("etc".toList, directory settings), ("proc".toList, own),
      ("tmp".toList, .dir [] (.ofMode commonMode)), ("usr".toList, user)]
    ++ links [("bin", "usr/bin"), ("lib", "usr/lib"), ("sbin", "usr/sbin")]
    ++ emptyDirs ["boot", "home", "media", "mnt", "opt", "root", "run", "srv", "sys", "var"])

/-- A system with an empty current directory at a place, and an environment. -/
def ofEnv (cwd : List Text) (env : Dict Text) : Workspace := ⟨system.put .emptyDir cwd, cwd, env⟩

end Rollout.Workspace
