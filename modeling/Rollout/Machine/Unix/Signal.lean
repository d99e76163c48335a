import Rollout.Text.Basic

/-!
Signals: their names, and what they do to a process that does nothing about them.
-/

namespace Rollout.Unix.Signal

/-- The names of signals that have one, by their numbers. -/
def named : List (Nat × Text) :=
  [(1, "HUP"), (2, "INT"), (3, "QUIT"), (4, "ILL"), (5, "TRAP"), (6, "ABRT"), (7, "BUS"), (8, "FPE"), (9, "KILL"),
    (10, "USR1"), (11, "SEGV"), (12, "USR2"), (13, "PIPE"), (14, "ALRM"), (15, "TERM"), (16, "STKFLT"), (17, "CHLD"),
    (18, "CONT"), (19, "STOP"), (20, "TSTP"), (21, "TTIN"), (22, "TTOU"), (23, "URG"), (24, "XCPU"), (25, "XFSZ"),
    (26, "VTALRM"), (27, "PROF"), (28, "WINCH"), (29, "IO"), (30, "PWR"), (31, "SYS")].map
    fun (s : Nat × String) => (s.1, s.2.toList)

/-- The greatest signal. -/
def greatest : Nat := 64

/-- The name of a signal. -/
def name (n : Nat) : Text :=
  match named.lookup n with
  | some t => t
  | none =>
    if n = 34 then "RTMIN"
    else if 34 < n && n < 50 then "RTMIN+" ++ Text.ofNat (n - 34)
    else if n < 64 && 50 ≤ n then "RTMAX-" ++ Text.ofNat (64 - n)
    else if n = 64 then "RTMAX"
    else Text.ofNat n

/-- All signals with their names. -/
def all : List (Nat × Text) := (List.range greatest).map fun i => (i + 1, name (i + 1))

/-- The signal of a name, in whatever case. -/
def ofName? (t : Text) : Option Nat :=
  (all.find? fun s => s.2 = t.map Char.toUpper && 0 < s.1).map (·.1)

/-- Signals that do nothing to a process. -/
def isHarmless (n : Nat) : Bool := n = 0 || n = 17 || n = 18 || n = 23 || n = 28

/-- What is said when a process that was waited for has been ended by a signal. -/
def description (n : Nat) : Text :=
  match n with
  | 1 => "Hangup"
  | 3 => "Quit"
  | 4 => "Illegal instruction"
  | 5 => "Trace/breakpoint trap"
  | 6 => "Aborted"
  | 7 => "Bus error"
  | 8 => "Floating point exception"
  | 9 => "Killed"
  | 10 => "User defined signal 1"
  | 11 => "Segmentation fault"
  | 12 => "User defined signal 2"
  | 14 => "Alarm clock"
  | 15 => "Terminated"
  | 16 => "Stack fault"
  | 24 => "CPU time limit exceeded"
  | 25 => "File size limit exceeded"
  | 26 => "Virtual timer expired"
  | 27 => "Profiling timer expired"
  | 29 => "I/O possible"
  | 30 => "Power failure"
  | 31 => "Bad system call"
  | _ => []

end Rollout.Unix.Signal
