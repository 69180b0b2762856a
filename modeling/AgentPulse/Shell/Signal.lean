import AgentPulse.Shell.Script
import AgentPulse.Text.Decimal

/-!
# Signals

The signals by number and name, and what they do to a process that has not asked for anything else.
Signal 0 is none: as a condition it stands for the end of a shell.
-/

namespace AgentPulse.Shell.Signal

/-- There are signals up to this number. -/
def last : Nat := 64

/-- The names of the signals from number 1 on that have one of their own. -/
def names : List String := [
  "HUP", "INT", "QUIT", "ILL", "TRAP", "ABRT", "BUS", "FPE", "KILL", "USR1", "SEGV", "USR2", "PIPE",
  "ALRM", "TERM", "STKFLT", "CHLD", "CONT", "STOP", "TSTP", "TTIN", "TTOU", "URG", "XCPU", "XFSZ",
  "VTALRM", "PROF", "WINCH", "IO", "PWR", "SYS"]

/-- The first of the signals that are numbered from both ends. -/
def firstNumbered : Nat := 34

/-- The first of the signals that are numbered from the last one. -/
def firstFromEnd : Nat := 50

/-- The name of a signal. -/
def name (n : Nat) : String :=
  if n = 0 then "EXIT"
  else if n ≤ names.length then names.getD (n - 1) ""
  else if n < firstNumbered ∨ last < n then Text.Decimal.ofNat n
  else if n = firstNumbered then "RTMIN"
  else if n = last then "RTMAX"
  else if n < firstFromEnd then "RTMIN+" ++ Text.Decimal.ofNat (n - firstNumbered)
  else "RTMAX-" ++ Text.Decimal.ofNat (last - n)

/-- The number of a signal that is given by number. -/
def ofNumber? (cs : Raw) : Option Nat :=
  if cs.isEmpty || !cs.all Char.isDigit then none
  else
    let n := Text.Decimal.value cs
    if n ≤ last then some n else none

/-- The number of a signal from `first` on that is given by number or by name, in letters of either
case. -/
def ofText? (first : Nat) (cs : Raw) : Option Nat :=
  if !cs.isEmpty && cs.all Char.isDigit then ofNumber? cs
  else
    let upper := String.ofList (cs.map Char.toUpper)
    (List.range (last + 1)).find? fun n => first ≤ n && name n == upper

/-- The signals that cannot be caught. -/
def isAbsolute (n : Nat) : Bool := n == 9 || n == 19

/-- The signals that do nothing unless they are asked for. -/
def isHarmless (n : Nat) : Bool := n == 0 || n == 17 || n == 18 || n == 23 || n == 28

/-- What is said when a process is killed by a signal, if anything is. -/
def epitaph? (n : Nat) : Option String :=
  match n with
  | 2 | 13 => none
  | 1 => some "Hangup"
  | 3 => some "Quit"
  | 4 => some "Illegal instruction"
  | 5 => some "Trace/breakpoint trap"
  | 6 => some "Aborted"
  | 7 => some "Bus error"
  | 8 => some "Floating point exception"
  | 9 => some "Killed"
  | 10 => some "User defined signal 1"
  | 11 => some "Segmentation fault"
  | 12 => some "User defined signal 2"
  | 14 => some "Alarm clock"
  | 15 => some "Terminated"
  | 16 => some "Stack fault"
  | 24 => some "CPU time limit exceeded"
  | 25 => some "File size limit exceeded"
  | 26 => some "Virtual timer expired"
  | 27 => some "Profiling timer expired"
  | 29 => some "I/O possible"
  | 30 => some "Power failure"
  | 31 => some "Bad system call"
  | n =>
    if firstNumbered ≤ n then some ("Real-time signal " ++ Text.Decimal.ofNat (n - firstNumbered))
    else if n = 32 ∨ n = 33 then some ("Unknown signal " ++ Text.Decimal.ofNat n)
    else none

/-- The signal of a writer that nobody reads from. -/
def brokenPipe : Nat := 13

/-- The signal that ends a process where nothing else is said. -/
def usual : Nat := 15

/-- How a process counts that was killed by a signal. -/
def status (n : Nat) : Nat := 128 + n

end AgentPulse.Shell.Signal
