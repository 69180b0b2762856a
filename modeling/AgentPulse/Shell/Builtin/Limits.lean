import AgentPulse.Shell.Course

/-!
# Limits and times

The builtins that show what a shell may use and what it has used. There are no limits, and no time
is counted.
-/

namespace AgentPulse.Shell.Builtin

/-- The limits by letter, in the order in which they are shown, with their names. -/
def limits : List (Char × String) := [
  ('t', "time(seconds)        "), ('f', "file(blocks)         "), ('d', "data(kbytes)         "),
  ('s', "stack(kbytes)        "), ('c', "coredump(blocks)     "), ('m', "memory(kbytes)       "),
  ('l', "locked memory(kbytes) "), ('p', "process              "), ('n', "nofiles              "),
  ('v', "vmemory(kbytes)      "), ('w', "locks                "), ('r', "rtprio               ")]

/-- Show limits. Setting them has no effect. -/
def showLimits : Builtin := fun args => do
  let known : Letters := (['H', 'S', 'a'] ++ limits.map (·.1)).map fun c => (c, false)
  let (options, values) ← Course.options known args
  if hasLetter options 'a' then
    limits.forM fun l => Act.outLine (raw (l.2 ++ "unlimited"))
    return 0
  else
    if values.isEmpty then Act.outLine (raw "unlimited")
    return 0

/-- Show the time that was used by the shell and by what it has started. -/
def showTimes : Builtin := fun _ => do
  Act.out (raw "0m0.000000s 0m0.000000s\n0m0.000000s 0m0.000000s\n")
  return 0

end AgentPulse.Shell.Builtin
