import AgentPulse.Shell.Rows.Run

/-!
# Working on rows

The program that carries out a script for the rows of files.
-/

namespace AgentPulse.Shell.Program

open Rows

/-- The names that scripts start with. -/
def firstNames (separator : Raw) (arguments : Nat) : List (String × Value) := [
  ("ARGC", count arguments), ("CONVFMT", .text (raw "%.6g")), ("FNR", count 0),
  ("FS", .text separator), ("NF", count 0), ("NR", count 0), ("OFMT", .text (raw "%.6g")),
  ("OFS", .text [' ']), ("ORS", .text ['\n']), ("RLENGTH", .number (-1)), ("RS", .text ['\n']),
  ("RSTART", count 0), ("SUBSEP", .text ['\x1c'])]

/-- Carry out a script for the rows of files. -/
def awk (launch : Launch) (args : List Raw) : Act Ending := do
  match (Flags.of "F:v:f:W:" [] false).arguments args with
  | .error message =>
    Act.say ("mawk: " ++ message)
    return .exit 2
  | .ok a =>
    let files := a.options.filter fun o => o.1 == 'f'
    if files.isEmpty && a.operands.isEmpty then
      Act.say "Usage: mawk [Options] [Program] [file ...]"
      return .exit 2
    else
      let parts : List (Except (Raw × Files.Fault) Raw) ← files.mapM fun o => do
        match ← readNamed o.2 with
        | .ok text => return .ok text
        | .error f => return .error (o.2, f)
      let source : Except String Raw := match parts.mapM id with
        | .ok [] => .ok (a.operands.headD [])
        | .ok texts => .ok (List.intercalate ['\n'] texts)
        | .error (path, f) => .error ("cannot open " ++ path.shown ++ " (" ++ f.words ++ ")")
      let words := if files.isEmpty then a.operands.drop 1 else a.operands
      match source.bind Script.read with
      | .error message =>
        Act.say ("mawk: " ++ message)
        return .exit 2
      | .ok script =>
        let given := (a.value? 'F').getD [' ']
        let separator := Work.resolved (given.length + 1) given
        let all := raw "awk" :: words
        let seen := (← get).environment
        let work : Work Nat := do
          (firstNames separator all.length).forM fun (n : String × Value) => Work.setGlobal n.1 n.2
          let keyed := (all.zipIdx 0).map fun e => (Text.Decimal.ofNat e.2, Value.input e.1)
          Work.setItems (raw "ARGV") (Dict.ofList keyed)
          let environment := seen.map fun e => (String.ofList e.1, Value.input e.2)
          Work.setItems (raw "ENVIRON") (Dict.ofList environment)
          (a.options.filter fun o => o.1 == 'v').forM fun (o : Char × Raw) => Work.assignWord o.2
          runScript { script, launch }
        let (r, _) ← (work.run).run {}
        match r with
        | .ok status => return .exit status
        | .error (.fatal message) =>
          Act.say ("mawk: " ++ message)
          return .exit 2
        | .error _ => return .exit 0

end AgentPulse.Shell.Program
