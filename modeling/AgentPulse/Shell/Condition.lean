import AgentPulse.Shell.Number
import AgentPulse.Shell.State
import AgentPulse.Shell.System

/-!
# Conditions

The expressions of `test`: questions about files, texts and numbers, with `!`, `-a`, `-o` and
parentheses between them. What an argument means depends on those behind it: an operator with
nothing to work on is text.

The functions take the arguments from the one that has been reached, and give those from the last
one that they used.
-/

namespace AgentPulse.Shell.Condition

/-- What an argument may be beside text. -/
inductive Operator where
  | unary
  | binary
  | negation
  | both
  | either
  | opening
  | closing
  deriving DecidableEq, Repr

/-- The operator that a text is. -/
def operator? (text : Raw) : Option Operator :=
  let t := String.ofList text
  if ["-r", "-w", "-x", "-e", "-f", "-d", "-c", "-b", "-p", "-u", "-g", "-k", "-s", "-t", "-z",
      "-n", "-h", "-O", "-G", "-L", "-S"].contains t then some .unary
  else if ["=", "!=", "<", ">", "-eq", "-ne", "-ge", "-gt", "-le", "-lt", "-nt", "-ot",
      "-ef"].contains t then some .binary
  else match t with
    | "!" => some .negation
    | "-a" => some .both
    | "-o" => some .either
    | "(" => some .opening
    | ")" => some .closing
    | _ => none

/-- What an argument is at its place. -/
inductive Role where
  | missing
  | text
  | operator (op : Operator)
  deriving DecidableEq, Repr

/-- Whether arguments behind an operator on one text show that it is text itself. -/
def isText : List Raw → Bool
  | [] => true
  | [_] => false
  | a :: _ => operator? a = some .binary

/-- What the first of some arguments is. -/
def role : List Raw → Role
  | [] => .missing
  | a :: rest =>
    match operator? a with
    | none => .text
    | some .unary => if isText rest then .text else .operator .unary
    | some .opening => if rest.isEmpty then .text else .operator .opening
    | some op => .operator op

/-- Why an expression cannot be answered. -/
inductive Trouble where
  | illegalNumber (text : Raw)
  | unexpected (text : Raw)
  | missing (operator : Raw)
  | unclosed
  deriving Repr

/-- What is said about trouble with an expression. -/
def Trouble.message : Trouble → String
  | .illegalNumber text => "Illegal number: " ++ text.shown
  | .unexpected text =>
    (if text.isEmpty then "" else text.shown ++ ": ") ++ "unexpected operator"
  | .missing operator => operator.shown ++ ": argument expected"
  | .unclosed => "closing paren expected"

/-! ## Questions -/

/-- What is at a path, and where. -/
def found? (s : State) (path : Raw) (goal : Files.Goal := {}) :
    Option (Files.Place × Files.Entry) :=
  match Files.entryAt s.tree s.folder path.toBytes goal with
  | .ok r => some r
  | .error _ => none

/-- The file at a path, if there is one. -/
def file? (s : State) (path : Raw) : Option Files.File :=
  match found? s path with
  | some (_, .file id) => some (s.tree.file id)
  | _ => none

/-- Whether a path leads to a device. -/
def isDevice (s : State) (path : Raw) : Bool :=
  (found? s path).any fun e => (System.deviceAt? e.1).isSome

/-- Questions about one text. -/
def answerUnary (s : State) (op : String) (arg : Raw) : Except Trouble Bool :=
  match op with
  | "-n" => .ok (!arg.isEmpty)
  | "-z" => .ok arg.isEmpty
  | "-t" => if (integer? .decimal arg).isSome then .ok false else .error (.illegalNumber arg)
  | "-e" | "-r" | "-w" | "-O" | "-G" => .ok (found? s arg).isSome
  | "-f" => .ok ((file? s arg).isSome && !isDevice s arg)
  | "-c" => .ok (isDevice s arg)
  | "-d" => .ok ((found? s arg).any fun e => e.2.isFolder)
  | "-x" => .ok ((found? s arg).any fun
      | (_, .file id) => (s.tree.file id).mode &&& 0o111 != 0
      | (_, e) => e.isFolder)
  | "-s" => .ok ((found? s arg).any fun
      | (_, .file id) => !(s.tree.content id).isEmpty
      | (_, e) => e.isFolder)
  | "-h" | "-L" => .ok ((found? s arg .atLink).any fun
      | (_, .link _) => true
      | _ => false)
  | "-k" => .ok ((found? s arg).any fun
      | (_, .folder mode) => mode &&& 0o1000 != 0
      | _ => false)
  | _ => .ok false

/-- Questions about two texts. -/
def answerBinary (s : State) (op : String) (a b : Raw) : Except Trouble Bool :=
  let compare (f : Int → Int → Bool) : Except Trouble Bool :=
    match integer? .decimal a, integer? .decimal b with
    | some n, some m => .ok (f n m)
    | none, _ => .error (.illegalNumber a)
    | some _, none => .error (.illegalNumber b)
  let newer (a b : Raw) : Bool :=
    match file? s a, file? s b with
    | some f, some g => g.time < f.time
    | _, _ => false
  match op with
  | "=" => .ok (a == b)
  | "!=" => .ok (a != b)
  | "<" => .ok (!b.le a)
  | ">" => .ok (!a.le b)
  | "-eq" => compare (· == ·)
  | "-ne" => compare (· != ·)
  | "-lt" => compare fun n m => decide (n < m)
  | "-le" => compare fun n m => decide (n ≤ m)
  | "-gt" => compare fun n m => decide (m < n)
  | "-ge" => compare fun n m => decide (m ≤ n)
  | "-nt" => .ok (newer a b)
  | "-ot" => .ok (newer b a)
  | _ =>
    match found? s a, found? s b with
    | some (_, .file f), some (_, .file g) => .ok (f == g)
    | some (p, _), some (q, _) => .ok (p == q)
    | _, _ => .ok false

/-! ## Expressions -/

/-- An answer, and the arguments from the last one that was used. -/
abbrev Answer := Except Trouble (Bool × List Raw)

mutual
/-- Terms joined by `-o`, given the answer so far. -/
def either (fuel : Nat) (s : State) (before : Bool) (args : List Raw) : Answer := do
  match fuel with
  | 0 => return (before, args)
  | fuel + 1 =>
    let (a, args) ← both fuel s true args
    if role (args.drop 1) = .operator .either then either fuel s (before || a) (args.drop 2)
    else return (before || a, args)

/-- Terms joined by `-a`, given the answer so far. -/
def both (fuel : Nat) (s : State) (before : Bool) (args : List Raw) : Answer := do
  match fuel with
  | 0 => return (before, args)
  | fuel + 1 =>
    let (a, args) ← term fuel s (role args) args
    if role (args.drop 1) = .operator .both then both fuel s (before && a) (args.drop 2)
    else return (before && a, args)

/-- A question, or one that is turned around, or an expression in parentheses. -/
def term (fuel : Nat) (s : State) (r : Role) (args : List Raw) : Answer := do
  match fuel with
  | 0 => return (false, args)
  | fuel + 1 =>
    match r, args with
    | .operator .negation, _ =>
      let (a, args) ← term fuel s (role (args.drop 1)) (args.drop 1)
      return (!a, args)
    | .missing, args => return (false, args)
    | .operator .opening, args =>
      let args := args.drop 1
      if role args = .operator .closing then return (false, args)
      else
        let (a, args) ← either fuel s false args
        if role (args.drop 1) = .operator .closing then return (a, args.drop 1)
        else .error .unclosed
    | .operator .unary, op :: args =>
      match args with
      | a :: _ =>
        let answer ← answerUnary s (String.ofList op) a
        return (answer, args)
      | [] => .error (.missing op)
    | _, a :: rest =>
      if role rest = .operator .binary then
        match rest with
        | op :: b :: more =>
          let answer ← answerBinary s (String.ofList op) a b
          return (answer, b :: more)
        | op :: [] => .error (.missing op)
        | [] => return (!a.isEmpty, args)
      else return (!a.isEmpty, args)
    | _, [] => return (false, [])
end

/-- Whether an expression holds. The form of three or four arguments decides first. -/
def holds (s : State) (args : List Raw) : Nat → Except Trouble Bool
  | 0 => .ok false
  | fuel + 1 => do
    let depth := 4 * args.length + 8
    let finished (r : Bool × List Raw) : Except Trouble Bool :=
      match r.2 with
      | a :: _ :: _ => .error (.unexpected a)
      | _ => .ok r.1
    let all : Except Trouble Bool := do finished (← either depth s false args)
    match args with
    | [] => return false
    | [a, op, b] =>
      if operator? op = some .binary then
        let answer ← answerBinary s (String.ofList op) a b
        return answer
      else if a = ['('] ∧ b = [')'] then do finished (← either depth s false [op])
      else if a = ['!'] then return !(← holds s [op, b] fuel)
      else all
    | [a, b, c, d] =>
      if a = ['('] ∧ d = [')'] then do finished (← either depth s false [b, c])
      else if a = ['!'] then return !(← holds s [b, c, d] fuel)
      else all
    | _ => all

end AgentPulse.Shell.Condition
