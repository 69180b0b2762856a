import AgentPulse.Shell.Builtin.Names
import AgentPulse.Shell.Opening

/-!
# What a simple command carries out

The words of a simple command are expanded from left to right. As soon as there is a name it is
known what the command carries out, and that decides how the other words count: arguments of some
builtins may be assignments. `command` in front of a name keeps functions out.
-/

namespace AgentPulse.Shell

/-- What is carried out under a name. -/
inductive Deed where
  | nothing
  | builtin (name : String)
  | function (body : Command)
  | program
  deriving Inhabited

/-- What a simple command carries out. -/
structure Plan where
  /-- The name and the arguments. -/
  args : List Raw
  deed : Deed
  /-- Whether the shell ends if it fails, and whether assignments stay. -/
  isSpecial : Bool := false
  /-- Whether programs are looked up in the usual folders only. -/
  isUsual : Bool := false
  deriving Inhabited

/-- What a name stands for. -/
def deedOf (s : State) (name : Raw) (skipsFunctions : Bool) : Deed :=
  let text := String.ofList name
  if name.contains '/' then .program
  else match (if skipsFunctions then none else s.functions.find? text) with
    | some body => .function body
    | none => if Builtin.isBuiltin text then .builtin text else .program

/-- Whether arguments may be assignments. -/
def Deed.mayAssign : Deed → Bool
  | .builtin name => Builtin.assigningBuiltins.contains name
  | _ => false

/-- Whether it is a builtin whose failure ends the shell. -/
def Deed.isSpecial : Deed → Bool
  | .builtin name => specialBuiltins.contains name
  | _ => false

namespace Plan

/-- Expand words until there is a field: the fields, and the words that are left. -/
def firstFields (output : OutputOf) (fuel : Nat) : List Word → Course (List Raw × List Word)
  | [] => return ([], [])
  | w :: rest => do
    match ← fieldsFor output fuel w with
    | [] => firstFields output fuel rest
    | fields => return (fields, rest)

/-- What is behind `command`. -/
structure Behind where
  /-- All fields behind it so far. -/
  seen : List Raw
  /-- The words that are left. -/
  words : List Word
  /-- The command that is to be carried out, if there is one. -/
  args : Option (List Raw) := none
  isUsual : Bool := false

/-- Look for the command behind `command` and its options. There is none where an option asks for
something else. -/
def behind (output : OutputOf) (b : Behind) (fields : List Raw) : Nat → Course Behind
  | 0 => return b
  | fuel + 1 => do
    let (fields, words) ← if fields.isEmpty then firstFields output fuel b.words
      else pure (fields, b.words)
    let b := { b with seen := b.seen ++ fields.take 1, words }
    let rest := fields.drop 1
    let asks : Course Behind := return { b with seen := b.seen ++ rest }
    match fields.head? with
    | none => return b
    | some ['-', '-'] =>
      let (rest, words) ← if rest.isEmpty then firstFields output fuel b.words
        else pure (rest, b.words)
      return { b with seen := b.seen ++ rest, words, args := if rest.isEmpty then none else rest }
    | some ('-' :: c :: cs) =>
      if (c :: cs).all (· == 'p') then behind output { b with isUsual := true } rest fuel else asks
    | some _ => return { b with seen := b.seen ++ rest, args := fields }

/-- The plan for a command of which some fields are known. -/
def complete (output : OutputOf) (p : Plan) (isFirst : Bool) (words : List Word) :
    Nat → Course Plan
  | 0 => return p
  | fuel + 1 => do
    match p.args with
    | [] => return p
    | name :: fields =>
      let deed := deedOf (← get) name !isFirst
      let p := { p with deed, isSpecial := if isFirst then deed.isSpecial else p.isSpecial }
      let finish (p : Plan) (words : List Word) : Course Plan := do
        let more ← words.mapM (argumentsFor output fuel p.deed.mayAssign)
        return { p with args := p.args ++ more.flatten }
      match deed with
      | .builtin "command" =>
        let b ← behind output { seen := [], words } fields fuel
        let p := { p with isUsual := p.isUsual || b.isUsual }
        match b.args with
        | some args => complete output { p with args } false b.words fuel
        | none => finish { p with args := name :: b.seen } b.words
      | _ => finish p words

/-- The plan for the words of a command. -/
def ofWords (output : OutputOf) (fuel : Nat) (words : List Word) : Course Plan := do
  let (args, words) ← firstFields output fuel words
  complete output { args, deed := .nothing } true words fuel

/-- The folders that a program is looked up in. -/
def folders (p : Plan) (s : State) : List Raw :=
  if p.isUsual then Builtin.colonParts System.searchPath else Builtin.searchFolders s

end Plan

end AgentPulse.Shell
