import AgentPulse.Shell.Course

/-!
# Variables, parameters and options

The builtins that say which variables there are and who gets to see them, what the parameters of the
shell are, and which of its options are switched on.
-/

namespace AgentPulse.Shell.Builtin

/-- Text in quotes, as it can be read again. Single quotes themselves go into double quotes. -/
def quotedFrom (cs : Raw) : Nat → Raw
  | 0 => []
  | fuel + 1 =>
    let plain := cs.takeWhile (· != '\'')
    let quotes := (cs.drop plain.length).takeWhile (· == '\'')
    let rest := cs.drop (plain.length + quotes.length)
    let here := '\'' :: plain ++ '\'' :: if quotes.isEmpty then [] else '"' :: quotes ++ ['"']
    if rest.isEmpty then here else here ++ quotedFrom rest fuel

/-- Text in quotes, as it can be read again. -/
def quoted (cs : Raw) : Raw := quotedFrom cs (cs.length + 1)

/-- Show variables with their values. -/
def showVariables (title : Raw) (which : Variable → Bool) : Course Unit := do
  (← get).values.entries.forM fun e => do
    if which e.2 then
      let lead := if title.isEmpty then [] else title ++ [' ']
      let value := match e.2.value with
        | some v => '=' :: quoted v
        | none => []
      Act.outLine (lead ++ e.1.toList ++ value)

/-- The name in an argument that may be an assignment, and its value. -/
def splitAssignment (arg : Raw) : Raw × Option Raw :=
  let name := arg.takeWhile (· != '=')
  (name, if name.length < arg.length then some (arg.drop (name.length + 1)) else none)

/-- Mark variables, and let them have values that are given as assignments. -/
def mark (title : String) (change : Variable → Variable) (which : Variable → Bool) : Builtin :=
  fun args => do
    let (options, names) ← Course.options [('p', false)] args
    if hasLetter options 'p' || names.isEmpty then showVariables (raw title) which
    else names.forM fun arg => do
      let (name, value) := splitAssignment arg
      match value with
      | some v => Course.assign name v
      | none => if !isName name then Course.fail (name.shown ++ ": bad variable name")
      modify fun s => s.putVariable name (some (change ((s.varOf? name).getD {})))
    return 0

/-- Let programs see variables. -/
def exportAll : Builtin := mark "export" (fun v => { v with isExported := true }) (·.isExported)

/-- Let variables keep their values. -/
def makeConstant : Builtin :=
  mark "readonly" (fun v => { v with isConstant := true }) (·.isConstant)

/-- Take away variables or functions. -/
def unset : Builtin := fun args => do
  let (options, names) ← Course.options [('v', false), ('f', false)] args
  let isFunction := (options.getLast?.map (·.1)) = some 'f'
  names.forM fun name => do
    if isFunction then
      modify fun s => { s with functions := s.functions.erase (String.ofList name) }
    else Course.unassign name
  return 0

/-- Keep the value that a variable has outside of what is carried out. -/
def keepValue (name : Raw) : Act Unit := modify fun s =>
  match s.kept with
  | frame :: outer => { s with kept := (.value name (s.varOf? name) :: frame) :: outer }
  | [] => s

/-- Let variables belong to the function that is carried out. -/
def makeLocal : Builtin := fun args => do
  if (← get).kept.isEmpty then Course.fail "not in a function"
  args.forM fun arg => do
    if arg = ['-'] then
      modify fun s =>
        match s.kept with
        | frame :: outer => { s with kept := (.options s.options :: frame) :: outer }
        | [] => s
    else
      let (name, value) := splitAssignment arg
      if !isName name then Course.fail (name.shown ++ ": bad variable name")
      keepValue name
      match value with
      | some v => Course.assign name v
      | none => pure ()
  return 0

/-- Put back what was kept last. -/
def putBack : Act Unit := modify fun s =>
  match s.kept with
  | frame :: outer =>
    frame.foldl (fun s k =>
      match k with
      | .value name old => s.putVariable name old
      | .options letters => { s with options := letters }) { s with kept := outer }
  | [] => s

/-- Drop parameters from the front. -/
def shift : Builtin := fun args => do
  let n ← match args with
    | a :: _ => Course.count a
    | [] => pure 1
  if (← get).parameters.length < n then Course.fail "can't shift that many"
  modify fun s =>
    { s with parameters := s.parameters.drop n, optionIndex := 1, optionOffset := none }
  return 0

/-! ## Options -/

/-- The options by name, in the order in which they are shown. Some have no letter of their own;
they are kept by a character that is none. -/
def optionNames : List (String × Char) := [
  ("errexit", 'e'), ("noglob", 'f'), ("ignoreeof", 'I'), ("interactive", 'i'), ("monitor", 'm'),
  ("noexec", 'n'), ("stdin", 's'), ("xtrace", 'x'), ("verbose", 'v'), ("vi", 'V'), ("emacs", 'E'),
  ("noclobber", 'C'), ("allexport", 'a'), ("notify", 'b'), ("nounset", 'u'), ("nolog", '\x01'),
  ("debug", '\x02')]

/-- The letters of the options that are switched on. -/
def optionLetters (s : State) : Raw :=
  (optionNames.reverse.map (·.2)).filter fun c => c.isAlpha && s.hasOption c

/-- Switch an option on or off. Of two ways to edit lines only one can be on. -/
def switch (isOn : Bool) (letter : Char) : Act Unit := modify fun s =>
  let rival : Char := if letter = 'V' then 'E' else if letter = 'E' then 'V' else letter
  let others := s.options.filter fun c => c != letter && (c != rival || !isOn)
  { s with options := if isOn then letter :: others else others }

/-- Switch an option on or off by its name, or show all of them. -/
def switchByName (isOn : Bool) (name : Option Raw) : Course Unit := do
  let s ← get
  match name with
  | none =>
    if isOn then
      Act.out (raw "Current option settings\n")
      optionNames.forM fun o => do
        let fill := List.replicate (16 - o.1.length) ' '
        Act.outLine (raw o.1 ++ fill ++ raw (if s.hasOption o.2 then "on" else "off"))
    else
      optionNames.forM fun o =>
        Act.outLine (raw (if s.hasOption o.2 then "set -o " else "set +o ") ++ raw o.1)
  | some name =>
    match optionNames.lookup (String.ofList name) with
    | some c => switch isOn c
    | none => Course.fail ("Illegal option -o " ++ name.shown)

/-- Switch options by their letters. The name of one may be the next argument. -/
def switchLetters (isOn : Bool) (rest : List Raw) : Raw → Course (List Raw)
  | [] => return rest
  | 'o' :: cs => do
    switchByName isOn rest.head?
    switchLetters isOn (rest.drop 1) cs
  | c :: cs => do
    if !(optionNames.any fun o => o.2 == c) then
      Course.fail ("Illegal option -" ++ String.singleton c)
    switch isOn c
    switchLetters isOn rest cs

/-- Switch options at the front of some arguments. What follows them are the new parameters, if
anything does. -/
def setFrom (args : List Raw) : Nat → Course Unit
  | 0 => return
  | fuel + 1 => do
    let parameters (ps : List Raw) : Course Unit := modify fun s =>
      { s with parameters := ps, optionIndex := 1, optionOffset := none }
    match args with
    | [] => return
    | ['-'] :: rest =>
      switch false 'x'
      switch false 'v'
      if !rest.isEmpty then parameters rest
    | ['-', '-'] :: rest => parameters rest
    | (sign :: letters) :: rest =>
      if sign = '-' ∨ sign = '+' then
        let rest ← switchLetters (sign == '-') rest letters
        setFrom rest fuel
      else parameters args
    | args => parameters args

/-- Do without groups of processes: they take a terminal. -/
def dropGroups : Act Unit := do
  let s ← get
  if s.hasOption 'm' && !s.isInner then
    Act.complain "can't access tty; job control turned off"
    switch false 'm'

/-- Show variables, switch options, or change the parameters. -/
def setOptions : Builtin := fun args => do
  if args.isEmpty then showVariables [] fun v => v.value.isSome
  else
    setFrom args (args.length + 1)
    dropGroups
  return 0

/-! ## Options of scripts -/

/-- The variable with the argument of an option. -/
def optionArgument : Raw := raw "OPTARG"

/-- Whether a letter is among those of a script's options, and whether an argument follows. -/
def optionKind? (letter : Char) : Raw → Option Bool
  | [] => none
  | c :: rest =>
    if c = letter then some (rest.head? = some ':')
    else match rest with
      | ':' :: more => optionKind? letter more
      | rest => optionKind? letter rest

/-- Let the place be known that has been reached, and what was found there. -/
def setPlace (name : Raw) (index : Nat) (offset : Option Nat) (found : Char) : Course Unit := do
  Course.assign State.indexName (Text.Decimal.digits index)
  Course.assign name [found]
  modify fun s => { s with optionIndex := index, optionOffset := offset }

/-- The next option of a script: it goes to a variable, and its argument to another. -/
def nextOption (letters name : Raw) (args : List Raw) : Course Nat := do
  let s ← get
  let index := s.optionIndex
  let inside : Raw := match s.optionOffset with
    | some n => if index ≤ 1 then [] else ((args[index - 2]?).getD []).drop n
    | none => []
  -- The letters of the argument that has been reached, and the number of the next argument.
  let (cs, index) : Raw × Nat :=
    if !inside.isEmpty then (inside, index)
    else match args[index - 1]? with
      | some ('-' :: c :: cs) => if c :: cs = ['-'] then ([], index + 1) else (c :: cs, index + 1)
      | _ => ([], index)
  match cs with
  | [] =>
    setPlace name index none '?'
    return 1
  | c :: cs =>
    let isQuiet := letters.head? = some ':'
    let word := (args[index - 2]?).getD []
    let offset (cs : Raw) : Option Nat := some (word.length - cs.length)
    let wrong (found : Char) (message : String) (rest : Raw) : Course Nat := do
      if isQuiet then Course.assign optionArgument [c]
      else
        Act.say (message ++ String.singleton c ++ if found = ':' then " option" else "")
        Course.unassign optionArgument
      setPlace name index (offset rest) (if isQuiet then found else '?')
      return 0
    match optionKind? c (if isQuiet then letters.drop 1 else letters) with
    | none => wrong '?' "Illegal option -" cs
    | some false =>
      Course.assign optionArgument []
      setPlace name index (offset cs) c
      return 0
    | some true =>
      match cs, args[index - 1]? with
      | [], none => wrong ':' "No arg for -" cs
      | [], some value =>
        Course.assign optionArgument value
        setPlace name (index + 1) none c
        return 0
      | cs, _ =>
        Course.assign optionArgument cs
        setPlace name index none c
        return 0

/-- Take the options of a script apart, one each time. -/
def getOptions : Builtin := fun args => do
  let (_, args) ← Course.options [] args
  match args with
  | letters :: name :: args =>
    let s ← get
    let args := if args.isEmpty then s.parameters else args
    if args.length + 1 < s.optionIndex then
      modify fun s => { s with optionIndex := 1, optionOffset := none }
    nextOption letters name args
  | _ => Course.fail "Usage: getopts optstring var [arg]"

end AgentPulse.Shell.Builtin
