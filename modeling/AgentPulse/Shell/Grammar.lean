import AgentPulse.Shell.Token

/-!
# The grammar of scripts

`readLine` reads the commands of one line, which goes on over further lines where a command is not
complete at the end of the first. The reader looks at one token at a time and may put it back.
-/

namespace AgentPulse.Shell

/-- What is left of a script, and a token that has been put back. -/
structure Reader where
  source : Source
  ahead : Option Token := none

/-- Something that is read off a script. -/
abbrev Reading := StateT Reader Read

/-- What counts at the place of the next token: whether line breaks are passed over, whether words
may be keywords, whether they may be aliases, and whether a word is to be taken as it is. -/
structure Place where
  lines : Bool := false
  keywords : Bool := false
  aliases : Bool := false
  isDelimiter : Bool := false

namespace Place

/-- The start of a command, maybe on a later line. -/
def anyLine : Place := { lines := true, keywords := true, aliases := true }

/-- The start of a command on the same line. -/
def sameLine : Place := { keywords := true, aliases := true }

end Place

namespace Reading

/-- The place that has been reached cannot be read. -/
def refuse {α : Type} (message : String) : Reading α := do
  (← get).source.refuse ("Syntax error: " ++ message)

/-- The complaint about a token that does not belong where it stands. -/
def unexpected {α : Type} (t : Token) (wanted : String := "") : Reading α :=
  refuse (t.describe ++ " unexpected" ++
    if wanted.isEmpty then "" else " (expecting " ++ wanted ++ ")")

/-- Put a token back. -/
def back (t : Token) : Reading Unit := modify fun r => { r with ahead := some t }

/-- The line that has been reached. -/
def line : Reading Nat := do return (← get).source.line

/-- Read the texts below that have been asked for. -/
def findTexts (inner : Inner) : Reading Unit := do
  let r ← get
  let source ← readHereTexts inner r.source
  set { r with source }

/-- The next token at a place. An alias is replaced by its text. -/
def nextWithin (inner : Inner) (p : Place) : Nat → Reading Token
  | 0 => refuse "out of memory"
  | fuel + 1 => do
    let r ← get
    let (t, s) ← match r.ahead with
      | some t => pure (t, r.source)
      | none => nextToken inner r.source p.isDelimiter
    set { source := { s with aliasNext := false } : Reader }
    match t with
    | .newline =>
      if p.lines then
        findTexts inner
        nextWithin inner p fuel
      else return t
    | .word w =>
      match w.plainText? with
      | none => return t
      | some text =>
        if p.keywords && keywords.contains (String.ofList text) then
          return .keyword (String.ofList text)
        else match (if p.aliases || s.aliasNext then s.alias? text else none) with
          | none => return t
          | some replacement =>
            if !replacement.isEmpty then
              modify fun r => { r with source := r.source.expandAlias text replacement }
            nextWithin inner { p with aliases := true } fuel
    | t => return t

/-- The next token at a place. -/
def next (inner : Inner) (p : Place := {}) : Reading Token := nextWithin inner p readingFuel

/-- A keyword or an operator as it is named in complaints. -/
def quoted (text : String) : String := "\"" ++ text ++ "\""

/-- The next token has to be a keyword. -/
def wantKeyword (inner : Inner) (text : String) (p : Place := {}) : Reading Unit := do
  let t ← next inner p
  if !t.isKeyword text then unexpected t (quoted text)

/-- The next token has to be an operator. -/
def wantOperator (inner : Inner) (text : String) : Reading Unit := do
  let t ← next inner
  if !t.isOperator text then unexpected t (quoted text)

/-- The redirection to what a word names. -/
def target (inner : Inner) (descriptor : Nat) (asked : Asked) : Reading Redirect := do
  let isDelimiter := asked matches .below _
  let t ← next inner { isDelimiter }
  let .word w := t | unexpected t
  match asked with
  | .named kind => return .toPath descriptor kind w
  | .below dropsTabs =>
    let r ← get
    let (number, source) := r.source.want w.bareText w.hasQuotes dropsTabs
    set { r with source }
    return .toText descriptor number

/-- Redirections, as many as there are. -/
def redirects (inner : Inner) (p : Place) (before : List Redirect) :
    Nat → Reading (List Redirect)
  | 0 => refuse "out of memory"
  | fuel + 1 => do
    let t ← next inner p
    match t with
    | .redirect d asked =>
      let r ← target inner d asked
      redirects inner {} (r :: before) fuel
    | t =>
      back t
      return before.reverse

/-- Words, as many as there are, and the token behind them. -/
def words (inner : Inner) (before : List Word) : Nat → Reading (List Word × Token)
  | 0 => refuse "out of memory"
  | fuel + 1 => do
    let t ← next inner
    match t with
    | .word w => words inner (w :: before) fuel
    | t => return (before.reverse, t)

/-- Patterns of an arm, given the first token of the next one. -/
def patterns (inner : Inner) (t : Token) (before : List Word) : Nat → Reading (List Word)
  | 0 => refuse "out of memory"
  | fuel + 1 => do
    let w := match t with
      | .word w => w
      | .keyword k => k.toList.map Part.plain
      | _ => []
    let behind ← next inner
    match behind with
    | .operator "|" =>
      let t ← next inner
      patterns inner t (w :: before) fuel
    | .operator ")" => return (w :: before).reverse
    | behind => unexpected behind (quoted ")")

/-- The command that a list of commands makes up. -/
def block (list : Reading (Command × Bool)) : Reading Command := do return (← list).1

end Reading

/-- How far a list of commands goes: to the end of a line, or to a token that ends it; then there
has to be a command in it or not. -/
inductive Extent where
  | line
  | block
  | maybeEmpty
  deriving DecidableEq, Repr

/-- Put a command behind another. -/
def Command.followedBy : Command → Command → Command
  | .nothing, c => c
  | c, .nothing => c
  | a, b => .sequence a b

/-- All parameters in quotes, as one word. -/
def allParametersWord : Word := [.quoted [], .parameter ['@'] .value [] true]

/-- The words whose failure ends the shell. -/
def specialBuiltins : List String :=
  [":", ".", "break", "continue", "eval", "exec", "exit", "export", "local", "readonly", "return",
    "set", "shift", "times", "trap", "unset"]

mutual
/-- How scripts inside words are read. -/
def innerOf (fuel : Nat) : Inner :=
  match fuel with
  | 0 =>
    { enclosed := fun s => s.refuse "out of memory"
      whole := fun s => s.refuse "out of memory" }
  | fuel + 1 =>
    { enclosed := fun s => do
        let ((c, _), r) ← (readList fuel .maybeEmpty true .nothing).run { source := s }
        let (_, r) ← (Reading.wantOperator (innerOf fuel) ")").run r
        return (c, r.source)
      whole := fun s => do
        let ((c, _), r) ← (readList fuel .maybeEmpty true .nothing).run { source := s }
        return (c, r.source) }

/-- A list of commands behind those read so far, and whether the script ends with it. -/
def readList (fuel : Nat) (extent : Extent) (isFirst : Bool) (before : Command) :
    Reading (Command × Bool) :=
  match fuel with
  | 0 => Reading.refuse "out of memory"
  | fuel + 1 => do
    let inner := innerOf fuel
    let t ← Reading.next inner { Place.anyLine with lines := extent != .line }
    match t with
    | .newline =>
      Reading.findTexts inner
      return (before, false)
    | .done =>
      Reading.findTexts inner
      Reading.back t
      return (before, true)
    | t =>
      Reading.back t
      let mayEnd := extent = .maybeEmpty ∨ (extent = .block ∧ !isFirst)
      if mayEnd ∧ t.endsList then return (before, false)
      let line ← Reading.line
      let c ← readAndOr fuel
      let t ← Reading.next inner
      let c := if t.isOperator "&" then .background line c else c
      let before := before.followedBy c
      match t with
      | .newline | .done =>
        Reading.back t
        readList fuel extent false before
      | .operator "&" | .operator ";" => readList fuel extent false before
      | t =>
        if extent = .line then Reading.unexpected t
        else
          Reading.back t
          return (before, false)

/-- Pipelines joined by `&&` and `||`. -/
def readAndOr (fuel : Nat) : Reading Command :=
  match fuel with
  | 0 => Reading.refuse "out of memory"
  | fuel + 1 => do
    let c ← readPipeline fuel {}
    readMoreAndOr fuel c

/-- What is joined to a command by `&&` and `||`. -/
def readMoreAndOr (fuel : Nat) (first : Command) : Reading Command :=
  match fuel with
  | 0 => Reading.refuse "out of memory"
  | fuel + 1 => do
    let t ← Reading.next (innerOf fuel)
    match t with
    | .operator "&&" =>
      let c ← readPipeline fuel Place.anyLine
      readMoreAndOr fuel (.andThen first c)
    | .operator "||" =>
      let c ← readPipeline fuel Place.anyLine
      readMoreAndOr fuel (.orElse first c)
    | t =>
      Reading.back t
      return first

/-- Commands joined by `|`. -/
def readPipeline (fuel : Nat) (p : Place) : Reading Command :=
  match fuel with
  | 0 => Reading.refuse "out of memory"
  | fuel + 1 => do
    let t ← Reading.next (innerOf fuel) p
    if t.isKeyword "!" then
      let c ← readStages fuel Place.sameLine []
      return .negation c
    else
      Reading.back t
      readStages fuel {} []

/-- The stages of a pipeline behind those read so far, the last one first. -/
def readStages (fuel : Nat) (p : Place) (before : List Command) : Reading Command :=
  match fuel with
  | 0 => Reading.refuse "out of memory"
  | fuel + 1 => do
    let c ← readCommand fuel p
    let t ← Reading.next (innerOf fuel)
    if t.isOperator "|" then readStages fuel Place.anyLine (c :: before)
    else
      Reading.back t
      match before with
      | [] => return c
      | before => return .pipeline (c :: before).reverse

/-- One command. -/
def readCommand (fuel : Nat) (p : Place) : Reading Command :=
  match fuel with
  | 0 => Reading.refuse "out of memory"
  | fuel + 1 => do
    let inner := innerOf fuel
    let line ← Reading.line
    let t ← Reading.next inner p
    let behind (c : Command) : Reading Command := do
      let rs ← Reading.redirects inner Place.sameLine [] fuel
      if rs.isEmpty then return c else return .redirected line c rs
    match t with
    | .keyword "if" =>
      let c ← readBranch fuel
      behind c
    | .keyword "while" =>
      let c ← readRepeat fuel true
      behind c
    | .keyword "until" =>
      let c ← readRepeat fuel false
      behind c
    | .keyword "for" =>
      let c ← readFor fuel line
      behind c
    | .keyword "case" =>
      let c ← readCase fuel line
      behind c
    | .keyword "\x7b" =>
      let c ← Reading.block (readList fuel .block true .nothing)
      Reading.wantKeyword inner "\x7d"
      behind c
    | .operator "(" =>
      let c ← Reading.block (readList fuel .block true .nothing)
      Reading.wantOperator inner ")"
      let rs ← Reading.redirects inner Place.sameLine [] fuel
      return .subshell line c rs
    | .word _ | .redirect _ _ =>
      Reading.back t
      let line ← Reading.line
      readSimple fuel line [] [] []
    | t => Reading.unexpected t

/-- A choice, from behind its first keyword. -/
def readBranch (fuel : Nat) : Reading Command :=
  match fuel with
  | 0 => Reading.refuse "out of memory"
  | fuel + 1 => do
    let inner := innerOf fuel
    let condition ← Reading.block (readList fuel .block true .nothing)
    Reading.wantKeyword inner "then"
    let whenTrue ← Reading.block (readList fuel .block true .nothing)
    let t ← Reading.next inner
    match t with
    | .keyword "elif" =>
      let other ← readBranch fuel
      return .branch condition whenTrue other
    | .keyword "else" =>
      let other ← Reading.block (readList fuel .block true .nothing)
      Reading.wantKeyword inner "fi"
      return .branch condition whenTrue other
    | .keyword "fi" => return .branch condition whenTrue .nothing
    | t => Reading.unexpected t (Reading.quoted "fi")

/-- A loop with a condition, from behind its first keyword. -/
def readRepeat (fuel : Nat) (onSuccess : Bool) : Reading Command :=
  match fuel with
  | 0 => Reading.refuse "out of memory"
  | fuel + 1 => do
    let inner := innerOf fuel
    let condition ← Reading.block (readList fuel .block true .nothing)
    Reading.wantKeyword inner "do"
    let body ← Reading.block (readList fuel .block true .nothing)
    Reading.wantKeyword inner "done"
    return .repeats onSuccess condition body

/-- A loop over words, from behind its first keyword. -/
def readFor (fuel : Nat) (line : Nat) : Reading Command :=
  match fuel with
  | 0 => Reading.refuse "out of memory"
  | fuel + 1 => do
    let inner := innerOf fuel
    let t ← Reading.next inner
    let name := match t with
      | .word w => w.plainText?.filter isName
      | _ => none
    match name with
    | none => Reading.refuse "Bad for loop variable"
    | some name =>
      let t ← Reading.next inner Place.anyLine
      let words ← if t.isKeyword "in" then do
          let (ws, t) ← Reading.words inner [] fuel
          match t with
          | .newline | .operator ";" => pure ws
          | t => Reading.unexpected t
        else do
          if !t.isOperator ";" then Reading.back t
          pure [allParametersWord]
      Reading.wantKeyword inner "do" Place.anyLine
      let body ← Reading.block (readList fuel .block true .nothing)
      Reading.wantKeyword inner "done"
      return .forEach line name words body

/-- A choice by patterns, from behind its first keyword. -/
def readCase (fuel : Nat) (line : Nat) : Reading Command :=
  match fuel with
  | 0 => Reading.refuse "out of memory"
  | fuel + 1 => do
    let inner := innerOf fuel
    let t ← Reading.next inner
    let .word subject := t | Reading.unexpected t "word"
    Reading.wantKeyword inner "in" Place.anyLine
    let arms ← readArms fuel []
    return .select line subject arms

/-- The arms of a choice by patterns behind those read so far, the last one first, and the keyword
behind them. -/
def readArms (fuel : Nat) (before : List (List Word × Command)) :
    Reading (List (List Word × Command)) :=
  match fuel with
  | 0 => Reading.refuse "out of memory"
  | fuel + 1 => do
    let inner := innerOf fuel
    let t ← Reading.next inner { lines := true, keywords := true }
    if t.isKeyword "esac" then return before.reverse
    let t ← if t.isOperator "(" then Reading.next inner else pure t
    let patterns ← Reading.patterns inner t [] fuel
    let body ← Reading.block (readList fuel .maybeEmpty true .nothing)
    let before := (patterns, body) :: before
    let t ← Reading.next inner { lines := true, keywords := true }
    if t.isOperator ";;" then readArms fuel before
    else if t.isKeyword "esac" then return before.reverse
    else Reading.unexpected t (Reading.quoted ";;")

/-- A command of assignments, words and redirections, given those read so far, the last one
first. -/
def readSimple (fuel : Nat) (line : Nat) (assignments : List (Raw × Word)) (words : List Word)
    (redirects : List Redirect) : Reading Command :=
  match fuel with
  | 0 => Reading.refuse "out of memory"
  | fuel + 1 => do
    let inner := innerOf fuel
    let t ← Reading.next inner { aliases := words.isEmpty }
    match t, words with
    | .word w, [] =>
      match w.assignment? with
      | some a => readSimple fuel line (a :: assignments) [] redirects
      | none => readSimple fuel line assignments [w] redirects
    | .word w, words => readSimple fuel line assignments (w :: words) redirects
    | .redirect d asked, words =>
      let r ← Reading.target inner d asked
      readSimple fuel line assignments words (r :: redirects)
    | t, words =>
      match t.isOperator "(" && assignments.isEmpty && redirects.isEmpty, words with
      | true, [w] =>
        Reading.wantOperator inner ")"
        match w.plainText?.filter isName with
        | none => Reading.refuse "Bad function name"
        | some name =>
          if specialBuiltins.contains (String.ofList name) then
            Reading.refuse "Bad function name"
          else
            let body ← readCommand fuel Place.anyLine
            return .define name body
      | _, _ =>
        Reading.back t
        return .simple line assignments.reverse words.reverse redirects.reverse
end

/-- The commands of a line, and what is left behind it. -/
structure Line where
  command : Command
  /-- Whether the script ended where the line did, without a line break. -/
  isEnd : Bool
  rest : Source

/-- Read a line. -/
def readLine (s : Source) : Read Line := do
  let ((command, isEnd), r) ← (readList readingFuel .line true .nothing).run { source := s }
  return { command, isEnd, rest := r.source }

end AgentPulse.Shell
