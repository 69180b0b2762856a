import AgentPulse.Shell.Source

/-!
# The spelling of words

How the characters of a script make up words: quotes, expansions, and the texts that stand below a
command. A word may hold whole scripts; how those are read is given as an `Inner`, because the
grammar of commands is built upon the spelling of words.
-/

namespace AgentPulse.Shell

/-- How the scripts inside words are read. -/
structure Inner where
  /-- The commands up to a closing parenthesis, from behind the opening one. -/
  enclosed : Source → Read (Command × Source)
  /-- The commands of a text by itself. -/
  whole : Source → Read (Command × Source)

/-- What ends the parts that are being read. -/
inductive Closing where
  /-- A blank or an operator, which is left where it is. -/
  | wordEnd
  | doubleQuote
  /-- A brace, unless it is in quotes that opened inside. -/
  | brace (isQuoted : Bool)
  /-- Two parentheses behind as many closing ones as were opened. -/
  | parentheses (opened : Nat)
  /-- A line that the text asked for ends with. -/
  | delimiter (text : HereText)
  deriving Repr, Inhabited

/-- Where parts of a word are read. -/
structure Setting where
  closing : Closing
  /-- Whether text counts as if in double quotes. -/
  isDouble : Bool := false
  /-- Whether it is in a text below a command. -/
  inHere : Bool := false
  /-- Whether nothing is to be expanded. -/
  isLiteral : Bool := false
  deriving Repr, Inhabited

/-- Whether a word without quotes ends before a character. -/
def endsWord (c : Char) : Bool :=
  c == ' ' || c == '\t' || c == '\n' || c == '&' || c == '|' || c == ';' || c == '(' || c == ')'
    || c == '<' || c == '>'

/-- Whether a parameter may have a name of one special character. -/
def isSpecialParameter (c : Char) : Bool :=
  c.isDigit || c == '@' || c == '*' || c == '#' || c == '?' || c == '-' || c == '$' || c == '!'

namespace Setting

/-- A character that stands for itself. -/
def bare (m : Setting) (c : Char) : Part := if m.isDouble then .quoted [c] else .plain c

/-- Whether it is inside braces. -/
def inBraces (m : Setting) : Bool := m.closing matches .brace _

/-- Whether a backslash keeps its meaning as a character before another one. -/
def keepsBackslash (m : Setting) (c : Char) : Bool :=
  m.isDouble && !(c == '\\' || c == '`' || c == '$'
    || (c == '"' && (!m.inHere || m.inBraces)) || (c == '}' && m.inBraces))

/-- The complaint about a script that ends before the parts do. -/
def complaint? (m : Setting) : Option String :=
  match m.closing with
  | .wordEnd | .delimiter _ => none
  | .doubleQuote => some "Syntax error: Unterminated quoted string"
  | .brace _ =>
    some (if m.isDouble && !m.inHere then "Syntax error: Unterminated quoted string"
      else "Syntax error: Missing '\x7d'")
  | .parentheses _ => some "Syntax error: Missing '))'"

end Setting

namespace Source

/-- The text up to a single quote and what is left behind that. Nothing is special in it. -/
def toQuote? (s : Source) : Nat → Option (Raw × Source)
  | 0 => none
  | fuel + 1 => do
    let (c, t) ← s.next?
    if c = '\'' then return ([], t)
    else
      let (cs, t) ← t.toQuote? fuel
      return (c :: cs, t)

/-- The text up to a back quote and what is left behind that. A backslash protects the characters
that are special inside. -/
def toBackquote? (s : Source) (isDouble : Bool) : Nat → Option (Raw × Source)
  | 0 => none
  | fuel + 1 => do
    let (c, t) ← s.nextJoined?
    if c = '`' then return ([], t)
    else if c = '\\' then
      let (d, t) ← t.next?
      let (cs, t) ← t.toBackquote? isDouble fuel
      if d = '\\' ∨ d = '`' ∨ d = '$' ∨ (isDouble ∧ d = '"') then return (d :: cs, t)
      else return ('\\' :: d :: cs, t)
    else
      let (cs, t) ← t.toBackquote? isDouble fuel
      return (c :: cs, t)

/-- What is left behind a text that comes next, if it does. -/
def passText? (s : Source) : Raw → Option Source
  | [] => some s
  | c :: cs => do
    let (d, t) ← s.next?
    if d = c then t.passText? cs else none

/-- The start of a line of a text below a command: what is left behind the line if it is the last
one, else behind the tabs that do not belong to the text. -/
def startLine (s : Source) (text : HereText) : Source × Bool :=
  let s := if text.dropsTabs then (s.spanWhile (· == '\t')).2 else s
  match s.passText? text.delimiter with
  | none => (s, false)
  | some t =>
    match t.next? with
    | none => (t, true)
    | some ('\n', t) => (t, true)
    | some _ => (s, false)

/-- A text below a command in which nothing is special. -/
def plainText (s : Source) (text : HereText) (isStart : Bool) : Nat → Raw × Source
  | 0 => ([], s)
  | fuel + 1 =>
    let (s, isOver) := if isStart then s.startLine text else (s, false)
    if isOver then ([], s)
    else match s.next? with
      | none => ([], s)
      | some (c, t) =>
        let (cs, t) := t.plainText text (c == '\n') fuel
        (c :: cs, t)

end Source

/-- The operation that a character asks for, if it is one that looks whether there is a value. -/
def choice? (c : Char) (emptyToo : Bool) : Option Operation :=
  match c with
  | '-' => some (.orElse emptyToo)
  | '=' => some (.orAssign emptyToo)
  | '?' => some (.orFail emptyToo)
  | '+' => some (.instead emptyToo)
  | _ => none

/-- The operation on a parameter in braces, from behind its name. -/
def readOperation (s : Source) : Operation × Source :=
  match s.nextJoined? with
  | none => (.unknown, s)
  | some (c, t) =>
    match c with
    | '}' => (.value, s)
    | ':' =>
      match t.nextJoined? with
      | some (d, u) => ((choice? d true).getD .unknown, u)
      | none => (.unknown, t)
    | '%' =>
      match t.pass? '%' with
      | some u => (.trimEnd true, u)
      | none => (.trimEnd false, t)
    | '#' =>
      match t.pass? '#' with
      | some u => (.trimStart true, u)
      | none => (.trimStart false, t)
    | c => ((choice? c false).getD .unknown, t)

/-- The name of a parameter in braces and the operation on it. -/
def readParameter (s : Source) : Raw × Operation × Source :=
  let named (s : Source) (c : Char) : Raw × Source :=
    if isNameStart c then s.spanWhile isNameChar else s.spanWhile Char.isDigit
  let operated (r : Raw × Source) : Raw × Operation × Source := (r.1, readOperation r.2)
  match s.nextJoined? with
  | none => ([], .unknown, s)
  | some ('#', t) =>
    match t.nextJoined? with
    | none => (['#'], .unknown, t)
    | some (d, u) =>
      if isNameStart d || d.isDigit then
        let (name, v) := named t d
        (name, if v.peek? = some '}' then .length else .unknown, v)
      else if d ≠ '}' ∧ u.peek? = some '}' then
        ([d], if isSpecialParameter d then .length else .unknown, u)
      else operated (['#'], t)
  | some (c, t) =>
    if isNameStart c || c.isDigit then operated (named s c)
    else if isSpecialParameter c then operated ([c], t)
    else ([], .unknown, s)

mutual
/-- The parts up to what closes them, and what is left behind that. `before` are the parts so far,
the last one first. -/
def readParts (inner : Inner) (fuel : Nat) (m : Setting) (before : Word) (s : Source) :
    Read (Word × Source) :=
  match fuel with
  | 0 => s.refuse "Syntax error: out of memory"
  | fuel + 1 =>
    let more (p : Part) (s : Source) := readParts inner fuel m (p :: before) s
    let quoted (c : Char) (s : Source) := more (.quoted [c]) s
    let bare (c : Char) (s : Source) := more (m.bare c) s
    let finished (s : Source) : Read (Word × Source) := .ok (before.reverse, s)
    let turn (closing : Closing) (parts : Word) (s : Source) : Read (Word × Source) :=
      readParts inner fuel { m with closing } (parts ++ before) s
    match s.nextJoined? with
    | none =>
      match m.complaint? with
      | some message => s.refuse message
      | none => finished s
    | some ('\\', t) =>
      match t.next? with
      | none => quoted '\\' t
      | some (c, u) => more (.quoted (if m.keepsBackslash c then ['\\', c] else [c])) u
    | some ('$', t) => do
      let (p, u) ← readDollar inner fuel m t
      more p u
    | some ('`', t) =>
      if m.isLiteral then bare '`' t
      else match t.toBackquote? m.isDouble (t.rest.length + 1) with
        | none => s.refuse "Syntax error: EOF in backquote substitution"
        | some (text, t) => do
          let (c, u) ← inner.whole { t with rest := text, line := 1, wanted := [] }
          more (.output c m.isDouble) { t with texts := u.texts }
    | some ('\'', t) =>
      if m.isDouble then quoted '\'' t
      else match t.toQuote? (t.rest.length + 1) with
        | some (text, u) => more (.quoted text) u
        | none =>
          .error ⟨s.line + s.rest.count '\n', "Syntax error: Unterminated quoted string"⟩
    | some ('"', t) =>
      match m.closing with
      | .doubleQuote => finished t
      | .brace isQuoted =>
        if m.isDouble then turn (.brace !isQuoted) [] t else readQuoted inner fuel m before t
      | .wordEnd => readQuoted inner fuel m before t
      | .parentheses _ | .delimiter _ => quoted '"' t
    | some (c, t) =>
      match m.closing with
      | .wordEnd => if endsWord c then finished s else bare c t
      | .doubleQuote => quoted c t
      | .brace isQuoted => if c = '}' ∧ !isQuoted then finished t else bare c t
      | .delimiter text =>
        if c = '\n' then
          let (u, isOver) := t.startLine text
          if isOver then .ok ((Part.quoted [c] :: before).reverse, u) else quoted c u
        else quoted c t
      | .parentheses opened =>
        if c = '(' then turn (.parentheses (opened + 1)) [.quoted [c]] t
        else if c ≠ ')' then quoted c t
        else match opened, t.pass? ')' with
          | opened + 1, _ => turn (.parentheses opened) [.quoted [c]] t
          | 0, some u => finished u
          | 0, none => quoted c t

/-- Parts in double quotes, from behind the first quote, inside other parts. -/
def readQuoted (inner : Inner) (fuel : Nat) (m : Setting) (before : Word) (s : Source) :
    Read (Word × Source) :=
  match fuel with
  | 0 => s.refuse "Syntax error: out of memory"
  | fuel + 1 => do
    let (w, t) ← readParts inner fuel { m with closing := .doubleQuote, isDouble := true } [] s
    readParts inner fuel m (w.reverse ++ .quoted [] :: before) t

/-- The part that a dollar sign starts, from behind that sign. -/
def readDollar (inner : Inner) (fuel : Nat) (m : Setting) (s : Source) : Read (Part × Source) :=
  match fuel with
  | 0 => s.refuse "Syntax error: out of memory"
  | fuel + 1 =>
    match s.nextJoined? with
    | none => .ok (m.bare '$', s)
    | some (c, t) =>
      if m.isLiteral then .ok (m.bare '$', s)
      else if c = '(' then
        match t.pass? '(' with
        | some u => do
          let setting : Setting := { m with closing := .parentheses 0, isDouble := true }
          let (w, v) ← readParts inner fuel setting [] u
          return (.arithmetic w m.isDouble, v)
        | none => do
          let (body, u) ← inner.enclosed { t with wanted := [] }
          return (.output body m.isDouble, { u with wanted := t.wanted })
      else if c = '{' then readBraced inner fuel m t
      else if isNameStart c then
        let (name, u) := s.spanWhile isNameChar
        .ok (.parameter name .value [] m.isDouble, u)
      else if isSpecialParameter c then .ok (.parameter [c] .value [] m.isDouble, t)
      else .ok (m.bare '$', s)

/-- A parameter in braces, from behind the opening one. In patterns for a start or an end of a value
quotes count even where the whole is in quotes. -/
def readBraced (inner : Inner) (fuel : Nat) (m : Setting) (s : Source) : Read (Part × Source) :=
  match fuel with
  | 0 => s.refuse "Syntax error: out of memory"
  | fuel + 1 => do
    let (name, operation, t) := readParameter s
    let isPattern := match operation with
      | .trimStart _ | .trimEnd _ => true
      | _ => false
    let setting := { m with closing := .brace false, isDouble := m.isDouble && !isPattern }
    let (operand, u) ← readParts inner fuel setting [] t
    return (.parameter name operation operand m.isDouble, u)
end

/-- More than a script needs. -/
def readingFuel : Nat := 1 <<< 24

/-- A word, and what is left behind it. -/
def readWord (inner : Inner) (s : Source) (isLiteral : Bool := false) : Read (Word × Source) :=
  readParts inner readingFuel { closing := .wordEnd, isLiteral } [] s

/-- A text that stands below a command, from the start of its first line. -/
def readHereText (inner : Inner) (s : Source) (text : HereText) : Read Source := do
  if text.isPlain then
    let (cs, t) := s.plainText text true (s.rest.length + 1)
    return t.keep text.number (Word.ofText cs)
  else
    let (s, isOver) := s.startLine text
    if isOver then return s
    else
      let setting : Setting := { closing := .delimiter text, isDouble := true, inHere := true }
      let (w, t) ← readParts inner readingFuel setting [] s
      return t.keep text.number w

/-- All texts that have been asked for, from the start of the line below. -/
def readHereTexts (inner : Inner) (s : Source) : Read Source :=
  s.wanted.foldlM (fun s text => readHereText inner s text) { s with wanted := [] }

end AgentPulse.Shell
