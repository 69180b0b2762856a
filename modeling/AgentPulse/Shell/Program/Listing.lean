import AgentPulse.Shell.Pattern
import AgentPulse.Shell.Permission
import AgentPulse.Shell.Program.Columns
import AgentPulse.Shell.Program.Folders

/-!
# Programs that list files

Programs that say which files there are and what is known about them.
-/

namespace AgentPulse.Shell.Program

/-! ## What is known about an entry -/

/-- An entry that is listed: the name under which it is shown, its place, and what it is. -/
structure Listed where
  name : Raw
  place : Files.Place
  entry : Files.Entry

namespace Listed

/-- The permissions of an entry. -/
def mode (s : State) (l : Listed) : Files.Mode :=
  match l.entry with
  | .file id => (s.tree.file id).mode
  | .folder mode => mode
  | .link _ => 0o777

/-- The size of an entry. -/
def size (s : State) (l : Listed) : Nat :=
  match l.entry with
  | .file id => if (System.deviceAt? l.place).isSome then 0 else (s.tree.content id).length
  | .folder _ => 4096
  | .link target => target.length

/-- When an entry was changed. -/
def time (s : State) (l : Listed) : Nat :=
  match l.entry with
  | .file id => (s.tree.file id).time
  | _ => s.tree.now

/-- When an entry was changed, in seconds. -/
def seconds (s : State) (l : Listed) : Int := l.time s / 1000

/-- Half a year in seconds. -/
def recent : Int := 15778476

/-- When an entry was changed, as text: with the time of day if that is not long ago. -/
def timeText (s : State) (l : Listed) : Raw :=
  let age : Int := s.tree.now / 1000 - l.seconds s
  let isRecent := 0 ≤ age ∧ age < recent
  (Text.Moment.ofSeconds (l.seconds s)).formatted
    (if isRecent then raw "%b %e %H:%M" else raw "%b %e  %Y")

/-- How many names an entry has. A folder has one more in itself and in each folder inside. -/
def names (s : State) (l : Listed) : Nat :=
  match l.entry with
  | .file id => s.tree.nameCount id
  | .folder _ => 2 + (s.tree.children l.place).countP fun e => e.2.isFolder
  | .link _ => 1

/-- The letter of the kind of an entry. -/
def kind (l : Listed) : Char :=
  match l.entry with
  | .file _ => if (System.deviceAt? l.place).isSome then 'c' else '-'
  | .folder _ => 'd'
  | .link _ => 'l'

/-- The number of an entry. -/
def number (s : State) (l : Listed) : Nat :=
  match l.entry with
  | .file id => 100000 + id
  | _ => 200000 + ((s.tree.entries.findIdx? fun e => e.1 == l.place).getD 0)

/-- How many blocks of 512 bytes an entry takes. -/
def blocks (s : State) (l : Listed) : Nat :=
  match l.entry with
  | .file _ => (l.size s + 4095) / 4096 * 8
  | .folder _ => 8
  | .link _ => 0

/-- The mark behind a name that shows what it is. -/
def mark (s : State) (isFull : Bool) (l : Listed) : Raw :=
  match l.entry with
  | .folder _ => ['/']
  | .link _ => if isFull then ['@'] else []
  | .file _ => if isFull && l.mode s &&& 0o111 != 0 then ['*'] else []

/-- The permissions of an entry in letters. -/
def letters (s : State) (l : Listed) : Raw :=
  let mode := l.mode s
  let ls := Permission.letters mode
  let ls := if mode &&& 0o1000 ≠ 0 then
      ls.dropLast ++ [if mode &&& 1 ≠ 0 then 't' else 'T'] else ls
  l.kind :: ls

end Listed

/-! ## Listing folders -/

/-- A size with a letter for its factor. -/
def humanSize (n : Nat) : Raw :=
  let units : List (Char × Nat) := [('G', 1073741824), ('M', 1048576), ('K', 1024)]
  match units.find? fun u => u.2 ≤ n with
  | none => Text.Decimal.digits n
  | some (letter, unit) =>
    let tenths := (n * 10 + unit - 1) / unit
    if tenths < 100 then pointedTenths tenths ++ [letter]
    else Text.Decimal.digits ((n + unit - 1) / unit) ++ [letter]
where
  /-- A number of tenths with a point. -/
  pointedTenths (n : Nat) : Raw :=
    Text.Decimal.digits (n / 10) ++ '.' :: Text.Decimal.digits (n % 10)

/-- A name with escapes for what cannot be shown, and for the given mark, which has a meaning where
the name stands. -/
def escapedName (mark : Char) (name : Raw) : Raw :=
  name.flatMap fun c =>
    if c = mark || c = '\\' then ['\\', c]
    else if c < ' ' ∨ '~' < c then
      match "\x07a\x08b\tt\nn\x0bv\x0cf\rr".toList.dropWhile (· != c) with
      | _ :: letter :: _ => ['\\', letter]
      | _ =>
        let ds := Nat.toDigits 8 c.toNat
        '\\' :: List.replicate (3 - ds.length) '0' ++ ds
    else [c]

/-- The rows for some entries. -/
def listingRows (a : Arguments) (s : State) (all : List Listed) : List Raw :=
  let digits (n : Nat) : Raw := Text.Decimal.digits n
  let sized (n : Nat) : Raw := if a.has 'h' then humanSize n else digits n
  let widest (f : Listed → Raw) : Nat := all.foldl (fun n l => max n (f l).length) 0
  let padded (w : Nat) (cs : Raw) : Raw := List.replicate (w - cs.length) ' ' ++ cs
  let spelled (name : Raw) : Raw :=
    match a.last? ['Q', 'b', 'N'] with
    | some 'Q' => '"' :: escapedName '"' name ++ ['"']
    | some 'b' => escapedName ' ' name
    | _ => name
  let lead (isEven : Bool) (f : Listed → Raw) (l : Listed) : Raw :=
    padded (if isEven then widest f else 0) (f l) ++ [' ']
  let layout := a.last? ['m', '1', 'C', 'x', 'l', 'g', 'o', 'n']
  let isEven := layout != some 'm'
  let shown (l : Listed) : Raw :=
    (if a.has 'i' then lead isEven (fun l => digits (l.number s)) l else []) ++
      (if a.has 's' then
        lead isEven (fun l => if a.has 'h' then humanSize (l.blocks s * 512)
          else digits (l.blocks s / 2)) l else []) ++
      spelled l.name ++
      (if a.has 'F' then l.mark s true else if a.has 'p' then l.mark s false else [])
  let isLong := a.has 'l' || a.has 'g' || a.has 'o' || a.has 'n'
  if !isLong then
    let names := all.map shown
    match layout with
    | some 'm' => if names.isEmpty then [] else [Columns.withCommas names]
    | some 'C' => Columns.down names
    | some 'x' => Columns.across names
    | _ => names
  else
    let sizeText (l : Listed) : Raw := sized (l.size s)
    let number (l : Listed) : Raw :=
      (if a.has 'i' then lead true (fun l => digits (l.number s)) l else []) ++
        (if a.has 's' then
          lead true (fun l => if a.has 'h' then humanSize (l.blocks s * 512)
            else digits (l.blocks s / 2)) l else [])
    let countWidth := widest fun l => digits (l.names s)
    let sizeWidth := widest sizeText
    all.map fun l =>
      let owner : Raw := if a.has 'g' then [] else raw (if a.has 'n' then "0 " else "root ")
      let group : Raw := if a.has 'o' then [] else raw (if a.has 'n' then "0 " else "root ")
      let target : Raw := match l.entry with
        | .link t => raw " -> " ++ Raw.ofBytes t
        | _ => []
      number l ++ l.letters s ++ ' ' :: padded countWidth (digits (l.names s)) ++ ' ' :: owner ++
        group ++ padded sizeWidth (sizeText l) ++ ' ' :: l.timeText s ++ ' ' :: shown l ++ target

/-- Put entries in the order that is asked for. -/
def listingOrder (a : Arguments) (s : State) (all : List Listed) : List Listed :=
  if a.has 'U' || a.has 'f' then all
  else
    let byName := all.mergeSort fun x y => x.name.le y.name
    let ordered := match a.last? ['t', 'S', 'X'] with
      | some 't' => byName.mergeSort fun x y => decide (y.time s ≤ x.time s)
      | some 'S' => byName.mergeSort fun x y => decide (y.size s ≤ x.size s)
      | _ => byName
    if a.has 'r' then ordered.reverse else ordered

/-- The entries of a folder that are to be listed. -/
def listedIn (a : Arguments) (s : State) (place : Files.Place) : List Listed :=
  let all := (s.tree.children place).map fun e =>
    ({ name := Raw.ofBytes e.1, place := place ++ [e.1], entry := e.2 } : Listed)
  let isAll := a.has 'a' || a.has 'f'
  let own : List Listed :=
    if isAll then
      let folder (p : Files.Place) : Files.Entry := (s.tree.find? p).getD (.folder 0o755)
      [⟨['.'], place, folder place⟩, ⟨['.', '.'], place.dropLast, folder place.dropLast⟩]
    else []
  let visible := all.filter fun l => isAll || a.has 'A' || l.name.head? != some '.'
  listingOrder a s (own ++ visible)

/-- List a folder, and those inside it where that is asked for. -/
def listFolder (a : Arguments) (title : Option Raw) (isFirst : Bool) (path : Raw)
    (place : Files.Place) : Nat → Act Unit
  | 0 => return
  | fuel + 1 => do
    let s ← get
    let all := listedIn a s place
    let gap : Raw := if isFirst then [] else ['\n']
    match title with
    | some t => Act.out (gap ++ t ++ [':', '\n'])
    | none => pure ()
    if a.has 'l' || a.has 's' then
      let blocks := all.foldl (fun n l => n + l.blocks s) 0
      Act.outLine (raw ("total " ++ Text.Decimal.ofNat (blocks / 2)))
    Act.out (unlines (listingRows a s all))
    if a.has 'R' then
      all.forM fun l => do
        if l.entry.isFolder && l.name != ['.'] && l.name != ['.', '.'] then
          let inner := below path l.name
          listFolder a (some inner) false inner l.place fuel

/-- List folders and files by name. -/
def ls (args : List Raw) : Act Nat :=
  let names := [("all", 'a'), ("almost-all", 'A'), ("directory", 'd'), ("recursive", 'R'),
    ("reverse", 'r'), ("classify", 'F'), ("human-readable", 'h'), ("inode", 'i'),
    ("size", 's'), ("dereference", 'L'), ("numeric-uid-gid", 'n'), ("no-group", 'o')]
  let flags := Flags.of "1aAbBcCdfFgGhHiklLmnNopqQrRsStuUvxXZ" names
  let args := args.filter fun arg => !(raw "--color").isPrefixOf arg
  workingOr 2 "ls" flags args fun a => do
    let paths := if a.operands.isEmpty then [['.']] else a.operands
    let s ← get
    let isLong := a.has 'l' || a.has 'd' || a.has 'F'
    let goal : Files.Goal := if isLong && !a.has 'L' && !a.has 'H' then .atLink else {}
    let look (path : Raw) : Except Files.Fault (Files.Place × Files.Entry) :=
      match Files.entryAt s.tree s.folder path.toBytes goal with
      | .error .missing => Files.entryAt s.tree s.folder path.toBytes .atLink
      | r => r
    let found := paths.map fun path => (path, look path)
    let isFine ← found.foldlM (fun isFine e => do
      match e.2 with
      | .ok _ => return isFine
      | .error f =>
        Act.say ("ls: cannot access " ++ quoted e.1 ++ ": " ++ f.words)
        return false) true
    let listed : List Listed := found.filterMap fun e =>
      match e.2 with
      | .ok (p, entry) => some ⟨e.1, p, entry⟩
      | .error _ => none
    let isInside (l : Listed) : Bool := l.entry.isFolder && !a.has 'd'
    let plain := listingOrder a s (listed.filter fun l => !isInside l)
    let folders := listingOrder a s (listed.filter isInside)
    Act.out (unlines (listingRows a s plain))
    let isTitled := 1 < paths.length || a.has 'R'
    let fuel := s.tree.entries.length + 2
    let _ ← folders.foldlM (fun isFirst l => do
      listFolder a (if isTitled then some l.name else none) isFirst l.name l.place fuel
      return false) plain.isEmpty
    return if isFine then 0 else 2

/-! ## One by one -/

/-- A fact about an entry that a letter in a format asks for. -/
def fact (s : State) (l : Listed) (c : Char) : Raw :=
  let number (n : Nat) : Raw := Text.Decimal.digits n
  match c with
  | 'n' => l.name
  | 'N' =>
    match l.entry with
    | .link t => raw (quoted l.name ++ " -> " ++ quoted (Raw.ofBytes t))
    | _ => raw (quoted l.name)
  | 's' => number (l.size s)
  | 'a' => Permission.octal 1 (l.mode s)
  | 'A' => l.letters s
  | 'h' => number (l.names s)
  | 'U' | 'G' => raw "root"
  | 'u' | 'g' => ['0']
  | 'i' => number (l.number s)
  | 'b' => number (l.blocks s)
  | 'B' => raw "512"
  | 'o' => raw "4096"
  | 'X' | 'Y' | 'Z' => number (l.time s / 1000)
  | 'x' | 'y' | 'z' =>
    (Text.Moment.ofSeconds (l.seconds s)).formatted (raw "%F %T.%N %z") (l.time s % 1000 * 1000000)
  | 'w' => ['-']
  | 'W' => ['0']
  | 'f' =>
    let kind := match l.kind with
      | 'd' => 0o040000
      | 'l' => 0o120000
      | 'c' => 0o020000
      | _ => 0o100000
    Nat.toDigits 16 (kind + l.mode s)
  | 'F' =>
    match l.kind with
    | 'd' => raw "directory"
    | 'l' => raw "symbolic link"
    | 'c' => raw "character special file"
    | _ => raw (if l.size s = 0 then "regular empty file" else "regular file")
  | '%' => ['%']
  | _ => ['?']

/-- Fill in a format. -/
def factsIn (s : State) (l : Listed) (escapes : Bool) : Raw → Raw
  | '%' :: rest =>
    match rest with
    | [] => ['%']
    | c :: rest => fact s l c ++ factsIn s l escapes rest
  | '\\' :: rest =>
    match rest with
    | 'n' :: rest => if escapes then '\n' :: factsIn s l escapes rest
      else '\\' :: 'n' :: factsIn s l escapes rest
    | 't' :: rest => if escapes then '\t' :: factsIn s l escapes rest
      else '\\' :: 't' :: factsIn s l escapes rest
    | rest => '\\' :: factsIn s l escapes rest
  | c :: rest => c :: factsIn s l escapes rest
  | [] => []

/-- Say what is known about files. -/
def stat (args : List Raw) : Act Nat :=
  let flags := Flags.of "c:fLtp:"
    [("format", 'c'), ("printf", 'p'), ("dereference", 'L'), ("terse", 't')]
  working "stat" flags args fun a => do
    if a.operands.isEmpty then misused "stat" "missing operand"
    else
      let isFine ← forAll a.operands fun path => do
        match ← Program.entry path (if a.has 'L' then {} else .atLink) with
        | .error f =>
          Act.say ("stat: cannot statx " ++ quoted path ++ ": " ++ f.words)
          return false
        | .ok (place, entry) =>
          let s ← get
          let l : Listed := ⟨path, place, entry⟩
          match a.value? 'p', a.value? 'c' with
          | some format, _ => Act.out (factsIn s l true format)
          | none, some format => Act.outLine (factsIn s l false format)
          | none, none =>
            Act.outLine (factsIn s l false
              (raw "  File: %n\n  Size: %s\tBlocks: %b\tIO Block: %o\t%F"))
          return true
      return code isFine

/-- How much room files and folders take. -/
def du (args : List Raw) : Act Nat :=
  let flags := Flags.of "abchklsmxd:S" [("summarize", 's'), ("all", 'a'), ("bytes", 'b'),
    ("total", 'c'), ("max-depth", 'd'), ("human-readable", 'h')]
  working "du" flags args fun a => do
    let s ← get
    let unit (l : Listed) : Nat := if a.has 'b' then l.size s else l.blocks s * 512
    let shown (n : Nat) : Raw :=
      if a.has 'h' then humanSize n else Text.Decimal.digits (if a.has 'b' then n else n / 1024)
    let paths := if a.operands.isEmpty then [['.']] else a.operands
    let isFine ← forAll paths fun path => do
      match ← Program.entry path .atLink with
      | .error f =>
        Act.say ("du: cannot access " ++ quoted path ++ ": " ++ f.words)
        return false
      | .ok (place, entry) =>
        let (total, rows) := walk s a unit shown 0 ⟨path, place, entry⟩
          (s.tree.entries.length + 2)
        let rows := if a.has 's' || !entry.isFolder then
            [shown total ++ '\t' :: path] else rows
        Act.out (unlines rows)
        return true
    return code isFine
where
  /-- The room that an entry takes with all that is in it, and the rows about it. -/
  walk (s : State) (a : Arguments) (unit : Listed → Nat) (shown : Nat → Raw) (depth : Nat)
      (l : Listed) : Nat → Nat × List Raw
    | 0 => (0, [])
    | fuel + 1 =>
      let inner := if !l.entry.isFolder then [] else
        (s.tree.children l.place).map fun e =>
          walk s a unit shown (depth + 1)
            ⟨below l.name (Raw.ofBytes e.1), l.place ++ [e.1], e.2⟩ fuel
      let total := inner.foldl (fun n r => n + r.1) (unit l)
      let isWithin := ((a.value? 'd').map fun d => decide (depth ≤ Text.Decimal.value d)).getD true
      let own : List Raw := if (l.entry.isFolder || a.has 'a') && isWithin then
          [shown total ++ '\t' :: l.name] else []
      (total, inner.flatMap (·.2) ++ own)

/-! ## Finding -/

/-- A question about an entry that is found, or something to do with it. -/
inductive Wish where
  | isNamed (pattern : Pattern) (foldsCase isPath : Bool)
  | isKind (kinds : Raw)
  | isEmpty
  | isNewer (time : Nat)
  | hasSize (sign : Option Char) (blocks unit : Nat)
  | hasMode (mode : Files.Mode) (sign : Option Char)
  | isTrue (answer : Bool)
  | prune
  | stop
  | print (finish : Char)
  | printFormat (format : Raw)
  | delete
  /-- Start a program for each entry, or one for all. -/
  | start (words : List Raw) (isJoint : Bool)
  | opposite (w : Wish)
  | both (a b : Wish)
  | either (a b : Wish)
  | after (a b : Wish)
  deriving Inhabited

/-- Whether a wish does something with what is found. -/
def Wish.acts : Wish → Bool
  | .print _ | .printFormat _ | .delete | .start _ _ => true
  | .opposite w => w.acts
  | .both a b | .either a b | .after a b => a.acts || b.acts
  | _ => false

/-- The wish of a word by itself, and the words behind it. -/
def readSimpleWish (s : State) (words : List Raw) : Except String (Wish × List Raw) :=
  match words with
  | [] => .error "find: expected an expression"
  | word :: rest =>
    let name := String.ofList word
    let argument (f : Raw → Except String Wish) : Except String (Wish × List Raw) :=
      match rest with
      | [] => .error ("find: missing argument to `" ++ word.shown ++ "'")
      | a :: rest => do return (← f a, rest)
    let unquoted (cs : Raw) : Pattern := cs.map fun c => ⟨c, false⟩
    match name with
    | "-name" => argument fun p => .ok (.isNamed (unquoted p) false false)
    | "-iname" => argument fun p => .ok (.isNamed (unquoted (p.map Char.toLower)) true false)
    | "-path" | "-wholename" => argument fun p => .ok (.isNamed (unquoted p) false true)
    | "-type" => argument fun p => .ok (.isKind (p.filter (· != ',')))
    | "-empty" => .ok (.isEmpty, rest)
    | "-true" => .ok (.isTrue true, rest)
    | "-false" => .ok (.isTrue false, rest)
    | "-depth" | "-mount" | "-xdev" | "-follow" | "-readable" | "-writable" =>
      .ok (.isTrue true, rest)
    | "-executable" => .ok (.hasMode 0o111 (some '/'), rest)
    | "-prune" => .ok (.prune, rest)
    | "-quit" => .ok (.stop, rest)
    | "-print" => .ok (.print '\n', rest)
    | "-print0" => .ok (.print '\x00', rest)
    | "-printf" => argument fun f => .ok (.printFormat f)
    | "-delete" => .ok (.delete, rest)
    | "-newer" => argument fun p =>
      match Files.fileAt s.tree s.folder p.toBytes with
      | .ok id => .ok (.isNewer (s.tree.file id).time)
      | .error f => .error ("find: " ++ quoted p ++ ": " ++ f.words)
    | "-size" => argument fun p =>
      let (sign, body) := match p with
        | '+' :: rest => (some '+', rest)
        | '-' :: rest => (some '-', rest)
        | rest => (none, rest)
      let ds := body.takeWhile Char.isDigit
      let unit := match body.drop ds.length with
        | ['c'] => 1
        | ['w'] => 2
        | ['k'] => 1024
        | ['M'] => 1048576
        | ['G'] => 1073741824
        | _ => 512
      if ds.isEmpty then .error ("find: Invalid argument `" ++ p.shown ++ "' to -size")
      else .ok (.hasSize sign (Text.Decimal.value ds) unit)
    | "-perm" => argument fun p =>
      let (sign, body) := match p with
        | '-' :: rest => (some '-', rest)
        | '/' :: rest => (some '/', rest)
        | rest => (none, rest)
      match Permission.read? body with
      | some r => .ok (.hasMode (r.apply 0 .file 0) sign)
      | none => .error ("find: invalid mode " ++ quoted p)
    | "-exec" | "-execdir" | "-ok" =>
      let given := rest.takeWhile fun w => w != [';']
      -- A plus sign behind braces ends the words too.
      let joint := (rest.zip (rest.drop 1)).findIdx? fun (e : Raw × Raw) =>
        e.1 == ['\x7b', '\x7d'] && e.2 == ['+']
      match joint with
      | some n =>
        if n < given.length then .ok (.start (rest.take n) true, rest.drop (n + 2))
        else .ok (.start given false, rest.drop (given.length + 1))
      | none =>
        if given.length = rest.length then .error "find: missing argument to `-exec'"
        else .ok (.start given false, rest.drop (given.length + 1))
    | _ =>
      if word.head? = some '-' then .error ("find: unknown predicate `" ++ word.shown ++ "'")
      else .error ("find: paths must precede expression: `" ++ word.shown ++ "'")

mutual
/-- Wishes with commas or `-o` between them. -/
def readWishes (s : State) (words : List Raw) : Nat → Except String (Wish × List Raw)
  | 0 => .error "find: expression too deep"
  | fuel + 1 => do
    let (a, rest) ← readJoined s words fuel
    match rest with
    | ['-', 'o'] :: rest | ['-', 'o', 'r'] :: rest =>
      let (b, rest) ← readWishes s rest fuel
      return (.either a b, rest)
    | [','] :: rest =>
      let (b, rest) ← readWishes s rest fuel
      return (.after a b, rest)
    | rest => return (a, rest)

/-- Wishes next to each other. -/
def readJoined (s : State) (words : List Raw) : Nat → Except String (Wish × List Raw)
  | 0 => .error "find: expression too deep"
  | fuel + 1 => do
    let (a, rest) ← readWish s words fuel
    match rest with
    | [] | [')'] :: _ | [','] :: _ | ['-', 'o'] :: _ | ['-', 'o', 'r'] :: _ => return (a, rest)
    | ['-', 'a'] :: rest | ['-', 'a', 'n', 'd'] :: rest | rest =>
      let (b, rest) ← readJoined s rest fuel
      return (.both a b, rest)

/-- One wish, turned around or in parentheses. -/
def readWish (s : State) (words : List Raw) : Nat → Except String (Wish × List Raw)
  | 0 => .error "find: expression too deep"
  | fuel + 1 => do
    match words with
    | ['!'] :: rest | ['-', 'n', 'o', 't'] :: rest =>
      let (a, rest) ← readWish s rest fuel
      return (.opposite a, rest)
    | ['('] :: rest =>
      let (a, rest) ← readWishes s rest fuel
      match rest with
      | [')'] :: rest => return (a, rest)
      | _ => .error "find: invalid expression; expected to find a ')' but didn't see one."
    | words => readSimpleWish s words
end

/-- What has come of a search. -/
structure Search where
  isFine : Bool := true
  /-- Whether what is inside the entry is left out. -/
  isPruned : Bool := false
  isOver : Bool := false
  /-- What is kept for a program that is started once for all. -/
  kept : List Raw := []

/-- The words of a program, with a path in the place of braces. -/
def withPath (words : List Raw) (path : Raw) : List Raw :=
  words.map fun w => fill w path
where
  /-- A word with a path in the place of braces. -/
  fill (w path : Raw) : Raw :=
    match w with
    | '\x7b' :: '\x7d' :: rest => path ++ fill rest path
    | c :: rest => c :: fill rest path
    | [] => []

/-- Whether a wish comes true for an entry. -/
def grant (launch : Launch) (l : Listed) (depth : Nat) (w : Wish) (f : Search) :
    Act (Bool × Search) := do
  let s ← get
  match w with
  | .isTrue b => return (b, f)
  | .isNamed p foldsCase isPath =>
    let last := lastName l.name
    let text := if isPath then l.name else if last.isEmpty then l.name else last
    let text := if foldsCase then text.map Char.toLower else text
    return (p.standsFor text, f)
  | .isKind kinds =>
    return (kinds.any fun c => l.kind == (if c = 'f' then '-' else c), f)
  | .isEmpty =>
    match l.entry with
    | .folder _ => return ((s.tree.children l.place).isEmpty, f)
    | .file id => return ((s.tree.content id).isEmpty, f)
    | .link _ => return (false, f)
  | .isNewer time => return (decide (time < l.time s), f)
  | .hasSize sign n unit =>
    let size := (l.size s + unit - 1) / unit
    return (match sign with
      | some '+' => decide (n < size)
      | some _ => decide (size < n)
      | none => size == n, f)
  | .hasMode mode sign =>
    let own := l.mode s
    return (match sign with
      | some '-' => own &&& mode == mode
      | some _ => own &&& mode != 0
      | none => own == mode, f)
  | .prune => return (true, { f with isPruned := true })
  | .stop => return (true, { f with isOver := true })
  | .print finish =>
    Act.out (l.name ++ [finish])
    return (true, f)
  | .printFormat format =>
    let facts (c : Char) : Raw := match c with
      | 'p' => l.name
      | 'f' => lastName l.name
      | 'y' => [if l.kind = '-' then 'f' else l.kind]
      | 'd' => Text.Decimal.digits depth
      | 'm' => Permission.octal 1 (l.mode s)
      | c => fact s l c
    Act.out (filled facts format)
    return (true, f)
  | .delete =>
    let fault ← if l.entry.isFolder then
        change fun s => Files.removeFolder s.tree s.folder l.name.toBytes
      else change fun s => Files.removeFile s.tree s.folder l.name.toBytes
    match fault with
    | none => return (true, f)
    | some e =>
      Act.say ("find: cannot delete " ++ quoted l.name ++ ": " ++ e.words)
      return (false, { f with isFine := false })
  | .start words isJoint =>
    if isJoint then return (true, { f with kept := f.kept ++ [l.name] })
    else
      match ← launch (withPath words l.name) with
      | .ok e => return (e.status == 0, f)
      | .error e =>
        Act.say ("find: " ++ quoted (words.headD []) ++ ": " ++ e.words)
        return (false, f)
  | .opposite w =>
    let (b, f) ← grant launch l depth w f
    return (!b, f)
  | .both a b =>
    let (isSo, f) ← grant launch l depth a f
    if isSo then grant launch l depth b f else return (false, f)
  | .either a b =>
    let (isSo, f) ← grant launch l depth a f
    if isSo then return (true, f) else grant launch l depth b f
  | .after a b =>
    let (_, f) ← grant launch l depth a f
    grant launch l depth b f
where
  /-- Fill facts into a format. -/
  filled (facts : Char → Raw) : Raw → Raw
    | '%' :: c :: rest => facts c ++ filled facts rest
    | '\\' :: 'n' :: rest => '\n' :: filled facts rest
    | '\\' :: 't' :: rest => '\t' :: filled facts rest
    | c :: rest => c :: filled facts rest
    | [] => []

/-- The program that is started once for all that is found. -/
def Wish.joint? : Wish → Option (List Raw)
  | .start words true => some words
  | .opposite w => w.joint?
  | .both a b | .either a b | .after a b => a.joint?.or b.joint?
  | _ => none

/-- Look at an entry and at those inside it. -/
def explore (launch : Launch) (w : Wish) (isInnerFirst : Bool) (low high depth : Nat)
    (l : Listed) (f : Search) : Nat → Act Search
  | 0 => return f
  | fuel + 1 => do
    if f.isOver then return f
    let visit (f : Search) : Act Search := do
      if depth < low then return f
      else
        let (_, f) ← grant launch l depth w f
        return f
    let s ← get
    let inside (f : Search) : Act Search := do
      if !l.entry.isFolder || high ≤ depth then return f
      else (s.tree.children l.place).foldlM (fun f e => do
        let name := below l.name (Raw.ofBytes e.1)
        explore launch w isInnerFirst low high (depth + 1) ⟨name, l.place ++ [e.1], e.2⟩ f fuel) f
    if isInnerFirst then
      let f ← inside f
      visit f
    else
      let f ← visit { f with isPruned := false }
      if f.isPruned || f.isOver then return { f with isPruned := false } else inside f

/-- Take an option with a number out of some words. -/
def takeNumber (name : String) (words : List Raw) : Option Nat × List Raw :=
  match words.idxOf? (raw name) with
  | none => (none, words)
  | some n => ((words[n + 1]?).map Text.Decimal.value, words.take n ++ words.drop (n + 2))

/-- Find files. -/
def find (launch : Launch) (args : List Raw) : Act Ending := do
  let args := args.dropWhile fun arg => arg = ['-', 'L'] || arg = ['-', 'P'] || arg = ['-', 'H']
  let isWord (arg : Raw) : Bool :=
    (arg.head? == some '-' && 1 < arg.length) || arg == ['!'] || arg == ['('] || arg == [')']
  let paths := args.takeWhile fun arg => !isWord arg
  let words := args.drop paths.length
  let (high, words) := takeNumber "-maxdepth" words
  let (low, words) := takeNumber "-mindepth" words
  let s ← get
  let wish : Except String Wish := do
    if words.isEmpty then return .print '\n'
    else
      let (w, rest) ← readWishes s words (4 * words.length + 8)
      match rest with
      | [] => return if w.acts then w else .both w (.print '\n')
      | _ =>
        .error ("find: invalid expression; you have used a binary operator '-o' with nothing " ++
          "before it.")
  match wish with
  | .error message =>
    Act.say message
    return .exit 1
  | .ok w =>
    let isInnerFirst := words.contains (raw "-depth") || words.contains (raw "-delete")
    let paths := if paths.isEmpty then [['.']] else paths
    let fuel := s.tree.entries.length + 2
    let f ← paths.foldlM (fun (f : Search) (path : Raw) => do
      match ← Program.entry path .atLink with
      | .error e =>
        Act.say ("find: " ++ quoted path ++ ": " ++ e.words)
        return { f with isFine := false }
      | .ok (place, entry) =>
        explore launch w isInnerFirst (low.getD 0) (high.getD fuel) 0 ⟨path, place, entry⟩ f fuel)
      {}
    match w.joint?, f.kept with
    | some words, kept =>
      if kept.isEmpty then return .exit (code f.isFine)
      else match ← launch (words ++ kept) with
        | .ok e => return .exit (if e.status = 0 then code f.isFine else 1)
        | .error e =>
          Act.say ("find: " ++ quoted (words.headD []) ++ ": " ++ e.words)
          return .exit 1
    | none, _ => return .exit (code f.isFine)

end AgentPulse.Shell.Program
