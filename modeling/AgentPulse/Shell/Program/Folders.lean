import AgentPulse.Shell.Permission
import AgentPulse.Shell.Program.Dates

/-!
# Programs on folders and names

Programs that make, copy, move and take away files, folders and links, and that say where links
lead.
-/

namespace AgentPulse.Shell.Program

/-- The permissions of what is made new, in place of some that were asked for. -/
def masked (mode : Files.Mode) : Act Files.Mode := do return mode - (mode &&& (← get).mask)

/-- What is at a path. -/
def entry (path : Raw) (goal : Files.Goal := {}) :
    Act (Except Files.Fault (Files.Place × Files.Entry)) := do
  let s ← get
  return Files.entryAt s.tree s.folder path.toBytes goal

/-- Print a line if that is asked for. -/
def verbosely (a : Arguments) (text : String) : Act Unit :=
  if a.has 'v' then Act.outLine (raw text) else return

/-! ## Making -/

/-- The starts of a path that end in front of a slash or at its end. -/
def starts (path : Raw) : List Raw :=
  let parts := partsOf '/' path
  (List.range parts.length).filterMap fun n =>
    let p := List.intercalate ['/'] (parts.take (n + 1))
    if ((parts[n]?).getD []).isEmpty then none else some p

/-- Make a folder and those around it that are missing. -/
def makeFolders (a : Arguments) (mode outerMode : Files.Mode) (path : Raw) : Act Bool := do
  let all := starts path
  let r ← all.zipIdx.foldlM (fun isFine (p, n) => do
    if !isFine then return false
    let isLast := n + 1 = all.length
    let fault ← change fun s =>
      Files.makeFolder s.tree s.folder p.toBytes (if isLast then mode else outerMode)
    match fault with
    | none =>
      verbosely a ("mkdir: created directory " ++ quoted p)
      return true
    | some f =>
      if ← isFolder p then return true
      else
        let f := if f = .alreadyThere && !isLast then Files.Fault.notAFolder else f
        Act.say ("mkdir: cannot create directory " ++ quoted p ++ ": " ++ f.words)
        return false) true
  return r

/-- Make folders. -/
def mkdir (args : List Raw) : Act Nat :=
  let flags := Flags.of "pvm:Z" [("parents", 'p'), ("verbose", 'v'), ("mode", 'm')]
  working "mkdir" flags args fun a => do
    if a.operands.isEmpty then misused "mkdir" "missing operand"
    else
      let usual ← masked 0o777
      let mode := match a.value? 'm' with
        | none => some usual
        | some text => (Permission.read? text).map fun r => r.apply 0 .folder 0o777
      match mode with
      | none => failed ("mkdir: invalid mode: " ++ quoted ((a.value? 'm').getD []))
      | some mode =>
        let isFine ← forAll a.operands fun path => do
          if a.has 'p' && !path.isEmpty then makeFolders a mode usual path
          else
            match ← change fun s => Files.makeFolder s.tree s.folder path.toBytes mode with
            | none =>
              verbosely a ("mkdir: created directory " ++ quoted path)
              return true
            | some f =>
              Act.say ("mkdir: cannot create directory " ++ quoted path ++ ": " ++ f.words)
              return false
        return code isFine

/-- When files are to count as changed, by the options for that. -/
def touchTime (s : State) (a : Arguments) : Except String Nat :=
  let now : Int := s.tree.now / 1000
  let thousandths (n : Int) : Nat := (n * 1000).toNat
  match a.value? 't', a.value? 'd', a.value? 'r' with
  | some text, _, _ =>
    match stamp? now text with
    | some n => .ok (thousandths n)
    | none => .error ("invalid date format " ++ quoted text)
  | none, some text, _ =>
    match moment? now text with
    | some n => .ok (thousandths n)
    | none => .error ("invalid date format " ++ quoted text)
  | none, none, some path =>
    match Files.fileAt s.tree s.folder path.toBytes with
    | .ok id => .ok (s.tree.file id).time
    | .error .aFolder => .ok s.tree.now
    | .error f => .error ("failed to get attributes of " ++ quoted path ++ ": " ++ f.words)
  | none, none, none => .ok s.tree.now

/-- Make files that are missing, and let files count as changed at a time. -/
def touch (args : List Raw) : Act Nat :=
  let flags := Flags.of "acfhmd:r:t:"
    [("no-create", 'c'), ("reference", 'r'), ("date", 'd'), ("no-dereference", 'h')]
  working "touch" flags args fun a => do
    if a.operands.isEmpty then misused "touch" "missing file operand"
    else
      match touchTime (← get) a with
      | .error message => failed ("touch: " ++ message)
      | .ok time =>
        let isFine ← forAll a.operands fun path => do
          match ← entry path with
          | .ok (_, .file id) =>
            modify fun s => { s with tree := s.tree.setTime id time }
            return true
          | .ok _ => return true
          | .error .missing =>
            if a.has 'c' then return true
            else
              let mode ← masked 0o666
              let fault ← change fun s => do
                let (id, t) ← Files.openFile s.tree s.folder path.toBytes mode
                return t.setTime id time
              match fault with
              | none => return true
              | some f =>
                Act.say ("touch: cannot touch " ++ quoted path ++ ": " ++ f.words)
                return false
          | .error f =>
            Act.say ("touch: cannot touch " ++ quoted path ++ ": " ++ f.words)
            return false
        return code isFine

/-- Let files have a size. -/
def truncate (args : List Raw) : Act Nat :=
  working "truncate" (Flags.of "cos:r:" [("size", 's'), ("no-create", 'c')]) args fun a => do
    match a.value? 's' with
    | none => misused "truncate" "you must specify either '--size' or '--reference'"
    | some text =>
      let sign := text.head?.getD ' '
      let size := Text.Decimal.value (text.filter Char.isDigit)
      let isFine ← forAll a.operands fun path => do
        let mode ← masked 0o666
        let fault ← change fun s => do
          let (id, t) ← Files.openFile s.tree s.folder path.toBytes mode
          let old := t.content id
          let size := if sign = '+' then old.length + size
            else if sign = '-' then old.length - size else size
          return t.setContent id (old.take size ++ List.replicate (size - old.length) 0)
        match fault with
        | none => return true
        | some f =>
          Act.say ("truncate: cannot open " ++ quoted path ++ " for writing: " ++ f.words)
          return false
      return code isFine

/-! ## Taking away -/

/-- Take away empty folders, and those around them where that is asked for. -/
def rmdir (args : List Raw) : Act Nat :=
  let flags := Flags.of "pvi"
    [("parents", 'p'), ("verbose", 'v'), ("ignore-fail-on-non-empty", 'i')]
  working "rmdir" flags args fun a => do
    if a.operands.isEmpty then misused "rmdir" "missing operand"
    else
      let remove (path : Raw) : Act Bool := do
        verbosely a ("rmdir: removing directory, " ++ quoted path)
        match ← change fun s => Files.removeFolder s.tree s.folder path.toBytes with
        | none => return true
        | some f =>
          if f = .notEmpty && a.has 'i' then return true
          else
            Act.say ("rmdir: failed to remove " ++ quoted path ++ ": " ++ f.words)
            return false
      let isFine ← forAll a.operands fun path => do
        let paths := if a.has 'p' then (starts path).reverse else [path]
        paths.foldlM (fun isFine p => do if isFine then remove p else return false) true
      return code isFine

/-- Say what was taken away: what is below a folder before the folder itself. -/
def sayRemoved (path : Raw) (place : Files.Place) : Nat → Act Unit
  | 0 => return
  | fuel + 1 => do
    let s ← get
    match s.tree.find? place with
    | some (.folder _) =>
      (s.tree.children place).forM fun e =>
        sayRemoved (below path (Raw.ofBytes e.1)) (place ++ [e.1]) fuel
      Act.outLine (raw ("removed directory " ++ quoted path))
    | _ => Act.outLine (raw ("removed " ++ quoted path))

/-- Take away files, and folders with all that is in them where that is asked for. -/
def rm (args : List Raw) : Act Nat :=
  let flags := Flags.of "dfiIrRv"
    [("recursive", 'r'), ("force", 'f'), ("dir", 'd'), ("verbose", 'v')]
  working "rm" flags args fun a => do
    if a.operands.isEmpty && !a.has 'f' then misused "rm" "missing operand"
    else
      let isDeep := a.has 'r' || a.has 'R'
      let refused (path : Raw) (f : Files.Fault) : Act Bool := do
        Act.say ("rm: cannot remove " ++ quoted path ++ ": " ++ f.words)
        return false
      let isFine ← forAll a.operands fun path => do
        match ← entry path .atLink with
        | .error f =>
          if a.has 'f' && (f = .missing || f = .notAFolder) then return true else refused path f
        | .ok (place, e) =>
          let name := (Files.names path.toBytes).getLast?
          if e.isFolder && isDeep && (name = some Files.dot || name = some Files.dots) then
            Act.say ("rm: refusing to remove '.' or '..' directory: skipping " ++ quoted path)
            return false
          else if e.isFolder && !isDeep then
            if !a.has 'd' then refused path .aFolder
            else match ← change fun s => Files.removeFolder s.tree s.folder path.toBytes with
              | none => return true
              | some f => refused path f
          else
            if a.has 'v' then sayRemoved path place ((← get).tree.entries.length + 1)
            modify fun s => { s with tree := s.tree.prune place }
            return true
      return code isFine

/-- Take away one name. -/
def unlink (args : List Raw) : Act Nat := do
  match args with
  | [path] =>
    match ← change fun s => Files.removeFile s.tree s.folder path.toBytes with
    | none => return 0
    | some f => failed ("unlink: cannot unlink " ++ quoted path ++ ": " ++ f.words)
  | [] => misused "unlink" "missing operand"
  | _ :: extra :: _ => misused "unlink" ("extra operand " ++ quoted extra)

/-! ## Links -/

/-- A link that is to be made. -/
def makeLink (a : Arguments) (target path : Raw) : Act Bool := do
  let isSoft := a.has 's'
  let refused (f : Files.Fault) : Act Bool := do
    let kind := if isSoft then "symbolic link " else "hard link "
    let more := if isSoft || f = .alreadyThere then "" else " => " ++ quoted target
    Act.say ("ln: failed to create " ++ kind ++ quoted path ++ more ++ ": " ++ f.words)
    return false
  if !isSoft then
    match ← entry target .atLink with
    | .error f =>
      Act.say ("ln: failed to access " ++ quoted target ++ ": " ++ f.words)
      return false
    | .ok (_, .folder _) =>
      Act.say ("ln: " ++ named target ++ ": hard link not allowed for directory")
      return false
    | .ok _ => pure ()
  let old ← entry path .atLink
  let source ← entry target .atLink
  match old, source with
  | .ok (p, _), .ok (q, _) =>
    if p = q ∧ a.has 'f' then
      Act.say ("ln: " ++ quoted target ++ " and " ++ quoted path ++ " are the same file")
      return false
  | _, _ => pure ()
  let fault ← change fun s => do
    let t := if a.has 'f' then
        match Files.removeFile s.tree s.folder path.toBytes with
        | .ok t => t
        | .error _ => s.tree
      else s.tree
    if isSoft then Files.makeLink t s.folder target.toBytes path.toBytes
    else Files.addName t s.folder target.toBytes path.toBytes
  match fault with
  | none =>
    let arrow := if isSoft then " -> " else " => "
    verbosely a (quoted path ++ arrow ++ quoted target)
    return true
  | some f => refused f

/-- The paths of a program that takes several and a folder for them: pairs of a source and what it
becomes, or why there are none. -/
def destinations (program : String) (a : Arguments) : Act (Except String (List (Raw × Raw))) := do
  let into (folder : Raw) (sources : List Raw) : List (Raw × Raw) :=
    sources.map fun p => (p, below folder (lastName p))
  match a.value? 't', a.operands with
  | some folder, sources => return .ok (into folder sources)
  | none, [] => return .error ("missing file operand\n" ++ tryHelp program)
  | none, [source] =>
    return .error ("missing destination file operand after " ++ quoted source ++ "\n" ++
      tryHelp program)
  | none, sources =>
    let goal := sources.getLastD []
    let sources := sources.dropLast
    let isPlain := a.has 'T'
    match ← entry goal with
    | .ok (_, .folder _) =>
      return .ok (if isPlain then sources.map fun p => (p, goal) else into goal sources)
    | .ok _ =>
      if 1 < sources.length then return .error ("target " ++ quoted goal ++ ": Not a directory")
      else return .ok (sources.map fun p => (p, goal))
    | .error f =>
      if 1 < sources.length then return .error ("target " ++ quoted goal ++ ": " ++ f.words)
      else return .ok (sources.map fun p => (p, goal))

/-- Make links. -/
def ln (args : List Raw) : Act Nat :=
  let flags := Flags.of "bfiLnPrst:Tv"
    [("symbolic", 's'), ("force", 'f'), ("no-dereference", 'n'), ("target-directory", 't'),
      ("no-target-directory", 'T'), ("verbose", 'v'), ("relative", 'r')]
  working "ln" flags args fun a => do
    match a.value? 't', a.operands with
    | none, [target] =>
      let isFine ← makeLink a target (lastName target)
      return code isFine
    | none, [] => misused "ln" "missing file operand"
    | _, operands =>
      let goal := operands.getLastD []
      -- A link to a folder may itself be what is to be replaced.
      let isLink := a.has 'n' && (match ← entry goal .atLink with
        | .ok (_, .link _) => true
        | _ => false)
      let a := if isLink then a.withOption 'T' [] else a
      match ← destinations "ln" a with
      | .error message => failed ("ln: " ++ message)
      | .ok pairs =>
        let isFine ← pairs.foldlM (fun isFine p => do
          let isDone ← makeLink a p.1 p.2
          return isFine && isDone) true
        return code isFine

/-- Make one more name for a file. -/
def link (args : List Raw) : Act Nat := do
  match args with
  | [target, path] =>
    match ← change fun s => Files.addName s.tree s.folder target.toBytes path.toBytes with
    | none => return 0
    | some f =>
      failed ("link: cannot create link " ++ quoted path ++ " to " ++ quoted target ++ ": " ++
        f.words)
  | [] => misused "link" "missing operand"
  | [target] => misused "link" ("missing operand after " ++ quoted target)
  | _ :: _ :: extra :: _ => misused "link" ("extra operand " ++ quoted extra)

/-- The place that a path leads to: of what is there, or of what could be made there. -/
def placeOf? (s : State) (path : Raw) : Option Files.Place :=
  match Files.locate s.tree s.folder path.toBytes with
  | .ok (.found p _) => some p
  | .ok (.free folder name) => some (folder ++ [name])
  | .error _ => none

/-- A place as a path from the outermost folder. -/
def placePath (p : Files.Place) : Raw := '/' :: List.intercalate ['/'] (p.map Raw.ofBytes)

/-- The place that a path leads to, where parts of it may be missing. -/
def loosePlace (s : State) (path : Raw) : Files.Place :=
  let start : Files.Place := if path.head? = some '/' then [] else s.folder
  (Files.names path.toBytes).foldl (fun p n =>
    if n = Files.dot then p else if n = Files.dots then p.dropLast
    else (placeOf? s (placePath (p ++ [n]))).getD (p ++ [n])) start

/-- The place that a path leads to: all of it, all but the last name, or nothing has to be there. -/
def canonical (s : State) (path : Raw) (how : Char) : Except Files.Fault Files.Place :=
  match how with
  | 'm' => .ok (loosePlace s path)
  | 'e' => (Files.entryAt s.tree s.folder path.toBytes).map (·.1)
  | _ =>
    let plain := Raw.ofBytes (Files.withoutSlashes path.toBytes)
    match Files.locate s.tree s.folder (if plain.isEmpty then path else plain).toBytes with
    | .ok (.found p _) => .ok p
    | .ok (.free folder name) => .ok (folder ++ [name])
    | .error f => .error f

/-- Say where links lead. -/
def readlink (args : List Raw) : Act Nat :=
  let flags := Flags.of "femnqsvz"
    [("canonicalize", 'f'), ("canonicalize-existing", 'e'), ("canonicalize-missing", 'm'),
      ("no-newline", 'n'), ("verbose", 'v'), ("quiet", 'q'), ("silent", 's'), ("zero", 'z')]
  working "readlink" flags args fun a => do
    if a.operands.isEmpty then misused "readlink" "missing operand"
    else
      let finish : Raw := if a.has 'z' then ['\x00']
        else if a.has 'n' && a.operands.length = 1 then [] else ['\n']
      let isFine ← forAll a.operands fun path => do
        let s ← get
        let found := match a.last? ['f', 'e', 'm'] with
          | some how => (canonical s path how).map placePath
          | none =>
            match Files.entryAt s.tree s.folder path.toBytes .atLink with
            | .ok (_, .link target) => .ok (Raw.ofBytes target)
            | .ok _ => .error .badArgument
            | .error f => .error f
        match found with
        | .ok text =>
          Act.out (text ++ finish)
          return true
        | .error f =>
          if a.has 'v' then Act.say (usualComplaint "readlink" path f)
          return false
      return code isFine

/-- Say to which places paths lead. -/
def realpath (args : List Raw) : Act Nat :=
  let flags := Flags.of "emLPqsz"
    [("canonicalize-existing", 'e'), ("canonicalize-missing", 'm'), ("quiet", 'q'),
      ("no-symlinks", 's'), ("strip", 's'), ("zero", 'z')]
  working "realpath" flags args fun a => do
    if a.operands.isEmpty then misused "realpath" "missing operand"
    else
      let isFine ← forAll a.operands fun path => do
        match canonical (← get) path ((a.last? ['e', 'm']).getD 'f') with
        | .ok p =>
          Act.out (placePath p ++ [if a.has 'z' then '\x00' else '\n'])
          return true
        | .error f =>
          if !a.has 'q' then Act.say (usualComplaint "realpath" path f)
          return false
      return code isFine

/-! ## Copying and moving -/

/-- Whether two paths lead to one thing. -/
def isSame (a b : Files.Place × Files.Entry) : Bool :=
  match a.2, b.2 with
  | .file f, .file g => f == g
  | _, _ => a.1 == b.1

/-- Copy what is at a path to another. -/
def copy (a : Arguments) (source goal : Raw) : Nat → Act Bool
  | 0 => return false
  | fuel + 1 => do
    let said (message : String) : Act Bool := do
      Act.say ("cp: " ++ message)
      return false
    let isDeep := a.has 'r' || a.has 'R' || a.has 'a'
    let keepsLinks := (isDeep && !a.has 'L') || a.has 'd' || a.has 'P'
    let keepsModes := a.has 'p' || a.has 'a'
    let old ← entry goal
    match ← entry source (if keepsLinks then .atLink else {}) with
    | .error f => said ("cannot stat " ++ quoted source ++ ": " ++ f.words)
    | .ok (place, .folder mode) =>
      if !isDeep then said ("-r not specified; omitting directory " ++ quoted source)
      else
        let s ← get
        match old, placeOf? s goal with
        | .ok (_, .file _), _ =>
          said ("cannot overwrite non-directory " ++ quoted goal ++ " with directory " ++
            quoted source)
        | _, some goalPlace =>
          if place.isPrefixOf goalPlace then
            if place = goalPlace then
              said (quoted source ++ " and " ++ quoted goal ++ " are the same file")
            else
              said ("cannot copy a directory, " ++ quoted source ++ ", into itself, " ++
                quoted goal)
          else
            let isThere := old matches .ok _
            let newMode ← masked mode
            let fault ← if isThere then pure none else
              change fun s => Files.makeFolder s.tree s.folder goal.toBytes
                (if keepsModes then mode else newMode)
            match fault with
            | some f => said ("cannot create directory " ++ quoted goal ++ ": " ++ f.words)
            | none =>
              if !isThere then verbosely a (quoted source ++ " -> " ++ quoted goal)
              (s.tree.children place).foldlM (fun isFine e => do
                let name := Raw.ofBytes e.1
                let isDone ← copy a (below source name) (below goal name) fuel
                return isFine && isDone) true
        | .error f, none => said ("cannot create directory " ++ quoted goal ++ ": " ++ f.words)
        | .ok _, none => return true
    | .ok (place, .link target) =>
      if a.has 'n' && (old matches .ok _) then return true
      let fault ← change fun s => do
        let t := match Files.removeFile s.tree s.folder goal.toBytes with
          | .ok t => t
          | .error _ => s.tree
        Files.makeLink t s.folder target goal.toBytes
      match fault with
      | none =>
        verbosely a (quoted source ++ " -> " ++ quoted goal)
        return true
      | some f =>
        said ("cannot create symbolic link " ++ quoted (placePath place) ++ ": " ++ f.words)
    | .ok (place, .file id) =>
      let refused (f : Files.Fault) : Act Bool :=
        said ("cannot create regular file " ++ quoted goal ++ ": " ++
          (if f = .aFolder then Files.Fault.notAFolder else f).words)
      match old with
      | .ok (_, .folder _) =>
        said ("cannot overwrite directory " ++ quoted goal ++ " with non-directory")
      | .ok other =>
        if isSame (place, .file id) other then
          said (quoted source ++ " and " ++ quoted goal ++ " are the same file")
        else if a.has 'n' then return true
        else write said refused place id
      | .error f =>
        if f = .missing && ((← entry goal .atLink) matches .ok _) then
          said ("not writing through dangling symlink " ++ quoted goal)
        else write said refused place id
where
  /-- Write the content of a file to another. -/
  write (said : String → Act Bool) (refused : Files.Fault → Act Bool) (place : Files.Place)
      (id : Files.FileId) : Act Bool := do
    let s ← get
    let f := s.tree.file id
    let isDevice := (System.deviceAt? place).isSome
    let text ← if isDevice then Act.readPath source
      else pure (.ok (Raw.ofBytes f.content))
    match text with
    | .error f => said (named source ++ ": " ++ f.words)
    | .ok text =>
      let keepsModes := a.has 'p' || a.has 'a'
      let mode ← if keepsModes then pure f.mode else masked f.mode
      let goalPlace := placeOf? s goal
      let fault ← if (goalPlace.bind System.deviceAt?).isSome then do
          match ← Act.writePath goal text with
          | .ok () => pure none
          | .error f => pure (some f)
        else change fun s => do
          let (new, t) ← Files.openFile s.tree s.folder goal.toBytes mode
          let t := t.setContent new text.toBytes
          return if keepsModes then (t.setMode new f.mode).setTime new f.time else t
      match fault with
      | none =>
        verbosely a (quoted source ++ " -> " ++ quoted goal)
        return true
      | some f => refused f

/-- Copy files, and folders with all that is in them where that is asked for. -/
def cp (args : List Raw) : Act Nat :=
  let flags := Flags.of "abdfHilLnPpRrst:Tuvx"
    [("recursive", 'r'), ("archive", 'a'), ("force", 'f'), ("no-clobber", 'n'), ("verbose", 'v'),
      ("target-directory", 't'), ("no-target-directory", 'T'), ("dereference", 'L'),
      ("no-dereference", 'P'), ("update", 'u')]
  working "cp" flags args fun a => do
    match ← destinations "cp" a with
    | .error message => failed ("cp: " ++ message)
    | .ok pairs =>
      let fuel := (← get).tree.entries.length + 2
      let isFine ← pairs.foldlM (fun isFine p => do
        let isDone ← copy a p.1 p.2 fuel
        return isFine && isDone) true
      return code isFine

/-- Move what is at a path to another. -/
def moveOne (a : Arguments) (source goal : Raw) : Act Bool := do
  let said (message : String) : Act Bool := do
    Act.say ("mv: " ++ message)
    return false
  let s ← get
  let plain := Files.withoutSlashes goal.toBytes
  match ← entry source .atLink with
  | .error f => said ("cannot stat " ++ quoted source ++ ": " ++ f.words)
  | .ok (p, e) =>
    let moved (q : Files.Place) (t : Files.Tree) : Act Bool := do
      set { s with tree := t.move p q }
      verbosely a ("renamed " ++ quoted source ++ " -> " ++ quoted goal)
      return true
    let isSlashed := Files.endsInSlash goal.toBytes
    match Files.locate s.tree s.folder plain .atLink with
    | .error f =>
      said ("cannot move " ++ quoted source ++ " to " ++ quoted goal ++ ": " ++ f.words)
    | .ok (.free folder name) =>
      let q := folder ++ [name]
      if isSlashed && !e.isFolder then
        said ("cannot move " ++ quoted source ++ " to " ++ quoted goal ++ ": Not a directory")
      else if p.isPrefixOf q then
        said ("cannot move " ++ quoted source ++ " to a subdirectory of itself, " ++ quoted goal)
      else moved q s.tree
    | .ok (.found q old) =>
      if isSame (p, e) (q, old) then
        said (quoted source ++ " and " ++ quoted goal ++ " are the same file")
      else if a.has 'n' then return true
      else if p.isPrefixOf q then
        said ("cannot move " ++ quoted source ++ " to a subdirectory of itself, " ++ quoted goal)
      else if e.isFolder && !old.isFolder then
        said ("cannot overwrite non-directory " ++ quoted goal ++ " with directory " ++
          quoted source)
      else if !e.isFolder && old.isFolder then
        said ("cannot overwrite directory " ++ quoted goal ++ " with non-directory")
      else if old.isFolder && !(s.tree.children q).isEmpty then
        said ("cannot move " ++ quoted source ++ " to " ++ quoted goal ++ ": Directory not empty")
      else moved q (s.tree.delete q)

/-- Move files and folders. -/
def mv (args : List Raw) : Act Nat :=
  let flags := Flags.of "bfint:Tuv"
    [("force", 'f'), ("no-clobber", 'n'), ("verbose", 'v'), ("target-directory", 't'),
      ("no-target-directory", 'T'), ("update", 'u')]
  working "mv" flags args fun a => do
    match ← destinations "mv" a with
    | .error message => failed ("mv: " ++ message)
    | .ok pairs =>
      let isFine ← pairs.foldlM (fun isFine p => do
        let isDone ← moveOne a p.1 p.2
        return isFine && isDone) true
      return code isFine

/-! ## Permissions -/

/-- Let what is at a place, and what is below it where that is asked for, have other permissions. -/
def changeModes (isDeep : Bool) (r : Permission.Request) (place : Files.Place) :
    Nat → Act Unit
  | 0 => return
  | fuel + 1 => do
    let s ← get
    match s.tree.find? place with
    | some (.file id) =>
      let mode := r.apply s.mask .file (s.tree.file id).mode
      set { s with tree := s.tree.setMode id mode }
    | some (.folder mode) =>
      let mode := r.apply s.mask .folder mode
      set { s with tree := s.tree.put place (.folder mode) }
      if isDeep then
        (s.tree.children place).forM fun e => changeModes isDeep r (place ++ [e.1]) fuel
    | _ => return

/-- Change permissions. -/
def chmod (args : List Raw) : Act Nat :=
  -- Permissions that are taken away look like options.
  let isMode (a : Raw) : Bool :=
    a.head? == some '-' && 1 < a.length && (a.drop 1).all fun c => "rwxXstugo,+-=".contains c
  let mode := args.find? isMode
  let args := match mode with
    | some m => args.erase m
    | none => args
  let flags := Flags.of "cfvR" [("recursive", 'R'), ("changes", 'c'), ("verbose", 'v'),
    ("quiet", 'f'), ("silent", 'f')]
  working "chmod" flags args fun a => do
    let (mode, paths) := match mode with
      | some m => (some m, a.operands)
      | none => (a.operands.head?, a.operands.drop 1)
    match mode with
    | none => misused "chmod" "missing operand"
    | some text =>
      match Permission.read? text with
      | none =>
        if paths.isEmpty then misused "chmod" ("missing operand after " ++ quoted text)
        else misused "chmod" ("invalid mode: " ++ quoted text)
      | some r =>
        if paths.isEmpty then misused "chmod" ("missing operand after " ++ quoted text)
        else
          let isFine ← forAll paths fun path => do
            match ← entry path with
            | .ok (place, _) =>
              changeModes (a.has 'R') r place ((← get).tree.entries.length + 1)
              return true
            | .error f =>
              Act.say ("chmod: cannot access " ++ quoted path ++ ": " ++ f.words)
              return false
          return code isFine

/-- Make a file or a folder of a name that is not used yet. -/
def mktemp (args : List Raw) : Act Nat :=
  let flags := Flags.of "dqtup:" [("directory", 'd'), ("dry-run", 'u'), ("quiet", 'q'),
    ("tmpdir", 'p')]
  working "mktemp" flags args fun a => do
    let template := a.operands.headD (raw "tmp.XXXXXXXXXX")
    let folder := if a.operands.isEmpty || a.has 't' then (a.value? 'p').getD (raw "/tmp")
      else (a.value? 'p').getD []
    let marks := (template.reverse.takeWhile (· == 'X')).length
    if marks < 3 then failed ("mktemp: too few X's in template " ++ quoted template)
    else
      let s ← get
      let path (n : Nat) : Raw :=
        let ds := Text.Decimal.digits n
        let name := template.take (template.length - marks) ++
          List.replicate (marks - ds.length) 'a' ++ ds.drop (ds.length - marks)
        if folder.isEmpty then name else below folder name
      let count := s.tree.entries.length + 1
      let free := (List.range count).find? fun n =>
        match Files.entryAt s.tree s.folder (path n).toBytes .atLink with
        | .ok _ => false
        | .error _ => true
      let path := path (free.getD count)
      let fault ← if a.has 'u' then pure none
        else if a.has 'd' then
          change fun s => Files.makeFolder s.tree s.folder path.toBytes 0o700
        else change fun s => Files.writeFile s.tree s.folder path.toBytes [] 0o600
      match fault with
      | none =>
        Act.outLine path
        return 0
      | some f =>
        let kind := if a.has 'd' then "directory" else "file"
        failed ("mktemp: failed to create " ++ kind ++ " via template " ++ quoted template ++
          ": " ++ f.words)

end AgentPulse.Shell.Program
