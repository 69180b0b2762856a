import AgentPulse.Shell.Script
import AgentPulse.Files.Tree

/-!
# Permissions in text

Permissions are given in octal, or as a list of changes: for whom, what is done, and which
permissions.
-/

namespace AgentPulse.Shell.Permission

open Files (Mode)

/-- One change: the bits of those whom it is for, what is done, and the permissions. -/
structure Change where
  /-- Three bits each for those whom it is for. -/
  whom : Mode
  /-- Whether nothing was said about whom it is for. -/
  isForAll : Bool
  action : Char
  permissions : Raw
  deriving Repr

/-- What permissions may be given to. -/
inductive Kind where
  | file
  | folder
  deriving DecidableEq, Repr

/-- The bits of the owner, the group or the others. -/
def bitsOf (c : Char) : Mode :=
  match c with
  | 'u' => 0o4700
  | 'g' => 0o2070
  | 'o' => 0o1007
  | _ => 0o7777

/-- The permissions that a change is about, for all. -/
def requested (old : Mode) (kind : Kind) (permissions : Raw) : Mode :=
  permissions.foldl (fun m c =>
    let spread (bits : Mode) : Mode := bits ||| (bits <<< 3) ||| (bits <<< 6)
    m ||| match c with
      | 'r' => 0o444
      | 'w' => 0o222
      | 'x' => 0o111
      | 'X' => if kind = .folder ∨ old &&& 0o111 ≠ 0 then 0o111 else 0
      | 's' => 0o6000
      | 't' => 0o1000
      | 'u' => spread ((old >>> 6) &&& 7)
      | 'g' => spread ((old >>> 3) &&& 7)
      | 'o' => spread (old &&& 7)
      | _ => 0) 0

/-- The permissions after a change. What the mask holds back is not given unless somebody is
named. -/
def Change.apply (c : Change) (mask : Mode) (kind : Kind) (old : Mode) : Mode :=
  let held := if c.isForAll then 0o7777 - mask else 0o7777
  let bits := requested old kind c.permissions &&& c.whom &&& held
  match c.action with
  | '+' => old ||| bits
  | '-' => old - (old &&& bits)
  | _ =>
    let special := if kind = .folder then 0o6000 else 0
    (old - (old &&& (c.whom &&& (0o7777 - special)))) ||| bits

/-- Read the actions of one change, from behind those whom it is for. -/
def readActions (whom : Raw) (cs : Raw) : Nat → Option (List Change × Raw)
  | 0 => none
  | fuel + 1 =>
    match cs with
    | action :: rest =>
      if action = '+' ∨ action = '-' ∨ action = '=' then do
        let permissions := rest.takeWhile fun c => "rwxXstugo".toList.contains c
        let change : Change :=
          { whom := if whom.isEmpty then 0o7777 else whom.foldl (fun m c => m ||| bitsOf c) 0
            isForAll := whom.isEmpty
            action
            permissions }
        let rest := rest.drop permissions.length
        if rest.isEmpty || rest.head? = some ',' then return ([change], rest)
        else
          let (more, rest) ← readActions whom rest fuel
          return (change :: more, rest)
      else none
    | [] => none

/-- Read changes with commas between them. -/
def readChanges (cs : Raw) : Nat → Option (List Change)
  | 0 => none
  | fuel + 1 => do
    let whom := cs.takeWhile fun c => "ugoa".toList.contains c
    let (changes, rest) ← readActions whom (cs.drop whom.length) (cs.length + 1)
    match rest with
    | [] => return changes
    | _ :: rest =>
      let more ← readChanges rest fuel
      return changes ++ more

/-- What a text asks to be done to permissions. -/
inductive Request where
  | exactly (mode : Mode)
  | changes (list : List Change)
  deriving Repr

/-- Read permissions. -/
def read? (cs : Raw) : Option Request :=
  if cs.head?.any Char.isDigit then
    if cs.all (fun c => '0' ≤ c && c ≤ '7') then
      let n := cs.foldl (fun n c => 8 * n + (c.toNat - '0'.toNat)) 0
      if n ≤ 0o7777 then some (.exactly n) else none
    else none
  else (readChanges cs (cs.length + 1)).map .changes

/-- The permissions after what was asked for is done. -/
def Request.apply (r : Request) (mask : Mode) (kind : Kind) (old : Mode) : Mode :=
  match r with
  | .exactly mode => mode
  | .changes list => list.foldl (fun m c => c.apply mask kind m) old

/-- Permissions in octal, in so many digits at least. -/
def octal (width : Nat) (mode : Mode) : Raw :=
  let ds := Nat.toDigits 8 mode
  List.replicate (width - ds.length) '0' ++ ds

/-- Permissions as a list of what the owner, the group and the others may do. -/
def symbolic (mode : Mode) : Raw :=
  let part (c : Char) (bits : Nat) : Raw :=
    c :: '=' :: (if bits &&& 4 ≠ 0 then ['r'] else []) ++
      (if bits &&& 2 ≠ 0 then ['w'] else []) ++ (if bits &&& 1 ≠ 0 then ['x'] else [])
  part 'u' ((mode >>> 6) &&& 7) ++ ',' :: part 'g' ((mode >>> 3) &&& 7) ++
    ',' :: part 'o' (mode &&& 7)

/-- Permissions in nine letters. -/
def letters (mode : Mode) : Raw :=
  let part (bits : Nat) : Raw :=
    [if bits &&& 4 ≠ 0 then 'r' else '-', if bits &&& 2 ≠ 0 then 'w' else '-',
      if bits &&& 1 ≠ 0 then 'x' else '-']
  part ((mode >>> 6) &&& 7) ++ part ((mode >>> 3) &&& 7) ++ part (mode &&& 7)

end AgentPulse.Shell.Permission
