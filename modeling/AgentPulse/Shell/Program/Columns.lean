import AgentPulse.Shell.Script

/-!
# Names next to each other

Names in as many columns as a line has room for: `down` fills one column after the other, `across`
one line after the other. `withCommas` breaks a list where a line is full.
-/

namespace AgentPulse.Shell.Program.Columns

/-- The room that a line has. -/
def lineWidth : Nat := 80

/-- The least room that a column takes. -/
def leastWidth : Nat := 3

/-- The blanks between columns. -/
def spacing : Nat := 2

/-- How far apart the stops of a tab are. -/
def tabStop : Nat := 8

/-- Blanks that lead from one place in a line to another, as tabs where one reaches a stop. -/
def blanks (start goal : Nat) : Raw := go (goal - start) start
where
  /-- The same, with at most so many blanks. -/
  go : Nat → Nat → Raw
    | 0, _ => []
    | n + 1, start =>
      if goal ≤ start then []
      else if (start + 1) / tabStop < goal / tabStop then
        '\t' :: go n (start + (tabStop - start % tabStop))
      else ' ' :: go n (start + 1)

/-- How many lines some names take in so many columns. -/
def lineCount (names : List Raw) (columns : Nat) : Nat := (names.length + columns - 1) / columns

/-- The widths of so many columns, if a name's place among them is known by its number. -/
def widths (names : List Raw) (columns : Nat) (columnOf : Nat → Nat) : List Nat :=
  let gathered := names.zipIdx.foldl (fun (found : Array Nat) (e : Raw × Nat) =>
    let column := columnOf e.2
    let own := e.1.length + (if column + 1 = columns then 0 else spacing)
    found.modify column (max own)) (Array.replicate columns leastWidth)
  gathered.toList

/-- The widths of as many columns as there is room for. -/
def best (names : List Raw) (columnOf : Nat → Nat → Nat) : List Nat :=
  let most := min (lineWidth / leastWidth) names.length
  let tried := (List.range most).reverse.map fun n => widths names (n + 1) (columnOf (n + 1))
  (tried.find? fun ws => ws.length ≤ 1 || ws.foldl (· + ·) 0 < lineWidth).getD [leastWidth]

/-- A line of names, each but the last with blanks up to the next column. -/
def line (start : Nat) : List Raw → List Nat → Raw
  | [], _ => []
  | [name], _ => name
  | name :: rest, [] => name ++ line start rest []
  | name :: rest, w :: ws => name ++ blanks (start + name.length) (start + w) ++
      line (start + w) rest ws

/-- The names in columns, from top to bottom. -/
def down (names : List Raw) : List Raw :=
  let ws := best names fun columns n => n / lineCount names columns
  let count := lineCount names ws.length
  (List.range count).map fun (row : Nat) =>
    line 0 ((names.zipIdx.filter fun (e : Raw × Nat) => e.2 % count == row).map (·.1)) ws

/-- The names in columns, from left to right. -/
def across (names : List Raw) : List Raw :=
  let ws := best names fun columns n => n % columns
  (List.range (lineCount names ws.length)).map fun (row : Nat) =>
    line 0 ((names.drop (row * ws.length)).take ws.length) ws

/-- The names with commas between them. A line is broken before a name that it has no room for. -/
def withCommas (names : List Raw) : Raw :=
  match names with
  | [] => []
  | name :: rest => name ++ go name.length rest
where
  /-- The names behind others that a line holds so much of. -/
  go (filled : Nat) : List Raw → Raw
    | [] => []
    | name :: rest =>
      if filled + name.length + 2 < lineWidth then
        ',' :: ' ' :: name ++ go (filled + 2 + name.length) rest
      else ',' :: '\n' :: name ++ go name.length rest

end AgentPulse.Shell.Program.Columns
