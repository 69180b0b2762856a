import AgentPulse.Beat.Basic

/-!
# The archive

The last beats under each key, oldest first. A key is listed once it has a beat. The key that a beat
is stored under need not be the agent's own.
-/

namespace AgentPulse

/-- The last beats under each key. -/
structure Archive where
  /-- How many beats are kept under one key. -/
  capacity : Nat
  /-- The kept beats, oldest first. -/
  shelves : Dict (List Beat) := Dict.empty
  /-- At least one beat is kept. -/
  capacity_pos : 0 < capacity := by omega

namespace Archive

/-- An archive with nothing in it. A capacity of zero acts as one. -/
def ofCapacity (capacity : Nat) : Archive where
  capacity := max capacity 1

/-- The last `n` items of a list. -/
def lastOf {α : Type} (n : Nat) (l : List α) : List α := l.drop (l.length - n)

/-- Everything kept under a key, oldest first. -/
def history (a : Archive) (key : String) : List Beat := (a.shelves.find? key).getD []

/-- Store a beat under a key; the oldest one there gives way when there are too many. -/
def append (a : Archive) (key : String) (b : Beat) : Archive :=
  { a with shelves := a.shelves.insert key (lastOf a.capacity (a.history key ++ [b])) }

/-- The last `count` beats under a key, oldest first. -/
def recent (a : Archive) (key : String) (count : Nat) : List Beat := lastOf count (a.history key)

/-- The last beat under a key. -/
def latest? (a : Archive) (key : String) : Option Beat := (a.history key).getLast?

/-- The keys with a beat, ascending. -/
def keys (a : Archive) : List String :=
  (a.shelves.entries.filter fun e => !e.2.isEmpty).map (·.1)

/-- How many beats are kept under a key. -/
def sizeOf (a : Archive) (key : String) : Nat := (a.history key).length

/-- How many keys have a beat. -/
def keyCount (a : Archive) : Nat := a.shelves.values.countP fun l => !l.isEmpty

/-- How many beats are kept under all keys. -/
def total (a : Archive) : Nat := a.shelves.values.flatten.length

end Archive

end AgentPulse
