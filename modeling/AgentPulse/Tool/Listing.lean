import AgentPulse.Text.Utf8

/-!
# Listings of folders

The names in a folder, one a line, in the order of their bytes. The name of a folder is followed by
a slash, and the slash counts in the order.
-/

namespace AgentPulse.Tool

/-- How one entry is listed. -/
def listedName (name : Bytes) (isFolder : Bool) : String :=
  Text.Utf8.lossy name ++ if isFolder then "/" else ""

/-- Texts in ascending order. -/
def ascending (texts : List String) : List String := texts.mergeSort fun a b => decide (a ≤ b)

/-- The listing of entries, given in any order. -/
def listing (entries : List (Bytes × Bool)) : String :=
  String.intercalate "\n" (ascending (entries.map fun e => listedName e.1 e.2))

end AgentPulse.Tool
