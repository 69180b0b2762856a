import AgentPulse.Server.Table

/-!
# Which servers can be registered

A server passes the check exactly when it is usable (`check_eq_ok`): its name is a word, its command
names something to run, and each key of its environment can be told from the value after it.
-/

namespace AgentPulse

namespace Text

/-- The code points with the Unicode property `White_Space`. -/
def whiteSpace : List Nat :=
  [0x9, 0xA, 0xB, 0xC, 0xD, 0x20, 0x85, 0xA0, 0x1680, 0x2000, 0x2001, 0x2002, 0x2003, 0x2004,
    0x2005, 0x2006, 0x2007, 0x2008, 0x2009, 0x200A, 0x2028, 0x2029, 0x202F, 0x205F, 0x3000]

theorem isBlank_iff {c : Char} : isBlank c = true ↔ c.toNat ∈ whiteSpace := by
  simp only [isBlank, whiteSpace, Bool.or_eq_true, Bool.and_eq_true, decide_eq_true_eq,
    beq_iff_eq, List.mem_cons, List.not_mem_nil, or_false]
  omega

theorem isBlank_eq_false_iff {c : Char} : isBlank c = false ↔ c.toNat ∉ whiteSpace := by
  rw [← isBlank_iff, Bool.not_eq_true]

end Text

namespace Server

variable {s : Server} {name command key : String}

/-- What a server must be for the table to take it. -/
structure IsUsable (s : Server) : Prop where
  name_ne : s.name ≠ ""
  name_solid : ∀ c ∈ s.name.toList, c.toNat ∉ Text.whiteSpace
  command : ∃ c ∈ s.command.toList, c.toNat ∉ Text.whiteSpace
  env : ∀ key value, s.env.find? key = some value → key ≠ "" ∧ '=' ∉ key.toList

theorem toList_isEmpty_iff {text : String} : text.toList.isEmpty = true ↔ text = "" := by
  rw [List.isEmpty_iff, String.toList_eq_nil_iff]

theorem isName_iff :
    isName name = true ↔ name ≠ "" ∧ ∀ c ∈ name.toList, c.toNat ∉ Text.whiteSpace := by
  rw [isName, Bool.and_eq_true, Bool.not_eq_true', ← Bool.not_eq_true, toList_isEmpty_iff,
    Bool.not_eq_true', List.any_eq_false]
  simp only [Text.isBlank_iff, ne_eq]

theorem isCommand_iff :
    isCommand command = true ↔ ∃ c ∈ command.toList, c.toNat ∉ Text.whiteSpace := by
  rw [isCommand, List.any_eq_true]
  simp only [Bool.not_eq_true', Text.isBlank_eq_false_iff]

theorem isEnvKey_iff : isEnvKey key = true ↔ key ≠ "" ∧ '=' ∉ key.toList := by
  rw [isEnvKey, Bool.and_eq_true, Bool.not_eq_true', ← Bool.not_eq_true, toList_isEmpty_iff,
    Bool.not_eq_true', ← Bool.not_eq_true, List.contains_iff_mem]

/-- A check finds a flaw in all servers but the usable ones. -/
theorem check_eq_ok : s.check = .ok () ↔ s.IsUsable := by
  unfold check
  split
  next hname =>
    have hnot : ¬ isName s.name = true := by simpa using hname
    exact ⟨nofun, fun h => absurd (isName_iff.mpr ⟨h.name_ne, h.name_solid⟩) hnot⟩
  next hname =>
    have hname : isName s.name = true := by simpa using hname
    split
    next hcommand =>
      have hnot : ¬ isCommand s.command = true := by simpa using hcommand
      exact ⟨nofun, fun h => absurd (isCommand_iff.mpr h.command) hnot⟩
    next hcommand =>
      have hcommand : isCommand s.command = true := by simpa using hcommand
      split
      next key hfind =>
        refine ⟨nofun, fun h => ?_⟩
        have hbad : isEnvKey key = false := by simpa using List.find?_some hfind
        obtain ⟨value, hvalue⟩ :=
          Option.isSome_iff_exists.mp (Dict.mem_keys.mp (List.mem_of_find?_eq_some hfind))
        rw [isEnvKey_iff.mpr (h.env key value hvalue)] at hbad
        cases hbad
      next hfind =>
        refine ⟨fun _ => ?_, fun _ => rfl⟩
        obtain ⟨hne, hsolid⟩ := isName_iff.mp hname
        refine ⟨hne, hsolid, isCommand_iff.mp hcommand, fun key value hvalue => ?_⟩
        have hkey : key ∈ s.env.keys := Dict.mem_keys.mpr (by rw [hvalue]; rfl)
        have hgood := List.find?_eq_none.mp hfind key hkey
        exact isEnvKey_iff.mp (by simpa using hgood)

/-- A server is usable or has a flaw that the check finds. -/
theorem isUsable_or_flaw (s : Server) :
    (s.IsUsable ∧ s.check = .ok ()) ∨ ¬ s.IsUsable ∧ ∃ flaw, s.check = .error flaw := by
  cases hcheck : s.check with
  | ok _ => exact .inl ⟨check_eq_ok.mp hcheck, rfl⟩
  | error flaw =>
    refine .inr ⟨fun h => ?_, flaw, rfl⟩
    rw [check_eq_ok.mpr h] at hcheck
    cases hcheck

end Server

end AgentPulse
