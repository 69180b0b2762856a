import Mathlib.Data.Finmap
import Mathlib.Data.Finset.Sort
import Mathlib.Data.String.Basic
import AgentPulse.Proofs.Dict
import AgentPulse.Proofs.Server.Check

/-!
# The table of servers is a finite map

What can be asked of a table of servers is put side by side with a finite map from names to servers
that answers the same requests (`Request.onMap`). A table stands for a map when both find the same
under each name (`Represents`); one request keeps them together and gets one answer from both
(`Represents.serve`), so all requests of a run do (`answers_eq`).

Main statement: `behaves_as_map`, with the conditions under which each request is granted.
-/

namespace AgentPulse

namespace ServerTable

/-! ## Requests -/

/-- What can be asked of a table. -/
inductive Request where
  | register (s : Server)
  | upsert (s : Server)
  | update (s : Server)
  | remove (name : String)
  | find (name : String)
  | list
  | size
  | isEmpty

/-- What a table says to a request that is granted. -/
inductive Answer where
  | done
  | server (s : Option Server)
  | servers (l : List Server)
  | count (n : Nat)
  | truth (b : Bool)

/-- Grant or refuse a request: the table that the operation gives back, and the answer. -/
def serve (t : ServerTable) : Request → ServerTable × Except Refusal Answer
  | .register s => ((t.register s).1, (t.register s).2.map fun _ => .done)
  | .upsert s => ((t.upsert s).1, (t.upsert s).2.map fun r => .server r.1)
  | .update s => ((t.update s).1, (t.update s).2.map fun _ => .done)
  | .remove name => ((t.remove name).1, (t.remove name).2.map fun r => .server (some r.1))
  | .find name => (t, .ok (.server (t.find? name)))
  | .list => (t, .ok (.servers t.list))
  | .size => (t, .ok (.count t.size))
  | .isEmpty => (t, .ok (.truth t.isEmpty))

/-- The answer to a request. -/
def answer (t : ServerTable) (r : Request) : Except Refusal Answer := (t.serve r).2

/-- The table after a request. -/
def next (t : ServerTable) (r : Request) : ServerTable := (t.serve r).1

/-- The table after requests, one after the other. -/
def after (t : ServerTable) (requests : List Request) : ServerTable := requests.foldl next t

/-- The answers to requests that are made one after the other. -/
def answers (t : ServerTable) : List Request → List (Except Refusal Answer)
  | [] => []
  | r :: requests => t.answer r :: (t.next r).answers requests

/-- The name that a request may put into the table or take out of it. -/
def Request.target? : Request → Option String
  | .register s | .upsert s | .update s => some s.name
  | .remove name => some name
  | _ => none

/-! ## The finite map -/

/-- A finite map from names to servers. -/
abbrev Catalogue := Finmap fun _ : String => Server

/-- The servers of a map in the order of their names. -/
def Catalogue.inOrder (m : Catalogue) : List Server := m.keys.sort.filterMap m.lookup

/-- What a finite map answers, and which map it is then. -/
def Request.onMap (m : Catalogue) : Request → Except Refusal Answer × Catalogue
  | .register s =>
    match s.check with
    | .error flaw => (.error (.flaw flaw), m)
    | .ok () =>
      if s.name ∈ m then (.error (.taken s.name), m) else (.ok .done, m.insert s.name s)
  | .upsert s =>
    match s.check with
    | .error flaw => (.error (.flaw flaw), m)
    | .ok () => (.ok (.server (m.lookup s.name)), m.insert s.name s)
  | .update s =>
    match s.check with
    | .error flaw => (.error (.flaw flaw), m)
    | .ok () =>
      if s.name ∈ m then (.ok .done, m.insert s.name s) else (.error (.unknown s.name), m)
  | .remove name =>
    match m.lookup name with
    | some s => (.ok (.server (some s)), m.erase name)
    | none => (.error (.unknown name), m)
  | .find name => (.ok (.server (m.lookup name)), m)
  | .list => (.ok (.servers m.inOrder), m)
  | .size => (.ok (.count m.keys.card), m)
  | .isEmpty => (.ok (.truth (decide (m = ∅))), m)

/-- The map after requests, one after the other. -/
def Catalogue.after (m : Catalogue) (requests : List Request) : Catalogue :=
  requests.foldl (fun m r => (r.onMap m).2) m

/-- What a map answers to requests that are made one after the other. -/
def Catalogue.answers (m : Catalogue) : List Request → List (Except Refusal Answer)
  | [] => []
  | r :: requests => (r.onMap m).1 :: Catalogue.answers (r.onMap m).2 requests

/-! ## Single requests -/

variable {t : ServerTable} {s : Server} {name : String} {requests : List Request}

theorem check_eq (s : Server) : check s = s.check.mapError .flaw := rfl

theorem find?_put (t : ServerTable) (s : Server) (name : String) :
    (t.put s).find? name = if name = s.name then some s else t.find? name :=
  Dict.find?_insert ..

theorem checked_of_usable {α : Type} (h : s.check = .ok ())
    (granted : ServerTable × Except Refusal α) : t.checked s granted = granted := by
  rw [checked, check_eq, h]
  rfl

theorem checked_of_flaw {α : Type} {flaw : Server.Flaw} (h : s.check = .error flaw)
    (granted : ServerTable × Except Refusal α) :
    t.checked s granted = (t, .error (.flaw flaw)) := by
  rw [checked, check_eq, h]
  rfl

/-- If what is done for a server without a flaw leaves the table when it is refused, then so does
the operation that checks the server first. -/
theorem checked_fst_of_error {α : Type} {granted : ServerTable × Except Refusal α}
    (hgranted : ∀ e, granted.2 = .error e → granted.1 = t) {e : Refusal}
    (h : (t.checked s granted).2 = .error e) : (t.checked s granted).1 = t := by
  obtain ⟨-, hcheck⟩ | ⟨-, flaw, hcheck⟩ := s.isUsable_or_flaw
  · rw [checked_of_usable hcheck] at h ⊢
    exact hgranted e h
  · rw [checked_of_flaw hcheck]

theorem error_of_map {α β : Type} {x : Except Refusal α} {f : α → β} {e : Refusal}
    (h : x.map f = .error e) : x = .error e := by
  cases x with
  | ok a => cases h
  | error e' => cases h; rfl

theorem register_of_usable (h : s.check = .ok ()) :
    t.register s = if (t.find? s.name).isSome then (t, .error (.taken s.name))
      else (t.put s, .ok [.registering s.name s.command]) :=
  checked_of_usable h _

theorem upsert_of_usable (h : s.check = .ok ()) :
    t.upsert s = (t.put s, .ok (t.find? s.name, [.upserting s.name])) :=
  checked_of_usable h _

theorem update_of_usable (h : s.check = .ok ()) :
    t.update s = if (t.find? s.name).isSome then (t.put s, .ok ())
      else (t, .error (.unknown s.name)) :=
  checked_of_usable h _

/-- A flaw is reported before anything else. -/
theorem refused_of_flaw {flaw : Server.Flaw} (h : s.check = .error flaw) :
    t.register s = (t, .error (.flaw flaw)) ∧ t.upsert s = (t, .error (.flaw flaw)) ∧
      t.update s = (t, .error (.flaw flaw)) :=
  ⟨checked_of_flaw h _, checked_of_flaw h _, checked_of_flaw h _⟩

theorem register_ok_iff :
    (∃ notices, (t.register s).2 = .ok notices) ↔ s.IsUsable ∧ t.find? s.name = none := by
  obtain ⟨husable, hcheck⟩ | ⟨hnot, flaw, hcheck⟩ := s.isUsable_or_flaw
  · rw [register_of_usable hcheck]
    cases hfind : t.find? s.name with
    | none => exact ⟨fun _ => ⟨husable, rfl⟩, fun _ => ⟨_, rfl⟩⟩
    | some old => exact ⟨nofun, nofun⟩
  · rw [(refused_of_flaw hcheck).1]
    exact ⟨nofun, fun h => absurd h.1 hnot⟩

theorem update_ok_iff :
    (t.update s).2 = .ok () ↔ s.IsUsable ∧ ∃ old, t.find? s.name = some old := by
  obtain ⟨husable, hcheck⟩ | ⟨hnot, flaw, hcheck⟩ := s.isUsable_or_flaw
  · rw [update_of_usable hcheck]
    cases hfind : t.find? s.name with
    | none => exact ⟨nofun, nofun⟩
    | some old => exact ⟨fun _ => ⟨husable, old, rfl⟩, fun _ => rfl⟩
  · rw [(refused_of_flaw hcheck).2.2]
    exact ⟨nofun, fun h => absurd h.1 hnot⟩

theorem upsert_ok_iff {old : Option Server} :
    (∃ notices, (t.upsert s).2 = .ok (old, notices)) ↔ s.IsUsable ∧ old = t.find? s.name := by
  obtain ⟨husable, hcheck⟩ | ⟨hnot, flaw, hcheck⟩ := s.isUsable_or_flaw
  · rw [upsert_of_usable hcheck]
    exact ⟨fun ⟨_, h⟩ => ⟨husable, by cases h; rfl⟩, fun h => ⟨_, by rw [h.2]⟩⟩
  · rw [(refused_of_flaw hcheck).2.1]
    exact ⟨nofun, fun h => absurd h.1 hnot⟩

theorem remove_ok_iff :
    (∃ notices, (t.remove name).2 = .ok (s, notices)) ↔ t.find? name = some s := by
  unfold remove
  cases hfind : t.find? name with
  | none => exact ⟨nofun, nofun⟩
  | some old => exact ⟨fun ⟨_, h⟩ => by cases h; rfl, fun h => by cases h; exact ⟨_, rfl⟩⟩

/-- Taking out a name that nothing stands under leaves the table as it is. -/
theorem remove_of_find?_eq_none (h : t.find? name = none) :
    t.remove name = (t, .error (.unknown name)) := by
  have herase : t.servers.erase name = t.servers := Dict.erase_of_find?_eq_none h
  rw [remove, h, herase]

/-- What one request can make of a table: nothing, or the entry of its own name is put in or taken
out. -/
theorem next_cases (t : ServerTable) (r : Request) :
    t.next r = t ∨
    (∃ s, s.IsUsable ∧ r.target? = some s.name ∧ t.next r = t.put s) ∨
    ∃ name, r.target? = some name ∧ t.next r = { t with servers := t.servers.erase name } := by
  unfold next
  cases r with
  | register s | upsert s | update s =>
    obtain ⟨husable, hcheck⟩ | ⟨-, flaw, hcheck⟩ := s.isUsable_or_flaw
    · simp only [serve, register_of_usable hcheck, upsert_of_usable hcheck,
        update_of_usable hcheck]
      cases hfind : t.find? s.name with
      | none => first | exact .inr (.inl ⟨s, husable, rfl, rfl⟩) | exact .inl rfl
      | some old => first | exact .inr (.inl ⟨s, husable, rfl, rfl⟩) | exact .inl rfl
    · obtain ⟨hregister, hupsert, hupdate⟩ := refused_of_flaw (t := t) hcheck
      simp only [serve, hregister, hupsert, hupdate]
      exact .inl trivial
  | remove name => exact .inr (.inr ⟨name, rfl, rfl⟩)
  | find | list | size | isEmpty => exact .inl rfl

/-- A request leaves all names but its own alone. -/
theorem find?_next_of_ne {r : Request} (h : r.target? ≠ some name) :
    (t.next r).find? name = t.find? name := by
  obtain hnext | ⟨s, -, htarget, hnext⟩ | ⟨other, htarget, hnext⟩ := t.next_cases r
  · rw [hnext]
  · have hne : name ≠ s.name := fun e => h (e ▸ htarget)
    rw [hnext, find?_put, if_neg hne]
  · have hne : name ≠ other := fun e => h (e ▸ htarget)
    rw [hnext]
    exact (Dict.find?_erase ..).trans (if_neg hne)

/-- A request that is refused gives the table back as it was. -/
theorem next_of_error {r : Request} {e : Refusal} (h : t.answer r = .error e) : t.next r = t := by
  cases r with
  | register s =>
    refine checked_fst_of_error (fun e hgranted => ?_) (error_of_map h)
    split at hgranted
    next htaken => rw [if_pos htaken]
    next => cases hgranted
  | upsert s => exact checked_fst_of_error (fun e hgranted => by cases hgranted) (error_of_map h)
  | update s =>
    refine checked_fst_of_error (fun e hgranted => ?_) (error_of_map h)
    split at hgranted
    next => cases hgranted
    next hfree => rw [if_neg hfree]
  | remove name =>
    cases hfind : t.find? name with
    | none => exact congrArg Prod.fst (remove_of_find?_eq_none hfind)
    | some old =>
      rw [answer, serve, remove, hfind] at h
      cases h
  | find | list | size | isEmpty => rfl

/-! ## What a table holds -/

/-- Each server is usable and stands under its own name. -/
def Sound (t : ServerTable) : Prop :=
  ∀ name s, t.find? name = some s → s.IsUsable ∧ s.name = name

theorem sound_empty : empty.Sound := nofun

theorem Sound.next (h : t.Sound) (r : Request) : (t.next r).Sound := by
  intro name s hfind
  obtain hnext | ⟨new, husable, -, hnext⟩ | ⟨other, -, hnext⟩ := t.next_cases r
  · exact h name s (hnext ▸ hfind)
  · rw [hnext, find?_put] at hfind
    split at hfind
    next hname => cases hfind; exact ⟨husable, hname.symm⟩
    next => exact h name s hfind
  · rw [hnext] at hfind
    have hfind : (t.servers.erase other).find? name = some s := hfind
    rw [Dict.find?_erase] at hfind
    split at hfind
    next => cases hfind
    next => exact h name s hfind

theorem Sound.after (h : t.Sound) (requests : List Request) : (t.after requests).Sound := by
  induction requests generalizing t with
  | nil => exact h
  | cons r requests ih => exact ih (h.next r)

theorem mem_list : s ∈ t.list ↔ ∃ name, t.find? name = some s := by
  rw [list, Dict.values, List.mem_map]
  exact ⟨fun ⟨e, he, h⟩ => ⟨e.1, h ▸ Dict.mem_entries.mp he⟩,
    fun ⟨name, h⟩ => ⟨(name, s), Dict.mem_entries.mpr h, rfl⟩⟩

/-- The servers are listed in the order of their names, each once. -/
theorem Sound.map_name_list (h : t.Sound) : t.list.map (·.name) = t.servers.keys := by
  rw [list, Dict.values, Dict.keys, List.map_map]
  exact List.map_congr_left fun e he => (h e.1 e.2 (Dict.mem_entries.mp he)).2

theorem size_eq (t : ServerTable) : t.size = t.list.length := by
  rw [size, Dict.size, list, Dict.values, List.length_map]

theorem isEmpty_eq (t : ServerTable) : t.isEmpty = t.list.isEmpty := by
  rw [isEmpty, Dict.isEmpty, list, Dict.values, List.isEmpty_map]

/-! ## Table and map -/

/-- The table finds what the map finds. -/
def Represents (t : ServerTable) (m : Catalogue) : Prop := ∀ name, m.lookup name = t.find? name

namespace Represents

variable {m : Catalogue}

theorem empty : Represents ServerTable.empty ∅ := fun name => Finmap.lookup_empty name

theorem mem_iff (h : t.Represents m) : name ∈ m ↔ (t.find? name).isSome := by
  rw [← Finmap.lookup_isSome, h name]

theorem put (h : t.Represents m) (s : Server) : (t.put s).Represents (m.insert s.name s) := by
  intro name
  rw [find?_put]
  split
  next hname => rw [hname, Finmap.lookup_insert]
  next hname => rw [Finmap.lookup_insert_of_ne m hname, h name]

theorem erase (h : t.Represents m) (name : String) :
    Represents { t with servers := t.servers.erase name } (m.erase name) := by
  intro other
  show _ = (t.servers.erase name).find? other
  rw [Dict.find?_erase]
  split
  next hother => rw [hother, Finmap.lookup_erase]
  next hother => rw [Finmap.lookup_erase_ne hother, h other]; rfl

/-- Both have the same names. -/
theorem keys_eq (h : t.Represents m) : m.keys = t.servers.keys.toFinset := by
  ext name
  rw [Finmap.mem_keys, h.mem_iff, List.mem_toFinset, Dict.mem_keys]
  rfl

theorem sort_keys (h : t.Represents m) : m.keys.sort = t.servers.keys := by
  rw [h.keys_eq]
  exact (List.toFinset_sort _ t.servers.keys_nodup).mpr
    (t.servers.keys_ascending.imp fun hlt => le_of_lt hlt)

theorem inOrder_eq (h : t.Represents m) : m.inOrder = t.list := by
  rw [Catalogue.inOrder, h.sort_keys, Dict.keys, list, Dict.values, List.filterMap_map,
    ← List.filterMap_eq_map]
  refine List.filterMap_congr fun e he => ?_
  rw [Function.comp_apply, h e.1]
  exact Dict.mem_entries.mp he

theorem card_keys (h : t.Represents m) : m.keys.card = t.size := by
  rw [h.keys_eq, List.toFinset_card_of_nodup t.servers.keys_nodup, size, Dict.size_eq_length_keys]

theorem eq_empty_iff (h : t.Represents m) : m = ∅ ↔ t.isEmpty = true := by
  constructor
  · intro hm
    refine Dict.isEmpty_iff.mpr (Dict.ext_find? fun name => ?_)
    exact (h name).symm.trans (hm ▸ Finmap.lookup_empty name)
  · intro hempty
    refine Finmap.ext_lookup fun name => ?_
    rw [h name, find?, Dict.isEmpty_iff.mp hempty, Finmap.lookup_empty, Dict.find?_empty]

/-- One request is answered the same by both and leaves a table that still stands for the map. -/
theorem serve (h : t.Represents m) (r : Request) :
    t.answer r = (r.onMap m).1 ∧ (t.next r).Represents (r.onMap m).2 := by
  unfold answer next
  cases r with
  | register s | upsert s | update s =>
    obtain ⟨-, hcheck⟩ | ⟨-, flaw, hcheck⟩ := s.isUsable_or_flaw
    · simp only [ServerTable.serve, Request.onMap, register_of_usable hcheck,
        upsert_of_usable hcheck, update_of_usable hcheck, hcheck, h.mem_iff, h s.name]
      cases hfind : t.find? s.name with
      | none => first | exact ⟨rfl, h.put s⟩ | exact ⟨rfl, h⟩
      | some old => first | exact ⟨rfl, h.put s⟩ | exact ⟨rfl, h⟩
    · obtain ⟨hregister, hupsert, hupdate⟩ := refused_of_flaw (t := t) hcheck
      simp only [ServerTable.serve, Request.onMap, hregister, hupsert, hupdate, hcheck]
      exact ⟨rfl, h⟩
  | remove name =>
    simp only [ServerTable.serve, Request.onMap, h name]
    cases hfind : t.find? name with
    | none =>
      rw [remove_of_find?_eq_none hfind]
      exact ⟨rfl, h⟩
    | some old =>
      rw [remove, hfind]
      exact ⟨rfl, h.erase name⟩
  | find name =>
    rw [ServerTable.serve, Request.onMap, h name]
    exact ⟨rfl, h⟩
  | list =>
    rw [ServerTable.serve, Request.onMap, h.inOrder_eq]
    exact ⟨rfl, h⟩
  | size =>
    rw [ServerTable.serve, Request.onMap, h.card_keys]
    exact ⟨rfl, h⟩
  | isEmpty =>
    simp only [ServerTable.serve, Request.onMap, h.eq_empty_iff, Bool.decide_eq_true]
    exact ⟨trivial, h⟩

theorem after (h : t.Represents m) (requests : List Request) :
    (t.after requests).Represents (m.after requests) := by
  induction requests generalizing t m with
  | nil => exact h
  | cons r requests ih => exact ih (h.serve r).2

theorem answers_eq (h : t.Represents m) (requests : List Request) :
    t.answers requests = m.answers requests := by
  induction requests generalizing t m with
  | nil => rfl
  | cons r requests ih =>
    obtain ⟨hanswer, hnext⟩ := h.serve r
    rw [answers, Catalogue.answers, hanswer, ih hnext]

end Represents

/-- From no servers on, a table answers every request as a finite map from names to servers does,
and finds what the map finds. A server is registered exactly when it is usable and its name free,
updated exactly when it is usable and its name taken, put in or replaced exactly when it is usable,
and what was there before is the answer; a name is removed exactly when something stands under it. A
flaw comes before the question whether a name is taken. A refused request changes nothing, a granted
one only its own name. Each server of the table is usable and stands under its own name, and the
list has exactly the servers that are found, names ascending. -/
theorem behaves_as_map (requests : List Request) :
    let t := empty.after requests
    empty.answers requests = Catalogue.answers ∅ requests ∧
    (∀ name, Finmap.lookup name (Catalogue.after ∅ requests) = t.find? name) ∧
    (∀ s, (∃ notices, (t.register s).2 = .ok notices) ↔
      s.IsUsable ∧ t.find? s.name = none) ∧
    (∀ s, (t.update s).2 = .ok () ↔ s.IsUsable ∧ ∃ old, t.find? s.name = some old) ∧
    (∀ s old, (∃ notices, (t.upsert s).2 = .ok (old, notices)) ↔
      s.IsUsable ∧ old = t.find? s.name) ∧
    (∀ name s, (∃ notices, (t.remove name).2 = .ok (s, notices)) ↔ t.find? name = some s) ∧
    (∀ s, ¬ s.IsUsable → ∃ flaw, s.check = .error flaw ∧ t.register s = (t, .error (.flaw flaw)) ∧
      t.upsert s = (t, .error (.flaw flaw)) ∧ t.update s = (t, .error (.flaw flaw))) ∧
    (∀ r e, t.answer r = .error e → t.next r = t) ∧
    (∀ r name, r.target? ≠ some name → (t.next r).find? name = t.find? name) ∧
    (∀ name s, t.find? name = some s → s.IsUsable ∧ s.name = name) ∧
    (t.list.map (·.name)).Pairwise (· < ·) ∧
    (∀ s, s ∈ t.list ↔ t.find? s.name = some s) ∧
    t.size = t.list.length ∧ (t.isEmpty = true ↔ t.list = []) := by
  intro t
  have hsound : t.Sound := sound_empty.after requests
  refine ⟨Represents.empty.answers_eq requests, Represents.empty.after requests,
    fun s => register_ok_iff, fun s => update_ok_iff, fun s old => upsert_ok_iff,
    fun name s => remove_ok_iff, fun s hnot => ?_, fun r e => next_of_error,
    fun r name => find?_next_of_ne, hsound, ?_, fun s => ?_, t.size_eq, ?_⟩
  · obtain ⟨husable, -⟩ | ⟨-, flaw, hcheck⟩ := s.isUsable_or_flaw
    · exact absurd husable hnot
    · exact ⟨flaw, hcheck, refused_of_flaw hcheck⟩
  · rw [hsound.map_name_list]
    exact t.servers.keys_ascending
  · rw [mem_list]
    exact ⟨fun ⟨name, h⟩ => by rw [(hsound name s h).2, h], fun h => ⟨_, h⟩⟩
  · rw [t.isEmpty_eq, List.isEmpty_iff]

/-- A name that is taken is refused to a second server, which may still be put in its place. -/
theorem behaves_as_map_taken_name :
    let first : Server := { name := "files", command := "serve" }
    let second : Server := { name := "files", command := "serve", args := ["fast"] }
    let requests : List Request := [.register first, .register second, .upsert second]
    let t := empty.after requests
    t.find? "files" = some second ∧ second.IsUsable ∧ t.list = [second] ∧
      ¬ ∃ notices, (t.register first).2 = .ok notices := by
  intro first second requests t
  obtain ⟨-, -, hregister, -, -, -, -, -, -, hsound, -⟩ := behaves_as_map requests
  have hfind : t.find? "files" = some second := by decide +kernel
  refine ⟨hfind, (hsound "files" second hfind).1, by decide +kernel, fun hgranted => ?_⟩
  have hfree := ((hregister first).mp hgranted).2
  rw [show first.name = "files" from rfl, hfind] at hfree
  cases hfree

end ServerTable

end AgentPulse
