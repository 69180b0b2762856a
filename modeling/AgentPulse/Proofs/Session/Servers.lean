import AgentPulse.Proofs.Server.Table
import AgentPulse.Proofs.Session.Run

/-!
# The servers of a session

To the table of servers any step of a session is one request or none (`servers_step`), also the step
in which a reader waits while another step is taken. So the table that steps lead to is one that
requests lead to (`servers_after`), and whatever holds of every such table holds in every session.
-/

namespace AgentPulse.Session

open ServerTable (Request)

theorem servers_setBoard (s : Session) (b : Board) (scope : Scope) :
    (s.setBoard b scope).servers = s.servers := by
  cases scope <;> rfl

theorem servers_meterObserve (s : Session) (name : String) (t : Totals) :
    (s.act (s.meterObserve name t)).session.servers = s.servers := by
  rw [meterObserve]
  cases s.meters.find? name with
  | none => rfl
  | some place => exact servers_setBoard ..

theorem servers_setServers (s : Session) (servers : ServerTable)
    (r : Except ServerTable.Refusal (Answer × List Notice)) :
    (s.setServers servers r).session.servers = servers := by
  cases r <;> rfl

/-- A step asks the table of servers one thing, or leaves it alone. -/
theorem servers_step (s : Session) (x : Step) :
    (s.step x).session.servers = s.servers ∨
    ∃ r : Request, (s.step x).session.servers = s.servers.next r := by
  induction x generalizing s with
  | registerServer server => exact .inr ⟨.register server, servers_setServers ..⟩
  | updateServer server => exact .inr ⟨.update server, servers_setServers ..⟩
  | upsertServer server => exact .inr ⟨.upsert server, servers_setServers ..⟩
  | removeServer name => exact .inr ⟨.remove name, servers_setServers ..⟩
  | waitDuring reader other ih =>
    rw [step]
    cases s.hub.lend reader with
    | error e => exact .inl rfl
    | ok lent =>
      have hother := ih { s with hub := (lent.2.takeFor lent.1).2 }
      -- What the reader gets in the end does not matter to the servers.
      dsimp only
      split <;> exact hother
  | onHub a =>
    rw [step, onHub]
    cases s.hub.step a <;> exact .inl rfl
  | publishMany handle beat count | report handle beat | produce handle producers count agents =>
    rw [step]
    cases s.bus handle <;> exact .inl rfl
  | store name key beat =>
    rw [step]
    cases s.archive name <;> exact .inl rfl
  | registerMeter meter label scope =>
    rw [step]
    cases (s.board scope).register label with
    | error e => exact .inl rfl
    | ok b => exact .inl (servers_setBoard s b scope)
  | observe meter source =>
    cases source with
    | inl t => exact .inl (servers_meterObserve s meter t)
    | inr handle =>
      rw [step]
      cases s.bus handle with
      | error e => exact .inl rfl
      | ok b => exact .inl (servers_meterObserve s meter b.totals)
  | putFile path content =>
    rw [step]
    cases Files.writeFile s.tree s.folder path content <;> exact .inl rfl
  | _ => exact .inl rfl

/-- The servers that steps lead to are those that some requests lead to. -/
theorem servers_after (s : Session) (steps : List Step) :
    ∃ requests, (s.after steps).servers = s.servers.after requests := by
  induction steps generalizing s with
  | nil => exact ⟨[], rfl⟩
  | cons x steps ih =>
    obtain ⟨requests, hrequests⟩ := ih (s.step x).session
    rcases servers_step s x with hstep | ⟨r, hstep⟩
    · exact ⟨requests, hrequests.trans (hstep ▸ rfl)⟩
    · exact ⟨r :: requests, hrequests.trans (hstep ▸ rfl)⟩

/-- In every session each server can be used and stands under its own name. -/
theorem servers_sound (steps : List Step) : (start.after steps).servers.Sound := by
  obtain ⟨requests, hrequests⟩ := servers_after start steps
  rw [hrequests]
  exact ServerTable.sound_empty.after requests

end AgentPulse.Session
