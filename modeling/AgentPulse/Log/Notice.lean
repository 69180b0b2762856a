import AgentPulse.Bus.Topic
import AgentPulse.Text.Decimal
import AgentPulse.Text.Quoted

/-!
# Notices

What the program says about its own work, for the log: a level, a sentence, and named fields.
-/

namespace AgentPulse

/-- How important a notice is. -/
inductive Level where
  | error
  | warn
  | info
  | debug
  | trace
  deriving DecidableEq, Repr

namespace Level

/-- The word for a level. -/
def word : Level → String
  | .error => "ERROR"
  | .warn => "WARN"
  | .info => "INFO"
  | .debug => "DEBUG"
  | .trace => "TRACE"

end Level

/-- One thing to say in the log. -/
inductive Notice where
  | mailboxFull (agent : String) (id : SubscriptionId)
  | published (agent status : String) (delivered dropped : Nat)
  | subscribed (key : String) (id : SubscriptionId)
  | unsubscribed (key : String) (id : SubscriptionId)
  | readerGone (id : SubscriptionId)
  | registering (server command : String)
  | upserting (server : String)
  | removed (server : String)
  | replacingTool (tool : String)
  | invokingTool (tool : String)
  | runningCommand (command : String) (folder : Option String)
  deriving DecidableEq, Repr

namespace Notice

/-- What stands in a field of a notice. -/
inductive Content where
  | text (s : String)
  | subscription (id : SubscriptionId)
  deriving DecidableEq, Repr

/-- How important the notice is. -/
def level : Notice → Level
  | .mailboxFull .. | .published .. => .trace
  | .subscribed .. | .unsubscribed .. | .readerGone .. | .invokingTool .. | .runningCommand .. =>
    .debug
  | .registering .. | .upserting .. | .removed .. => .info
  | .replacingTool .. => .warn

/-- The sentence. -/
def message : Notice → String
  | .mailboxFull .. => "Subscriber queue full, heartbeat dropped"
  | .published .. => "Heartbeat published"
  | .subscribed .. => "Subscription registered"
  | .unsubscribed .. => "Subscription removed"
  | .readerGone .. => "Pruning subscription with closed queue"
  | .registering .. => "Registering server"
  | .upserting .. => "Upserting server"
  | .removed .. => "Removed server"
  | .replacingTool .. => "Tool already registered, replacing"
  | .invokingTool .. => "Invoking tool"
  | .runningCommand .. => "Running shell command"

/-- A text that may be absent, as it stands in a field. -/
def optional : Option String → String
  | none => "None"
  | some s => "Some(" ++ Text.quoted s ++ ")"

/-- The fields. -/
def fields : Notice → List (String × Content)
  | .mailboxFull agent id => [("agent_key", .text agent), ("subscription", .subscription id)]
  | .published agent status delivered dropped =>
    [("agent_key", .text agent), ("status", .text status),
      ("delivered", .text (Text.Decimal.ofNat delivered)),
      ("dropped", .text (Text.Decimal.ofNat dropped))]
  | .subscribed key id | .unsubscribed key id =>
    [("key", .text key), ("subscription", .subscription id)]
  | .readerGone id => [("subscription", .subscription id)]
  | .registering server command => [("server", .text server), ("command", .text command)]
  | .upserting server | .removed server => [("server", .text server)]
  | .replacingTool tool | .invokingTool tool => [("tool", .text tool)]
  | .runningCommand command folder =>
    [("command", .text command), ("cwd", .text (optional folder))]

end Notice

end AgentPulse
