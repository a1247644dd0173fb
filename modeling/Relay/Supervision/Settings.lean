import Relay.Settings
import Relay.Supervision.Strategy

namespace Relay.RestartStrategy

/-- The strategy that settings ask for; what they leave open is standard. -/
def ofSettings (s : Settings) : Except Settings.Error RestartStrategy := do
  let policy ← s.findD "supervisor.policy" (.word RestartPolicy "RestartPolicy") standard.policy
  let maxRestarts ← s.findD "supervisor.max_restarts" .size standard.maxRestarts
  let seconds ← s.find "supervisor.time_window_secs" (.natural "u64" 64)
  return ⟨policy, maxRestarts, seconds.elim standard.window Duration.ofSeconds⟩

end Relay.RestartStrategy
