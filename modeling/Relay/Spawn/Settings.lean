import Relay.Settings
import Relay.Spawn.Basic

namespace Relay.Spawn

/-- The configuration of a pool; without settings it is unbounded. -/
def Config.ofSettings (s : Settings) : Except Settings.Error Config := do
  let limit ← s.find "goroutines.max" .size
  let saturation ← s.findD "goroutines.saturation" (.word Saturation "SaturationPolicy") .block
  return { unbounded with limit, saturation }

end Relay.Spawn
