import Rulebook.Config.Loader
import Rulebook.Session.Basic

/-!
# Settings in sessions

Settings are loaded once and kept until they are cleared. A load that fails keeps nothing.
-/

namespace Rulebook.Act

/-- Settings from arguments, over the environment and the configuration that was loaded last. -/
def settingsWith (arguments : List (Value × Value)) : Act Settings := do
  let s ← session
  ofObstacle (Config.loadSettings s.loaded s.host.environment arguments)

/-- Settings from the files and the environment as they are now, which are kept. -/
def loadSettings : Act (Created Settings) := do
  let loaded ← ofFault (Config.load (← session).host)
  change fun s => { s with loaded := loaded }
  let settings ← create (← settingsWith [])
  change fun s => { s with cached := some settings }
  return settings

/-- The settings that are kept; they are loaded if none are. -/
def settings : Act (Created Settings) := do
  match (← session).cached with
  | some settings => return settings
  | none => loadSettings

/-- Keeps no settings any longer. -/
def clearSettings : Act Unit := change fun s => { s with cached := none }

/-- The settings loaded anew. -/
def reloadSettings : Act (Created Settings) := do
  clearSettings
  settings

end Rulebook.Act
